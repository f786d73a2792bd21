import Tabletop.Document.Reader
import Tabletop.Proofs.Document.Lexing

/-!
# Documents put together again

The machine that puts tokens together makes of the tokens of a document that document. So a plain
document is read from its own text.
-/

namespace Tabletop.Document

variable {d : Document} {r r' : Reading} {t : Token}

private theorem foldlM_step (h : readStep r t = some r') (ts : List Token) :
    (t :: ts).foldlM readStep r = ts.foldlM readStep r' := by
  rw [List.foldlM_cons, h]
  rfl

/-- Where a value is due the tokens of a document deliver that document. -/
private def Delivers (d : Document) : Prop :=
  ∀ stack rest, (tokens d ++ rest).foldlM readStep (.value stack) =
    rest.foldlM readStep (deliver d stack)

/-! ## Arrays -/

private theorem delivers_items {d : Document} {ds : List Document}
    (h : ∀ e ∈ d :: ds, Delivers e) (done : List Document) (stack : List Frame)
    (rest : List Token) :
    (itemTokens (d :: ds) ++ .mark .closeArray :: rest).foldlM readStep
        (.value (.items done :: stack)) =
      rest.foldlM readStep (deliver (.array (done.reverse ++ d :: ds)) stack) := by
  induction ds generalizing d done with
  | nil =>
    rw [itemTokens, h d List.mem_cons_self, deliver, foldlM_step rfl, List.reverse_cons]
  | cons e es ih =>
    obtain ⟨hd, hes⟩ := List.forall_mem_cons.mp h
    rw [itemTokens_cons_cons, List.append_assoc, List.cons_append, hd, deliver, foldlM_step rfl,
      ih hes, List.reverse_cons, List.append_assoc, List.singleton_append]

/-- No document starts with the end of an array. -/
private theorem exists_tokens_cons (d : Document) :
    ∃ t ts, tokens d = t :: ts ∧ t ≠ .mark .closeArray := by
  cases d <;> exact ⟨_, _, rfl, nofun⟩

private theorem exists_itemTokens_cons (d : Document) (ds : List Document) :
    ∃ t ts, itemTokens (d :: ds) = t :: ts ∧ t ≠ .mark .closeArray := by
  obtain ⟨t, ts, ht, hne⟩ := exists_tokens_cons d
  cases ds with
  | nil => exact ⟨t, ts, ht, hne⟩
  | cons e es =>
    refine ⟨t, ts ++ .mark .comma :: itemTokens (e :: es), ?_, hne⟩
    rw [itemTokens_cons_cons, ht, List.cons_append]

/-- The first item of an array is read like any other value. -/
private theorem readStep_firstItem (h : t ≠ .mark .closeArray) (stack : List Frame) :
    readStep (.firstItem stack) t = readStep (.value (.items [] :: stack)) t := by
  unfold readStep
  split <;> simp_all

private theorem delivers_array {items : List Document} (h : ∀ d ∈ items, Delivers d) :
    Delivers (.array items) := by
  intro stack rest
  rw [tokens, List.cons_append, foldlM_step rfl, List.append_assoc, List.singleton_append]
  cases items with
  | nil =>
    rw [itemTokens, List.nil_append]
    exact foldlM_step rfl rest
  | cons d ds =>
    obtain ⟨t, ts, ht, hne⟩ := exists_itemTokens_cons d ds
    have hitems := delivers_items h [] stack rest
    rw [ht, List.cons_append, List.foldlM_cons] at hitems ⊢
    rw [readStep_firstItem hne, hitems, List.reverse_nil, List.nil_append]

/-! ## Objects -/

/-- A field whose name is not broken. -/
private def named (f : String × Document) : Option String × Document := (some f.1, f.2)

private theorem objectOf_named (fields : List (String × Document)) :
    objectOf (fields.map named).reverse = .object fields := by
  have hmapM : (fields.map named).mapM (fun f => f.1.map fun key => (key, f.2)) = some fields := by
    induction fields with
    | nil => rfl
    | cons f fields ih =>
      rw [List.map_cons, List.mapM_cons, ih]
      rfl
  rw [objectOf, List.reverse_reverse, hmapM]

private theorem delivers_fields {f : String × Document} {fields : List (String × Document)}
    (h : ∀ g ∈ f :: fields, Delivers g.2) (before : List (String × Document)) (first : Bool)
    (stack : List Frame) (rest : List Token) :
    (fieldTokens (f :: fields) ++ .mark .closeObject :: rest).foldlM readStep
        (.key (before.map named).reverse first stack) =
      rest.foldlM readStep (deliver (.object (before ++ f :: fields)) stack) := by
  induction fields generalizing f before first with
  | nil =>
    obtain ⟨key, d⟩ := f
    have hdone : (some key, d) :: (before.map named).reverse =
        ((before ++ [(key, d)]).map named).reverse := by simp [named]
    rw [fieldTokens, List.cons_append, List.cons_append, foldlM_step rfl, foldlM_step rfl,
      h _ List.mem_cons_self, deliver, foldlM_step rfl, hdone, objectOf_named]
  | cons g gs ih =>
    obtain ⟨key, d⟩ := f
    obtain ⟨hd, hgs⟩ := List.forall_mem_cons.mp h
    have hdone : (some key, d) :: (before.map named).reverse =
        ((before ++ [(key, d)]).map named).reverse := by simp [named]
    rw [fieldTokens_cons_cons, List.cons_append, List.cons_append, List.append_assoc,
      List.cons_append, foldlM_step rfl, foldlM_step rfl, hd, deliver, foldlM_step rfl, hdone,
      ih hgs, List.append_assoc, List.singleton_append]

private theorem delivers_object {fields : List (String × Document)}
    (h : ∀ f ∈ fields, Delivers f.2) : Delivers (.object fields) := by
  intro stack rest
  rw [tokens, List.cons_append, foldlM_step rfl, List.append_assoc, List.singleton_append]
  cases fields with
  | nil =>
    rw [fieldTokens, List.nil_append]
    exact foldlM_step rfl rest
  | cons f fields => exact delivers_fields h [] true stack rest

/-! ## Documents -/

private theorem Plain.delivers (h : Plain d) : Delivers d := by
  induction h with
  | array _ ih => exact delivers_array ih
  | object _ ih => exact delivers_object ih
  | _ => exact fun stack rest => foldlM_step rfl rest

/-- A plain document is read from its text. -/
theorem parse?_indented (h : Plain d) : parse? d.indented = some d := by
  have hread := h.delivers [] []
  rw [List.append_nil] at hread
  rw [parse?, lex?_indented h]
  simp only [Option.bind_eq_bind, Option.bind_some, hread]
  rfl

end Tabletop.Document
