import Tabletop.Proofs.Marker.Readback

/-!
# Replies by lines

A reply written the way the narrator is told to: lines of prose, markers on lines of their own, and
items found in the middle of a line. The scan cuts such a reply exactly into what was written.
-/

namespace Tabletop.Reply

open Grammar (openingAt? markerAt? markerOf? Seam AtLineEnd)

/-- No opening stands in a text. -/
def Quiet (s : String) : Prop :=
  ∀ i ≤ s.toList.length, openingAt? (s.toList.take i).getLast? (s.toList.drop i) = none

instance (s : String) : Decidable (Quiet s) := inferInstanceAs (Decidable (∀ i ≤ _, _))

/-- A line of a reply. -/
inductive Line where
  | prose (text : String)
  | marker (d : Directive)
  /-- An item with what comes before and after it on its line. -/
  | found (before name tag after : String)
  deriving DecidableEq, Repr

namespace Line

/-- The line as the narrator writes it. -/
def text : Line → String
  | .prose s => s
  | .marker d => d.render
  | .found before name tag after => before ++ (Directive.item name tag).render ++ after

/-- What the line asks the game to do. -/
def directive? : Line → Option Directive
  | .prose _ => none
  | .marker d => some d
  | .found _ name tag _ => some (.item name tag)

/-- The line as players read it, if they do. -/
def shown? : Line → Option String
  | .prose s => some s
  | .marker _ => none
  | .found before name _ after => some (before ++ name ++ after)

/-- The line describes a scene. -/
def isScene : Line → Bool
  | .marker d => d.keyword == .ambiance
  | _ => false

/-- The line is prose without anything to read. -/
def isBlank : Line → Bool
  | .prose s => Text.isAllBlank s
  | _ => false

/-- Prose stays on its line and opens no marker; a marker on its own is a rendering of a kind other
than items; the prose around an item ends before it without a word character. -/
def WellFormed : Line → Prop
  | .prose s => '\n' ∉ s.toList ∧ Quiet s
  | .marker d => d.Renderable ∧ d.keyword ≠ .item
  | .found before name tag after =>
    ('\n' ∉ before.toList ∧ Quiet before ∧ before.toList.getLast?.any Text.isWordChar = false) ∧
      (Directive.item name tag).Renderable ∧ '\n' ∉ after.toList ∧ Quiet after

instance : DecidablePred WellFormed
  | .prose _ => inferInstanceAs (Decidable (_ ∧ _))
  | .marker _ => inferInstanceAs (Decidable (_ ∧ _))
  | .found .. => inferInstanceAs (Decidable ((_ ∧ _ ∧ _) ∧ _ ∧ _ ∧ _))

/-- The pieces of a line. -/
def pieces : Line → List Piece
  | .prose s => s.toList.map .prose
  | .marker d => [.marker ⟨d, d.render.toList⟩]
  | .found before name tag after =>
    before.toList.map .prose ++
      .marker ⟨.item name tag, (Directive.item name tag).render.toList⟩ ::
        after.toList.map .prose

/-- The pieces of a line and the break behind it, which belongs to the marker of a scene. -/
def brokenPieces (l : Line) : List Piece :=
  match l with
  | .marker d =>
    if d.keyword = .ambiance then [.marker ⟨d, d.render.toList ++ ['\n']⟩]
    else l.pieces ++ [.prose '\n']
  | _ => l.pieces ++ [.prose '\n']

/-- The pieces of lines with breaks between them. -/
def joinedPieces : List Line → List Piece
  | [] => []
  | [l] => l.pieces
  | l :: m :: ls => l.brokenPieces ++ joinedPieces (m :: ls)

/-- Lines with breaks between them. -/
def join (lines : List Line) : String := "\n".intercalate (lines.map text)

end Line

/-! ## Prose -/

private theorem quiet_iff {s : String} : Quiet s ↔
    ∀ a b, s.toList = a ++ b → openingAt? a.getLast? b = none := by
  constructor
  · intro h a b he
    have hi := h a.length (by rw [he, List.length_append]; exact Nat.le_add_right _ _)
    rwa [he, List.take_left, List.drop_left] at hi
  · intro h i _
    exact h _ _ (List.take_append_drop i s.toList).symm

private theorem seam_of_suffix {a b rest : List Char} (h : Seam (a ++ b) rest) : Seam b rest := by
  intro d hd
  refine (h d hd).imp_right fun ⟨hw, hl⟩ => ⟨hw, ?_⟩
  rw [List.getLast?_append] at hl
  cases hg : b.getLast? with
  | none => rfl
  | some c =>
    rw [hg] at hl
    exact hl

private theorem fallsInto_prose {before : Option Char} {cs rest : List Char} {ps : List Piece}
    (hq : ∀ a b, cs = a ++ b → b ≠ [] → openingAt? (lastOf before a) (b ++ rest) = none)
    (h : FallsInto (lastOf before cs) rest ps) :
    FallsInto before (cs ++ rest) (cs.map .prose ++ ps) := by
  induction cs generalizing before with
  | nil => exact h
  | cons c cs ih =>
    have hfirst : openingAt? before (c :: cs ++ rest) = none := hq [] (c :: cs) rfl (by simp)
    have hn : markerAt? before (c :: cs ++ rest) = none := by
      rw [markerAt?, hfirst]
      rfl
    refine .prose hn (ih (fun a b he hb => ?_) ?_)
    · rw [← lastOf_cons before]
      exact hq (c :: a) b (by rw [he, List.cons_append]) hb
    · rw [← lastOf_cons before]
      exact h

/-- A text without openings is prose, with nothing that belongs to a word before it and a seam
behind it. -/
theorem fallsInto_of_quiet {before : Option Char} {s : String} {rest : List Char} {ps : List Piece}
    (hb : before.any Text.isWordChar = false) (hq : Quiet s) (hs : Seam s.toList rest)
    (h : FallsInto (lastOf before s.toList) rest ps) :
    FallsInto before (s.toList ++ rest) (s.toList.map .prose ++ ps) := by
  apply fallsInto_prose _ h
  intro a b he hne
  have hq := quiet_iff.mp hq a b he
  rw [he] at hs
  apply Grammar.openingAt?_append_of_seam hne (seam_of_suffix hs)
  rw [← hq]
  apply Grammar.openingAt?_congr
  unfold lastOf
  cases a.getLast? with
  | none => rw [Option.none_or, hb]; rfl
  | some c => rfl

/-- A line break is prose. -/
private theorem fallsInto_lineFeed {before : Option Char} {rest : List Char} {ps : List Piece}
    (h : FallsInto (some '\n') rest ps) : FallsInto before ('\n' :: rest) (.prose '\n' :: ps) := by
  apply FallsInto.prose _ h
  cases ho : openingAt? before ('\n' :: rest) with
  | none => rw [markerAt?, ho]; rfl
  | some r =>
    obtain ⟨-, r, he, ho⟩ := Grammar.openingAt?_eq_some_iff.mp ho
    obtain ⟨c, o', hc, hw⟩ := ho.isWordChar_head
    rw [hc, List.cons_append, List.cons.injEq] at he
    rw [← he.1] at hw
    exact absurd hw (by decide)

/-! ## Markers -/

private theorem exists_openingAt?_render {before : Option Char} {d : Directive} {rest : List Char}
    (hb : before.any Text.isWordChar = false)
    (h : d.keyword = .combatEnd → rest.head?.any Text.isWordChar = false) :
    ∃ o, openingAt? before (d.render.toList ++ rest) = some (d.keyword, o) := by
  have hspells : Grammar.Spells d.keyword d.keyword.name.toList := by
    unfold Grammar.Spells
    split <;> rfl
  have hsource : d.render.toList = d.keyword.name.toList ++ d.fields.toList := by
    rw [Directive.render, String.toList_append]
  by_cases hk : d.keyword = .combatEnd
  · have hfields : d.fields.toList = [] := by
      cases d with
      | combatEnd => rfl
      | _ => cases hk
    refine ⟨d.keyword.name.toList, Grammar.openingAt?_eq_some_iff.mpr ⟨hb, rest, ?_, ?_⟩⟩
    · rw [hsource, hfields, List.append_nil]
    · exact .word hk hspells (h hk)
  · obtain ⟨fs, hfields⟩ : ∃ fs, d.fields.toList = ':' :: fs := by
      cases d with
      | combatEnd => exact absurd rfl hk
      | _ => exact ⟨_, by simp only [Directive.fields, String.toList_append]; rfl⟩
    have hopens : Grammar.Opens d.keyword (d.keyword.name.toList ++ ([] ++ [':'])) (fs ++ rest) :=
      .colon hk hspells (by simp)
    refine ⟨_, Grammar.openingAt?_eq_some_iff.mpr ⟨hb, fs ++ rest, ?_, hopens⟩⟩
    rw [hsource, hfields]
    simp

private theorem fallsInto_marker {before : Option Char} {d : Directive}
    {source more rest : List Char} {ps : List Piece} (hb : before.any Text.isWordChar = false)
    (hsource : source ++ rest = d.render.toList ++ more)
    (hc : d.keyword = .combatEnd → more.head?.any Text.isWordChar = false)
    (hm : markerOf? d.keyword (source ++ rest) = some ⟨d, source⟩)
    (h : FallsInto (lastOf before source) rest ps) :
    FallsInto before (source ++ rest) (.marker ⟨d, source⟩ :: ps) := by
  obtain ⟨o, ho⟩ := exists_openingAt?_render hb hc
  refine .marker (m := ⟨d, source⟩) (source_ne_nil hm) ?_ h
  show markerAt? before (source ++ rest) = some ⟨d, source⟩
  rw [markerAt?, hsource, ho, ← hsource]
  exact hm

private theorem seam_of_atLineEnd {cs rest : List Char} (h : AtLineEnd rest) : Seam cs rest :=
  fun d hd => .inl (h d hd)

private theorem head?_of_atLineEnd {rest : List Char} (h : AtLineEnd rest) :
    rest.head?.any Text.isWordChar = false := by
  cases hr : rest.head? with
  | none => rfl
  | some c =>
    rw [h c hr]
    decide

private theorem seam_item {before name tag : String} {rest : List Char}
    (h : before.toList.getLast?.any Text.isWordChar = false) :
    Seam before.toList ((Directive.item name tag).render.toList ++ rest) := by
  have hsource : (Directive.item name tag).render.toList =
      'I' :: ("TEM".toList ++ (Directive.item name tag).fields.toList) := by
    simp [Directive.render, Directive.keyword, Keyword.name]
  intro d hd
  rw [hsource] at hd
  cases hd
  exact .inr ⟨by decide, h⟩

private theorem lastOf_item (before : Option Char) (name tag : String) :
    lastOf before (Directive.item name tag).render.toList = some ')' := by
  have hsource : (Directive.item name tag).render.toList =
      ("ITEM:[" ++ name ++ "] (Tag: " ++ tag).toList ++ [')'] := by
    simp [Directive.render, Directive.fields, Directive.keyword, Keyword.name]
  rw [hsource, lastOf_append]
  rfl

/-! ## Lines -/

namespace Line

private theorem fallsInto_found {before : Option Char} {pre name tag post : String}
    {rest : List Char} {ps : List Piece} (hb : before.any Text.isWordChar = false)
    (hw : (found pre name tag post).WellFormed) (hrest : AtLineEnd rest)
    (h : ∀ b, FallsInto b rest ps) :
    FallsInto before ((found pre name tag post).text.toList ++ rest)
      ((found pre name tag post).pieces ++ ps) := by
  obtain ⟨⟨-, hpre, hlast⟩, hitem, -, hpost⟩ := hw
  have hbefore : (lastOf before pre.toList).any Text.isWordChar = false := by
    unfold lastOf
    cases hl : pre.toList.getLast? with
    | none => exact hb
    | some c => rw [hl] at hlast; exact hlast
  have hafter : FallsInto (some ')') (post.toList ++ rest) (post.toList.map .prose ++ ps) :=
    fallsInto_of_quiet (by decide) hpost (seam_of_atLineEnd hrest) (h _)
  rw [← lastOf_item (lastOf before pre.toList) name tag] at hafter
  have hmarker := fallsInto_marker hbefore rfl (fun hk => by cases hk)
    (Grammar.markerOf?_render hitem (.inr rfl) fun hk => by cases hk) hafter
  have hline := fallsInto_of_quiet hb hpre (seam_item hlast) hmarker
  rw [text, String.toList_append, String.toList_append, List.append_assoc, List.append_assoc,
    pieces, List.append_assoc]
  exact hline

/-- A line falls into its pieces before a text that ends or starts a line. -/
private theorem fallsInto_pieces {before : Option Char} {l : Line} {rest : List Char}
    {ps : List Piece} (hb : before.any Text.isWordChar = false) (hw : l.WellFormed)
    (hrest : AtLineEnd rest) (hscene : l.isScene = true → rest = [])
    (h : ∀ b, FallsInto b rest ps) : FallsInto before (l.text.toList ++ rest) (l.pieces ++ ps) := by
  cases l with
  | prose s => exact fallsInto_of_quiet hb hw.2 (seam_of_atLineEnd hrest) (h _)
  | found pre name tag post => exact fallsInto_found hb hw hrest h
  | marker d =>
    refine fallsInto_marker hb rfl (fun _ => head?_of_atLineEnd hrest) ?_ (h _)
    exact Grammar.markerOf?_render hw.1 (.inl hrest) fun ha => hscene (by rw [isScene, ha]; rfl)

/-- A line and its break fall into their pieces. -/
private theorem fallsInto_brokenPieces {before : Option Char} {l : Line} {rest : List Char}
    {ps : List Piece} (hb : before.any Text.isWordChar = false) (hw : l.WellFormed)
    (h : FallsInto (some '\n') rest ps) :
    FallsInto before (l.text.toList ++ '\n' :: rest) (l.brokenPieces ++ ps) := by
  have hbreak : AtLineEnd ('\n' :: rest) := fun d hd => (Option.some.inj hd).symm
  have hline (hscene : l.isScene = true → '\n' :: rest = []) :
      FallsInto before (l.text.toList ++ '\n' :: rest) (l.pieces ++ [.prose '\n'] ++ ps) := by
    rw [List.append_assoc]
    exact fallsInto_pieces hb hw hbreak hscene fun b => fallsInto_lineFeed h
  cases l with
  | prose s => exact hline nofun
  | found pre name tag post => exact hline nofun
  | marker d =>
    by_cases ha : d.keyword = .ambiance
    · have hsource : d.render.toList ++ '\n' :: rest = d.render.toList ++ ['\n'] ++ rest := by simp
      rw [brokenPieces, if_pos ha, text, hsource]
      refine fallsInto_marker hb hsource.symm (fun hc => ?_) ?_ ?_
      · rw [ha] at hc
        cases hc
      · exact Grammar.markerOf?_render_line hw.1 ha
      · rw [lastOf_append]
        exact h
    · rw [brokenPieces, if_neg ha]
      refine hline fun hscene => absurd ?_ ha
      simpa [isScene] using hscene

/-- A reply falls into the pieces of its lines. -/
private theorem fallsInto_joinedPieces {before : Option Char} (lines : List Line)
    (hb : before.any Text.isWordChar = false) (hw : ∀ l ∈ lines, l.WellFormed) :
    FallsInto before (join lines).toList (joinedPieces lines) := by
  induction lines generalizing before with
  | nil => exact .done
  | cons l ls ih =>
    have hl : l.WellFormed := hw l (by simp)
    cases ls with
    | nil =>
      have hline := fallsInto_pieces hb hl (fun d hd => by cases hd) (fun _ => rfl) fun _ => .done
      rw [List.append_nil, List.append_nil] at hline
      rw [join, List.map_singleton, String.intercalate_singleton]
      exact hline
    | cons m ls =>
      have hjoin : (join (l :: m :: ls)).toList =
          l.text.toList ++ '\n' :: (join (m :: ls)).toList := by
        rw [join, List.map_cons, List.map_cons, String.intercalate_cons_cons]
        simp [join]
      rw [hjoin]
      exact fallsInto_brokenPieces hb hl (ih (by decide) fun k hk => hw k (by simp [hk]))

/-- The scan cuts a reply into the pieces of its lines. -/
theorem pieces_join {lines : List Line} (hw : ∀ l ∈ lines, l.WellFormed) :
    Reply.pieces (join lines).toList = joinedPieces lines :=
  (Reply.fallsInto_pieces _).unique (fallsInto_joinedPieces lines rfl hw)

end Line

end Tabletop.Reply
