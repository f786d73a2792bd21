import Mathlib.Data.List.TakeWhile
import Tabletop.Document.Token
import Tabletop.Document.Writer
import Tabletop.Proofs.Text.Numerals

/-!
# Documents cut into tokens

The indented form of a document of texts, words and integers of 64 bits falls into the tokens that
the document consists of: escapes are undone, and blanks between tokens do not matter.
-/

namespace Tabletop.Document

/-- A document of texts, words and integers of 64 bits. -/
inductive Plain : Document → Prop
  | null : Plain .null
  | bool (b : Bool) : Plain (.bool b)
  | int {i : Int} : -9223372036854775808 ≤ i → i < UInt64.size → Plain (.number (.int i))
  | text (s : String) : Plain (.text s)
  | array {items : List Document} : (∀ d ∈ items, Plain d) → Plain (.array items)
  | object {fields : List (String × Document)} : (∀ f ∈ fields, Plain f.2) → Plain (.object fields)

@[simp]
theorem plain_text (s : String) : Plain (.text s) := .text s

@[simp]
theorem plain_nat_iff {n : Nat} : Plain (.nat n) ↔ n < UInt64.size :=
  ⟨fun | .int _ h => by omega, fun h => .int (by omega) (by omega)⟩

@[simp]
theorem plain_array_iff {items : List Document} : Plain (.array items) ↔ ∀ d ∈ items, Plain d :=
  ⟨fun | .array h => h, .array⟩

@[simp]
theorem plain_object_iff {fields : List (String × Document)} :
    Plain (.object fields) ↔ ∀ f ∈ fields, Plain f.2 :=
  ⟨fun | .object h => h, .object⟩

mutual

/-- The tokens of a document. -/
def tokens : Document → List Token
  | .array items => .mark .openArray :: (itemTokens items ++ [.mark .closeArray])
  | .object fields => .mark .openObject :: (fieldTokens fields ++ [.mark .closeObject])
  | .text s => [.text (some s)]
  | .number n => [.number (some n)]
  | d => [.literal d]

/-- The tokens of items with commas between them. -/
def itemTokens : List Document → List Token
  | [] => []
  | [d] => tokens d
  | d :: ds => tokens d ++ .mark .comma :: itemTokens ds

/-- The tokens of fields with commas between them. -/
def fieldTokens : List (String × Document) → List Token
  | [] => []
  | [(key, d)] => .text (some key) :: .mark .colon :: tokens d
  | (key, d) :: fields =>
    .text (some key) :: .mark .colon :: (tokens d ++ .mark .comma :: fieldTokens fields)

end

/-- What comes next goes on no numeral and no word. -/
def Stops (cs : List Char) : Prop :=
  ∀ c, cs.head? = some c → isNumberChar c = false ∧ Text.isAsciiLower c = false

variable {a b : Lexing} {c : Char} {cs rest : List Char} {ts : List Token} {t : Token}

/-! ## Steps of the machine -/

private theorem stops_nil : Stops [] := fun c h => by cases h

private theorem stops_cons (h : (isNumberChar c || Text.isAsciiLower c) = false) :
    Stops (c :: cs) := by
  intro d hd
  cases hd
  exact Bool.or_eq_false_iff.mp h

private theorem lexFrom_of_step (h : lexStep a c = some (b, ts)) (cs : List Char) :
    lexFrom a (c :: cs) = (lexFrom b cs).map (ts ++ ·) := by
  rw [lexFrom, h]
  cases hcs : lexFrom b cs <;> simp [hcs]

private theorem lexFrom_of_silent (h : lexStep a c = some (b, [])) (cs : List Char) :
    lexFrom a (c :: cs) = lexFrom b cs := by
  rw [lexFrom_of_step h]
  cases lexFrom b cs <;> rfl

/-- Characters that the machine collects. -/
private theorem lexFrom_collect {f : List Char → Lexing} {cs : List Char}
    (h : ∀ c ∈ cs, ∀ done, lexStep (f done) c = some (f (c :: done), [])) (done rest : List Char) :
    lexFrom (f done) (cs ++ rest) = lexFrom (f (cs.reverse ++ done)) rest := by
  induction cs generalizing done with
  | nil => rfl
  | cons c cs ih =>
    obtain ⟨hc, hcs⟩ := List.forall_mem_cons.mp h
    rw [List.cons_append, lexFrom_of_silent (hc done), ih hcs, List.reverse_cons,
      List.append_assoc, List.singleton_append]

/-- A token that ends where something else starts. -/
private theorem lexFrom_ended (hend : lexEnd a = some [t])
    (hstep : ∀ c cs, rest = c :: cs → lexStep a c = lexAfter (some t) c) :
    lexFrom a rest = (lexFrom .between rest).map (t :: ·) := by
  cases rest with
  | nil =>
    rw [lexFrom, hend]
    rfl
  | cons c cs =>
    rw [lexFrom, lexFrom, hstep c cs rfl, lexStep, lexAfter]
    cases lexFresh c with
    | none => rfl
    | some r => cases hr : lexFrom r.1 cs <;> simp [hr]

/-! ## Marks and blanks -/

private theorem lexFrom_mark {m : Mark} (hspace : isSpace c = false) (hquote : c ≠ '"')
    (hm : markOf? c = some m) (cs : List Char) :
    lexFrom .between (c :: cs) = (lexFrom .between cs).map (.mark m :: ·) := by
  have hstep : lexStep .between c = some (.between, [.mark m]) := by
    simp [lexStep, lexFresh, hspace, hquote, hm]
  exact lexFrom_of_step hstep cs

private theorem lexFrom_space (h : isSpace c = true) (cs : List Char) :
    lexFrom .between (c :: cs) = lexFrom .between cs := by
  apply lexFrom_of_silent
  simp [lexStep, lexFresh, h]

private theorem lexFrom_newLine (level : Nat) (cs : List Char) :
    lexFrom .between (newLine level ++ cs) = lexFrom .between cs := by
  rw [newLine, List.cons_append, lexFrom_space (by decide)]
  induction 2 * level with
  | zero => rfl
  | succ n ih => rw [List.replicate_succ, List.cons_append, lexFrom_space (by decide), ih]

/-! ## Words and numbers -/

private theorem lexFrom_word (hfirst : lexStep .between c = some (.inWord [c], []))
    (hcs : cs.all Text.isAsciiLower = true) (ht : wordToken? (cs.reverse ++ [c]) = some t)
    (hr : Stops rest) :
    lexFrom .between (c :: cs ++ rest) = (lexFrom .between rest).map (t :: ·) := by
  rw [List.cons_append, lexFrom_of_silent hfirst, lexFrom_collect fun d hd done => ?_]
  · apply lexFrom_ended
    · simp [lexEnd, ht]
    · rintro d ds rfl
      simp [lexStep, (hr d rfl).2, ht]
  · simp [lexStep, List.all_eq_true.mp hcs d hd]

private theorem lexFrom_numeral (hfirst : lexStep .between c = some (.inNumber [c], []))
    (hcs : ∀ d ∈ cs, isNumberChar d = true) (ht : numberToken? (cs.reverse ++ [c]) = some t)
    (hr : Stops rest) :
    lexFrom .between (c :: cs ++ rest) = (lexFrom .between rest).map (t :: ·) := by
  rw [List.cons_append, lexFrom_of_silent hfirst, lexFrom_collect fun d hd done => ?_]
  · apply lexFrom_ended
    · simp [lexEnd, ht]
    · rintro d ds rfl
      simp [lexStep, (hr d rfl).1, ht]
  · simp [lexStep, hcs d hd]

/-- The parts of a run of digits that is a whole numeral. -/
private structure Whole (digits : List Char) : Prop where
  take : digits.takeWhile Text.isDigit = digits
  drop : digits.dropWhile Text.isDigit = []
  valid : (digits.isEmpty || (digits.head? == some '0' && digits.length ≠ 1)) = false

private theorem whole_natDigits (n : Nat) : Whole (Text.natDigits n) where
  take := List.takeWhile_eq_self_iff.mpr fun _ hc => Text.isDigit_of_mem_natDigits hc
  drop := List.dropWhile_eq_nil_iff.mpr fun _ hc => Text.isDigit_of_mem_natDigits hc
  valid := by
    by_cases hzero : (Text.natDigits n).head? = some '0'
    · rw [Text.head?_natDigits n hzero]
      rfl
    · simp [Text.natDigits_ne_nil, hzero]

private theorem ofChars?_ofInt (i : Int) :
    Numeral.ofChars? (Text.ofInt i).toList =
      some ⟨decide (i < 0), Text.natDigits i.natAbs, none, none⟩ := by
  have hwhole := whole_natDigits i.natAbs
  rw [Text.toList_ofInt]
  by_cases hneg : i < 0
  · rw [if_pos hneg]
    simp only [Numeral.ofChars?, hwhole.take, hwhole.drop, hwhole.valid, hneg]
    rfl
  · obtain ⟨c, cs, hcs, hc⟩ := Text.exists_natDigits_cons i.natAbs
    have hminus : c ≠ '-' := Text.ne_of_isDigit hc (by decide)
    rw [hcs] at hwhole
    rw [if_neg hneg, hcs]
    have hsplit : Numeral.ofChars? (c :: cs) = some ⟨false, c :: cs, none, none⟩ := by
      unfold Numeral.ofChars?
      split
      next heq =>
        split at heq
        · next h => cases h; exact absurd rfl hminus
        · cases heq
          simp only [hwhole.take, hwhole.drop, hwhole.valid]
          rfl
    rw [hsplit, decide_eq_false hneg]

/-- An integer of 64 bits is read as itself. -/
private theorem value?_ofInt {i : Int} (hlow : -9223372036854775808 ≤ i)
    (hhigh : i < UInt64.size) :
    Numeral.value? ⟨decide (i < 0), Text.natDigits i.natAbs, none, none⟩ = some (.int i) := by
  simp only [Numeral.value?, Text.digitsValue_natDigits, Option.isNone_none, Bool.true_and]
  by_cases hneg : i < 0
  · have hpos : 0 < i.natAbs := by omega
    have hle : i.natAbs ≤ 9223372036854775808 := by omega
    have hi : -(i.natAbs : Int) = i := by omega
    simp only [hneg, hpos, hle, hi, decide_true, Bool.not_true, Bool.false_and, Bool.and_true,
      Bool.false_eq_true, if_true, if_false]
  · have hlt : i.natAbs < UInt64.size := by omega
    have hi : (i.natAbs : Int) = i := by omega
    simp only [hneg, hlt, hi, decide_true, decide_false, Bool.not_false, Bool.and_true, if_true]

private theorem lexStep_of_isDigit (h : Text.isDigit c = true) :
    lexStep .between c = some (.inNumber [c], []) := by
  have hne {d : Char} (hd : Text.isDigit d = false) : c ≠ d := Text.ne_of_isDigit h hd
  have hspace : isSpace c = false := by
    simp [isSpace, hne (d := ' ') rfl, hne (d := '\t') rfl, hne (d := '\n') rfl,
      hne (d := '\r') rfl]
  have hmark : markOf? c = none := by
    unfold markOf?
    split <;> first | rfl | cases h
  simp [lexStep, lexFresh, hspace, hne (d := '"') rfl, hmark, h]

private theorem lexFrom_ofInt {i : Int} (hlow : -9223372036854775808 ≤ i)
    (hhigh : i < UInt64.size) (hr : Stops rest) :
    lexFrom .between ((Text.ofInt i).toList ++ rest) =
      (lexFrom .between rest).map (.number (some (.int i)) :: ·) := by
  cases hcs : (Text.ofInt i).toList with
  | nil => exact absurd hcs (Text.toList_ofInt_ne_nil i)
  | cons c cs =>
    have hchar : ∀ d ∈ c :: cs, d = '-' ∨ Text.isDigit d = true := by
      intro d hd
      rw [← hcs] at hd
      exact Text.isDigit_of_mem_ofInt hd
    obtain ⟨hc, hrest⟩ := List.forall_mem_cons.mp hchar
    refine lexFrom_numeral ?_ (fun d hd => ?_) ?_ hr
    · rcases hc with rfl | hc
      · rfl
      · exact lexStep_of_isDigit hc
    · rcases hrest d hd with rfl | hd <;> simp [isNumberChar, *]
    · have htext : (cs.reverse ++ [c]).reverse = (Text.ofInt i).toList := by simp [hcs]
      rw [numberToken?, htext, ofChars?_ofInt, Option.map_some, value?_ofInt hlow hhigh]

private theorem lexFrom_null (hr : Stops rest) :
    lexFrom .between (['n', 'u', 'l', 'l'] ++ rest) =
      (lexFrom .between rest).map (.literal .null :: ·) :=
  lexFrom_word rfl rfl rfl hr

private theorem lexFrom_bool (b : Bool) (hr : Stops rest) :
    lexFrom .between (writeLeaf (.bool b) ++ rest) =
      (lexFrom .between rest).map (.literal (.bool b) :: ·) := by
  cases b with
  | true => exact lexFrom_word rfl rfl rfl hr
  | false => exact lexFrom_word rfl rfl rfl hr

/-! ## Texts -/

private theorem hexValue?_hexDigit : ∀ n < 16, hexValue? (hexDigit n) = some n := by decide

private theorem lexFrom_escaped {codes : List Nat} {code : Nat} (hcode : escapeOf? c = some code)
    (hu : c ≠ 'u') (rest : List Char) :
    lexFrom (.inText codes) ('\\' :: c :: rest) = lexFrom (.inText (code :: codes)) rest := by
  have hstep : lexStep (.escaped codes) c = some (.inText (code :: codes), []) := by
    simp [lexStep, hu, hcode]
  rw [lexFrom_of_silent (b := .escaped codes) rfl, lexFrom_of_silent hstep]

/-- A control character is written by its code. -/
private theorem lexFrom_control {codes : List Nat} {n : Nat} (h : n < 32) (rest : List Char) :
    lexFrom (.inText codes)
        (['\\', 'u', '0', '0', hexDigit (n / 16), hexDigit (n % 16)] ++ rest) =
      lexFrom (.inText (n :: codes)) rest := by
  have hhigh := hexValue?_hexDigit (n / 16) (by omega)
  have hlow := hexValue?_hexDigit (n % 16) (by omega)
  have hthird : lexStep (.inCode codes [0, 0]) (hexDigit (n / 16)) =
      some (.inCode codes [n / 16, 0, 0], []) := by simp [lexStep, hhigh]
  have hfourth : lexStep (.inCode codes [n / 16, 0, 0]) (hexDigit (n % 16)) =
      some (.inText ((0 * 4096 + 0 * 256 + n / 16 * 16 + n % 16) :: codes), []) := by
    simp [lexStep, hlow]
  have hn : 0 * 4096 + 0 * 256 + n / 16 * 16 + n % 16 = n := by omega
  simp only [List.cons_append, List.nil_append]
  rw [lexFrom_of_silent (b := .escaped codes) rfl, lexFrom_of_silent (b := .inCode codes []) rfl,
    lexFrom_of_silent (b := .inCode codes [0]) rfl,
    lexFrom_of_silent (b := .inCode codes [0, 0]) rfl, lexFrom_of_silent hthird,
    lexFrom_of_silent hfourth, hn]

/-- An escape stands for its character. -/
private theorem lexFrom_escape (c : Char) (codes : List Nat) (rest : List Char) :
    lexFrom (.inText codes) (escape c ++ rest) = lexFrom (.inText (c.toNat :: codes)) rest := by
  unfold escape
  split
  case h_8 n hquote hslash _ _ _ _ _ =>
    split
    · next hlt => exact lexFrom_control hlt rest
    · next hle =>
      have hne {d : Char} (hd : c.toNat ≠ d.toNat) : c ≠ d := fun he => hd (congrArg _ he)
      apply lexFrom_of_silent
      simp [lexStep, hne (d := '"') hquote, hne (d := '\\') hslash, Nat.not_lt.mp hle]
  all_goals
    next hn =>
      rw [hn]
      exact lexFrom_escaped rfl (by decide) rest

private theorem lexFrom_escapes (cs : List Char) (codes : List Nat) (rest : List Char) :
    lexFrom (.inText codes) (cs.flatMap escape ++ rest) =
      lexFrom (.inText ((cs.map Char.toNat).reverse ++ codes)) rest := by
  induction cs generalizing codes with
  | nil => rfl
  | cons c cs ih =>
    rw [List.flatMap_cons, List.append_assoc, lexFrom_escape, ih, List.map_cons,
      List.reverse_cons, List.append_assoc, List.singleton_append]

/-- Characters are no surrogates. -/
private theorem joinSurrogates_toNat (cs : List Char) :
    joinSurrogates (cs.map Char.toNat) = some cs := by
  have hhigh (c : Char) : isHighSurrogate c.toNat = false := by
    have hvalid : c.toNat < 0xD800 ∨ 0xDFFF < c.toNat ∧ c.toNat < 0x110000 := c.valid
    simp only [isHighSurrogate, Bool.and_eq_false_iff, decide_eq_false_iff_not]
    omega
  have hlow (c : Char) : isLowSurrogate c.toNat = false := by
    have hvalid : c.toNat < 0xD800 ∨ 0xDFFF < c.toNat ∧ c.toNat < 0x110000 := c.valid
    simp only [isLowSurrogate, Bool.and_eq_false_iff, decide_eq_false_iff_not]
    omega
  induction cs with
  | nil => rfl
  | cons c cs ih =>
    cases cs with
    | nil => simp [joinSurrogates, hhigh, hlow, Char.ofNat_toNat]
    | cons d ds =>
      rw [List.map_cons, List.map_cons, joinSurrogates, hhigh, hlow, ← List.map_cons, ih]
      simp [hlow, Char.ofNat_toNat]

private theorem lexFrom_quote (s : String) (rest : List Char) :
    lexFrom .between (quote s ++ rest) = (lexFrom .between rest).map (.text (some s) :: ·) := by
  have htoken : textToken ((s.toList.map Char.toNat).reverse ++ []) = .text (some s) := by
    rw [textToken, List.append_nil, List.reverse_reverse, joinSurrogates_toNat, Option.map_some,
      String.ofList_toList]
  have hclose : lexStep (.inText ((s.toList.map Char.toNat).reverse ++ [])) '"' =
      some (.between, [.text (some s)]) := by
    rw [← htoken]
    rfl
  rw [quote, List.append_assoc, List.cons_append, lexFrom_of_silent (b := .inText []) rfl,
    lexFrom_escapes, List.singleton_append, lexFrom_of_step hclose]
  rfl

/-! ## Documents -/

/-- The text of a document, with what comes next, falls into its tokens and those of what comes
next. -/
private def Falls (d : Document) : Prop :=
  ∀ level rest, Stops rest → lexFrom .between (writeIndented level d ++ rest) =
    (lexFrom .between rest).map (tokens d ++ ·)

private theorem stops_newLine (level : Nat) (cs : List Char) : Stops (newLine level ++ cs) :=
  stops_cons (by decide)

theorem itemTokens_cons_cons (d e : Document) (ds : List Document) :
    itemTokens (d :: e :: ds) = tokens d ++ .mark .comma :: itemTokens (e :: ds) := by
  rw [itemTokens]
  simp

theorem fieldTokens_cons_cons (key : String) (d : Document) (f : String × Document)
    (fields : List (String × Document)) :
    fieldTokens ((key, d) :: f :: fields) = .text (some key) :: .mark .colon ::
      (tokens d ++ .mark .comma :: fieldTokens (f :: fields)) := by
  rw [fieldTokens]
  simp

private theorem lexFrom_items {ds : List Document} (h : ∀ d ∈ ds, Falls d) (level : Nat)
    (hr : Stops rest) :
    lexFrom .between (indentedItems level ds ++ rest) =
      (lexFrom .between rest).map (itemTokens ds ++ ·) := by
  induction ds with
  | nil => simp [indentedItems, itemTokens]
  | cons d ds ih =>
    obtain ⟨hd, hds⟩ := List.forall_mem_cons.mp h
    cases ds with
    | nil =>
      rw [indentedItems, List.append_assoc, lexFrom_newLine, hd level rest hr, itemTokens]
    | cons e es =>
      have htext : indentedItems level (d :: e :: es) ++ rest = newLine level ++
          (writeIndented level d ++ ',' :: (indentedItems level (e :: es) ++ rest)) := by
        simp [indentedItems]
      rw [htext, lexFrom_newLine, hd level _ (stops_cons (by decide)),
        lexFrom_mark (by decide) (by decide) rfl, ih hds, itemTokens_cons_cons]
      simp only [Option.map_map, Function.comp_def, List.append_assoc, List.cons_append]

private theorem lexFrom_fields {fields : List (String × Document)} (h : ∀ f ∈ fields, Falls f.2)
    (level : Nat) (hr : Stops rest) :
    lexFrom .between (indentedFields level fields ++ rest) =
      (lexFrom .between rest).map (fieldTokens fields ++ ·) := by
  induction fields with
  | nil => simp [indentedFields, fieldTokens]
  | cons f fields ih =>
    obtain ⟨key, d⟩ := f
    obtain ⟨hd, hfields⟩ := List.forall_mem_cons.mp h
    cases fields with
    | nil =>
      simp only [indentedFields, List.append_assoc, List.cons_append]
      rw [lexFrom_newLine, lexFrom_quote, lexFrom_mark (by decide) (by decide) rfl,
        lexFrom_space (by decide), hd level rest hr, fieldTokens]
      simp only [Option.map_map, Function.comp_def, List.cons_append]
    | cons g gs =>
      have htext : indentedFields level ((key, d) :: g :: gs) ++ rest = newLine level ++
          (quote key ++ ':' :: ' ' :: (writeIndented level d ++
            ',' :: (indentedFields level (g :: gs) ++ rest))) := by
        simp [indentedFields]
      rw [htext, lexFrom_newLine, lexFrom_quote, lexFrom_mark (by decide) (by decide) rfl,
        lexFrom_space (by decide), hd level _ (stops_cons (by decide)),
        lexFrom_mark (by decide) (by decide) rfl, ih hfields, fieldTokens_cons_cons]
      simp only [Option.map_map, Function.comp_def, List.append_assoc, List.cons_append]

private theorem Plain.falls {d : Document} (h : Plain d) : Falls d := by
  induction h with
  | null => exact fun level rest hr => lexFrom_null hr
  | bool b => exact fun level rest hr => lexFrom_bool b hr
  | int hlow hhigh => exact fun level rest hr => lexFrom_ofInt hlow hhigh hr
  | text s => exact fun level rest _ => lexFrom_quote s rest
  | @array items _ ih =>
    intro level rest hr
    cases items with
    | nil =>
      rw [writeIndented, List.cons_append, List.singleton_append,
        lexFrom_mark (by decide) (by decide) rfl, lexFrom_mark (by decide) (by decide) rfl]
      simp [tokens, itemTokens, Function.comp_def]
    | cons d ds =>
      have htext : writeIndented level (.array (d :: ds)) ++ rest =
          '[' :: (indentedItems (level + 1) (d :: ds) ++ (newLine level ++ ']' :: rest)) := by
        simp [writeIndented]
      rw [htext, lexFrom_mark (by decide) (by decide) rfl,
        lexFrom_items ih _ (stops_newLine _ _), lexFrom_newLine,
        lexFrom_mark (by decide) (by decide) rfl]
      simp [tokens, Function.comp_def]
  | @object fields _ ih =>
    intro level rest hr
    cases fields with
    | nil =>
      rw [writeIndented, List.cons_append, List.singleton_append,
        lexFrom_mark (by decide) (by decide) rfl, lexFrom_mark (by decide) (by decide) rfl]
      simp [tokens, fieldTokens, Function.comp_def]
    | cons f fields =>
      have htext : writeIndented level (.object (f :: fields)) ++ rest =
          '\x7b' :: (indentedFields (level + 1) (f :: fields) ++
            (newLine level ++ '\x7d' :: rest)) := by
        simp [writeIndented]
      rw [htext, lexFrom_mark (by decide) (by decide) rfl,
        lexFrom_fields ih _ (stops_newLine _ _), lexFrom_newLine,
        lexFrom_mark (by decide) (by decide) rfl]
      simp [tokens, Function.comp_def]

/-- The text of a plain document falls into its tokens. -/
theorem lex?_indented {d : Document} (h : Plain d) : lex? d.indented.toList = some (tokens d) := by
  have hfalls := h.falls 0 [] stops_nil
  rw [List.append_nil] at hfalls
  rw [lex?, indented, String.toList_ofList, hfalls]
  simp [lexFrom, lexEnd]

end Tabletop.Document
