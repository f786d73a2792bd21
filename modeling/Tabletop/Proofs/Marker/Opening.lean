import Mathlib.Data.List.TakeWhile
import Tabletop.Marker.Grammar
import Tabletop.Proofs.Pattern.Matching
import Tabletop.Proofs.Text.AsciiCase

/-!
# Where markers open

An opening is the word of a kind of marker, and a colon for every kind but the end of combat.
`openingAt?_eq_some_iff` says where one stands. From it follow the two facts that the scan of a
reply rests on: no opening begins within another one, and none runs over a place where words end.
-/

namespace Tabletop.Grammar

open Pattern (Match Reads)

/-! ## Words -/

/-- A word spells a kind of marker, in any case where the kind disregards it. -/
def Spells (k : Keyword) (w : List Char) : Prop :=
  if k.anyCase then w.map Text.asciiLowerChar = k.name.toList.map Text.asciiLowerChar
  else w = k.name.toList

private theorem name_map_upper (k : Keyword) :
    k.name.toList.map Text.asciiUpperChar = k.name.toList := by
  cases k <;> decide

/-- In capitals a word that spells a kind is its name. -/
theorem Spells.map_upper {k : Keyword} {w : List Char} (h : Spells k w) :
    w.map Text.asciiUpperChar = k.name.toList := by
  unfold Spells at h
  split at h
  · rw [(Text.map_asciiLowerChar_eq_iff _ _).mp h, name_map_upper]
  · rw [h, name_map_upper]

private theorem ofName?_name (k : Keyword) : Keyword.ofName? k.name = some k := by
  cases k <;> decide

private theorem eq_of_name_eq {k l : Keyword} (h : k.name.toList = l.name.toList) : k = l := by
  apply Option.some.inj
  rw [← ofName?_name k, ← ofName?_name l, String.toList_inj.mp h]

/-- A word spells at most one kind. -/
theorem Spells.unique {k l : Keyword} {w : List Char} (hk : Spells k w) (hl : Spells l w) : k = l :=
  eq_of_name_eq (hk.map_upper.symm.trans hl.map_upper)

/-- The letters of a word that spells a kind are word characters. -/
theorem Spells.isWordChar {k : Keyword} {w : List Char} (h : Spells k w) :
    ∀ c ∈ w, Text.isWordChar c = true := by
  intro c hc
  have hm : Text.asciiUpperChar c ∈ k.name.toList := by
    rw [← h.map_upper]
    exact List.mem_map_of_mem hc
  have hname : k.name.toList.all Text.isWordChar = true := by cases k <;> decide
  exact Text.isWordChar_of_asciiUpperChar (List.all_eq_true.mp hname _ hm)

/-- A word that spells a kind has letters. -/
theorem Spells.ne_nil {k : Keyword} {w : List Char} (h : Spells k w) : w ≠ [] := by
  intro he
  have hn := h.map_upper
  rw [he] at hn
  cases k <;> exact absurd hn (by decide)

private theorem mem_list (k : Keyword) : k ∈ Keyword.list := by
  cases k <;> decide

/-- Looking a word up by name finds the kind that it spells. -/
theorem ofName?_of_spells {k : Keyword} {w : List Char} (h : Spells k w) :
    Keyword.ofName? (String.ofList w) = some k := by
  have hiff (l : Keyword) : (if l.anyCase then l.name == Text.asciiUpper (String.ofList w)
      else l.name == String.ofList w) = true ↔ Spells l w := by
    unfold Spells Text.asciiUpper
    rw [String.toList_ofList]
    split
    · rw [Text.map_asciiLowerChar_eq_iff, name_map_upper, beq_iff_eq, ← String.toList_inj,
        String.toList_ofList, eq_comm]
    · rw [beq_iff_eq, ← String.toList_inj, String.toList_ofList, eq_comm]
  unfold Keyword.ofName?
  cases hf : Keyword.list.find? fun l =>
      if l.anyCase then l.name == Text.asciiUpper (String.ofList w)
      else l.name == String.ofList w with
  | none =>
    exact absurd ((hiff k).mpr h) (List.find?_eq_none.mp hf k (mem_list k))
  | some l =>
    have hl := List.find?_some hf
    rw [((hiff l).mp hl).unique h]

/-- The pattern of a kind's word. -/
private def wordOf (k : Keyword) : Pattern :=
  if k.anyCase then .wordAnyCase k.name else .word k.name

private theorem matchStart_wordOf {k : Keyword} {cs : List Char} {m : Match}
    (h : (wordOf k).matchStart cs = some m) : Spells k m.text ∧ m.captures = [] := by
  unfold wordOf at h
  unfold Spells
  split at h
  · next hk => rw [if_pos hk]; exact Pattern.matchStart_wordAnyCase h
  · next hk => rw [if_neg hk]; exact Pattern.matchStart_word h

private theorem reads_wordOf {k : Keyword} {w rest : List Char} (h : Spells k w) :
    Reads (wordOf k) (w ++ rest) rest [] := by
  unfold wordOf
  unfold Spells at h
  split at h
  · next hk => rw [if_pos hk]; exact .wordAnyCase h
  · next hk => rw [if_neg hk, h]; exact .word k.name

/-! ## Openings -/

/-- A text opens a marker of a kind where some rest follows it: the kind's word, and gaps and a
colon or, at the end of combat, the end of the word. -/
inductive Opens (k : Keyword) : List Char → List Char → Prop
  | word {w rest : List Char} : k = .combatEnd → Spells k w →
      rest.head?.any Text.isWordChar = false → Opens k w rest
  | colon {w gaps rest : List Char} : k ≠ .combatEnd → Spells k w → (∀ c ∈ gaps, isGap c = true) →
      Opens k (w ++ (gaps ++ [':'])) rest

private theorem opening_combatEnd :
    opening .combatEnd = .seq (wordOf .combatEnd) (.notNext Text.isWordChar) := rfl

private theorem opening_of_ne {k : Keyword} (h : k ≠ .combatEnd) :
    opening k = .all [wordOf k, gap, .char ':'] := by
  cases k with
  | combatEnd => exact absurd rfl h
  | _ => rfl

/-- What the opening of a kind matches opens a marker of the kind. -/
theorem opens_of_matchStart {k : Keyword} {cs : List Char} {m : Match}
    (h : (opening k).matchStart cs = some m) : Opens k m.text m.rest := by
  by_cases hk : k = .combatEnd
  · subst hk
    rw [opening_combatEnd] at h
    obtain ⟨m₁, m₂, h₁, h₂, rfl⟩ := Pattern.matchStart_seq_eq_some_iff.mp h
    simp only [Pattern.matchStart] at h₂
    split at h₂
    · cases h₂
    · next hn =>
      cases h₂
      simp only [List.append_nil]
      exact .word rfl (matchStart_wordOf h₁).1 (by simpa using hn)
  · rw [opening_of_ne hk] at h
    obtain ⟨m₁, m₂, h₁, h₂, rfl⟩ := Pattern.matchStart_all_cons_eq_some_iff.mp h
    obtain ⟨m₃, m₄, h₃, h₄, rfl⟩ := Pattern.matchStart_all_cons_eq_some_iff.mp h₂
    obtain ⟨c, hc, -, he⟩ := Pattern.matchStart_one_eq_some_iff.mp h₄
    rw [beq_iff_eq] at hc
    cases h₃
    rw [he, hc]
    exact .colon hk (matchStart_wordOf h₁).1 fun c hc => List.mem_takeWhile_imp hc

/-- The opening of a kind reads the texts that open a marker of the kind. -/
theorem reads_opening {k : Keyword} {o rest : List Char} (h : Opens k o rest) :
    Reads (opening k) (o ++ rest) rest [] := by
  cases h with
  | word hk hw hrest =>
    subst hk
    rw [opening_combatEnd]
    exact (reads_wordOf hw).seq (.notNext hrest)
  | colon hk hw hg =>
    rw [opening_of_ne hk, List.append_assoc, List.append_assoc]
    exact (reads_wordOf hw).all_cons ((Reads.run hg rfl).all_cons (.char ':'))

private theorem isWordChar_of_isGap {c : Char} (h : isGap c = true) :
    Text.isWordChar c = false := by
  simp only [isGap, Bool.or_eq_true, beq_iff_eq] at h
  obtain rfl | rfl := h <;> decide

/-- An opening is a word that spells its kind and then no word character, nor does any come next
after the word. -/
theorem Opens.exists_word {k : Keyword} {o rest : List Char} (h : Opens k o rest) :
    ∃ w g, Spells k w ∧ o = w ++ g ∧ (∀ c ∈ g, Text.isWordChar c = false) ∧
      (g ++ rest).head?.any Text.isWordChar = false := by
  cases h with
  | word _ hw hrest => exact ⟨o, [], hw, by simp, by simp, by simpa using hrest⟩
  | @colon w gaps _ _ hw hg =>
    have hn : ∀ c ∈ gaps ++ [':'], Text.isWordChar c = false := by
      intro c hc
      rcases List.mem_append.mp hc with hc | hc
      · exact isWordChar_of_isGap (hg c hc)
      · rw [List.mem_singleton.mp hc]
        decide
    refine ⟨w, gaps ++ [':'], hw, rfl, hn, ?_⟩
    cases gaps with
    | nil => rfl
    | cons c gaps => simpa using hn c (by simp)

/-- An opening starts with a word character. -/
theorem Opens.isWordChar_head {k : Keyword} {o rest : List Char} (h : Opens k o rest) :
    ∃ c o', o = c :: o' ∧ Text.isWordChar c = true := by
  obtain ⟨w, g, hw, rfl, -, -⟩ := h.exists_word
  cases w with
  | nil => exact absurd rfl hw.ne_nil
  | cons c w => exact ⟨c, w ++ g, rfl, hw.isWordChar c (by simp)⟩

private theorem word_eq_takeWhile {k : Keyword} {w g : List Char} (hw : Spells k w)
    (hg : g.head?.any Text.isWordChar = false) : w = (w ++ g).takeWhile Text.isWordChar := by
  rw [List.takeWhile_append_of_pos hw.isWordChar]
  cases g with
  | nil => simp
  | cons c g =>
    have hc : Text.isWordChar c = false := by simpa using hg
    simp [hc]

/-- At one place at most one kind of marker opens. -/
theorem Opens.unique {k l : Keyword} {o o' rest rest' : List Char} (h : Opens k o rest)
    (h' : Opens l o' rest') (he : o ++ rest = o' ++ rest') : k = l := by
  obtain ⟨w, g, hw, rfl, -, hg⟩ := h.exists_word
  obtain ⟨w', g', hw', rfl, -, hg'⟩ := h'.exists_word
  rw [List.append_assoc, List.append_assoc] at he
  have hww : w = w' := by rw [word_eq_takeWhile hw hg, he, ← word_eq_takeWhile hw' hg']
  exact hw.unique (hww ▸ hw')

/-- An opening stands where no word character comes before it and its kind opens. -/
theorem openingAt?_eq_some_iff {before : Option Char} {cs o : List Char} {k : Keyword} :
    openingAt? before cs = some (k, o) ↔ before.any Text.isWordChar = false ∧
      ∃ rest, cs = o ++ rest ∧ Opens k o rest := by
  unfold openingAt?
  cases hb : before.any Text.isWordChar with
  | true => simp
  | false =>
    simp only [Bool.false_eq_true, if_false, true_and]
    constructor
    · intro h
      obtain ⟨l, -, hl⟩ := List.exists_of_findSome?_eq_some h
      obtain ⟨m, hm, he⟩ := Option.map_eq_some_iff.mp hl
      cases he
      exact ⟨m.rest, (Pattern.text_append_rest hm).symm, opens_of_matchStart hm⟩
    · rintro ⟨rest, rfl, ho⟩
      have hk := (reads_opening ho).matchStart_eq
      cases hf : Keyword.list.findSome? fun l =>
          ((opening l).matchStart (o ++ rest)).map fun m => (l, m.text) with
      | none =>
        have hn := List.findSome?_eq_none_iff.mp hf k (mem_list k)
        rw [hk] at hn
        cases hn
      | some r =>
        obtain ⟨l, -, hl⟩ := List.exists_of_findSome?_eq_some hf
        obtain ⟨m, hm, he⟩ := Option.map_eq_some_iff.mp hl
        have hu := (opens_of_matchStart hm).unique ho (Pattern.text_append_rest hm)
        rw [hu, hk] at hm
        cases hm
        rw [← he, hu]

/-- The word of an opening names its kind. -/
theorem ofName?_of_openingAt? {before : Option Char} {cs o : List Char} {k : Keyword}
    (h : openingAt? before cs = some (k, o)) :
    Keyword.ofName? (String.ofList (o.takeWhile Text.isWordChar)) = some k := by
  obtain ⟨-, rest, -, ho⟩ := openingAt?_eq_some_iff.mp h
  obtain ⟨w, g, hw, rfl, hg, -⟩ := ho.exists_word
  have hhead : g.head?.any Text.isWordChar = false := by
    cases g with
    | nil => rfl
    | cons c g => simpa using hg c (by simp)
  rw [← word_eq_takeWhile hw hhead]
  exact ofName?_of_spells hw

/-! ## What an opening keeps out -/

/-- Within an opening no word character follows one that is none. -/
theorem Opens.isWordChar_of_append {k : Keyword} {a b rest : List Char} {c d : Char}
    (h : Opens k (a ++ c :: d :: b) rest) (hd : Text.isWordChar d = true) :
    Text.isWordChar c = true := by
  obtain ⟨w, g, hw, he, hg, -⟩ := h.exists_word
  rcases List.append_eq_append_iff.mp he with ⟨s, rfl, hs⟩ | ⟨s, rfl, hs⟩
  · cases s with
    | nil =>
      have he : g = c :: d :: b := hs.symm
      exact absurd (hg d (by simp [he])) (by simp [hd])
    | cons e s =>
      rw [List.cons_append, List.cons.injEq] at hs
      exact hs.1 ▸ hw.isWordChar e (by simp)
  · exact absurd (hg d (by simp [hs])) (by simp [hd])

/-- No opening begins within another one. -/
theorem openingAt?_within {before : Option Char} {k : Keyword} {a b rest : List Char} {c d : Char}
    (h : openingAt? before (a ++ c :: d :: b ++ rest) = some (k, a ++ c :: d :: b)) :
    openingAt? (some c) (d :: b ++ rest) = none := by
  obtain ⟨-, r, he, ho⟩ := openingAt?_eq_some_iff.mp h
  have hr : rest = r := List.append_cancel_left he
  subst hr
  cases hn : openingAt? (some c) (d :: b ++ rest) with
  | none => rfl
  | some r =>
    obtain ⟨hc, r', he', ho'⟩ := openingAt?_eq_some_iff.mp hn
    obtain ⟨e, o', hoe, hw⟩ := ho'.isWordChar_head
    rw [hoe, List.cons_append, List.cons_append, List.cons.injEq] at he'
    have hcw := ho.isWordChar_of_append (he'.1 ▸ hw)
    simp [hcw] at hc

/-- Only its kind of neighbour matters to an opening. -/
theorem openingAt?_congr {b b' : Option Char} (h : b.any Text.isWordChar = b'.any Text.isWordChar)
    (cs : List Char) : openingAt? b cs = openingAt? b' cs := by
  unfold openingAt?
  rw [h]

/-- An opening runs over no line break. -/
theorem Opens.ne_lineFeed {k : Keyword} {o rest : List Char} (h : Opens k o rest) : '\n' ∉ o := by
  have hword {w : List Char} (hw : Spells k w) : '\n' ∉ w := by
    intro hm
    exact absurd (hw.isWordChar _ hm) (by decide)
  cases h with
  | word _ hw _ => exact hword hw
  | colon _ hw hg =>
    intro hm
    rcases List.mem_append.mp hm with hm | hm
    · exact hword hw hm
    · rcases List.mem_append.mp hm with hm | hm
      · exact absurd (hg _ hm) (by decide)
      · exact absurd (List.mem_singleton.mp hm) (by decide)

/-- No opening runs over the place between two texts: the second one is empty, starts a line, or
starts with a word character that follows no other. -/
def Seam (cs rest : List Char) : Prop :=
  ∀ d ∈ rest.head?, d = '\n' ∨ Text.isWordChar d = true ∧ cs.getLast?.any Text.isWordChar = false

/-- What comes behind a seam makes no opening out of a text that starts with none. -/
theorem openingAt?_append_of_seam {before : Option Char} {cs rest : List Char} (hne : cs ≠ [])
    (hs : Seam cs rest) (h : openingAt? before cs = none) :
    openingAt? before (cs ++ rest) = none := by
  cases hf : openingAt? before (cs ++ rest) with
  | none => rfl
  | some r =>
    obtain ⟨k, o⟩ := r
    obtain ⟨hb, r, he, ho⟩ := openingAt?_eq_some_iff.mp hf
    -- an opening within `cs` stands there already
    have hin (s : List Char) (hcs : cs = o ++ s) (hr : r = s ++ rest) : False := by
      have hs' : Opens k o s := by
        cases ho with
        | colon hk hw hg => exact .colon hk hw hg
        | word hk hw hrest =>
          apply Opens.word hk hw
          cases s with
          | nil => rfl
          | cons d s => rw [hr] at hrest; exact hrest
      rw [openingAt?_eq_some_iff.mpr ⟨hb, s, hcs, hs'⟩] at h
      cases h
    rcases List.append_eq_append_iff.mp he with ⟨s, rfl, hrest⟩ | ⟨s, hcs, hr⟩
    · cases s with
      | nil => exact (hin [] (by simp) (by simpa using hrest.symm)).elim
      | cons d s =>
        rcases hs d (by simp [hrest]) with rfl | ⟨hd, hlast⟩
        · exact absurd (by simp) ho.ne_lineFeed
        · rcases List.eq_nil_or_concat cs with rfl | ⟨a, c, rfl⟩
          · exact absurd rfl hne
          · rw [List.concat_eq_append, List.append_assoc, List.singleton_append] at ho
            rw [List.concat_eq_append, List.getLast?_concat, Option.any_some] at hlast
            rw [ho.isWordChar_of_append hd] at hlast
            cases hlast
    · exact (hin s hcs hr).elim

end Tabletop.Grammar
