import Mathlib.Data.List.TakeWhile
import Tabletop.Text.Basic

/-!
# Trimming

Blanks around a text make no difference to it once it is trimmed.
-/

namespace Tabletop.Text

variable {p : Char → Bool} {a b cs : List Char}

/-- Characters of the class at the end go. -/
theorem dropEnd_append_of_pos (h : ∀ c ∈ b, p c = true) : dropEnd p (cs ++ b) = dropEnd p cs := by
  unfold dropEnd
  rw [List.reverse_append, List.dropWhile_append_of_pos]
  exact fun c hc => h c (List.mem_reverse.mp hc)

/-- A text of blanks has nothing left. -/
theorem trimChars_of_blank (h : ∀ c ∈ cs, isBlank c = true) : trimChars cs = [] := by
  have hd : cs.dropWhile isBlank = [] := List.dropWhile_eq_nil_iff.mpr h
  rw [trimChars, hd]
  rfl

/-- Blanks around a text are trimmed away. -/
theorem trimChars_append_append (ha : ∀ c ∈ a, isBlank c = true) (hb : ∀ c ∈ b, isBlank c = true) :
    trimChars (a ++ (cs ++ b)) = trimChars cs := by
  rw [trimChars, List.dropWhile_append_of_pos ha]
  by_cases hcs : ∀ c ∈ cs, isBlank c = true
  · have hall : ∀ c ∈ cs ++ b, isBlank c = true := by
      intro c hc
      rcases List.mem_append.mp hc with hc | hc
      · exact hcs c hc
      · exact hb c hc
    rw [List.dropWhile_eq_nil_iff.mpr hall, trimChars_of_blank hcs]
    rfl
  · have hne : (cs.dropWhile isBlank).isEmpty = false := by
      simpa [List.dropWhile_eq_nil_iff] using hcs
    rw [List.dropWhile_append, if_neg (by simp [hne]), dropEnd_append_of_pos hb, trimChars]

/-- Nothing is left of a text that was not in it. -/
theorem trimChars_sublist (cs : List Char) : (trimChars cs).Sublist cs := by
  have hend (xs : List Char) : (dropEnd isBlank xs).Sublist xs := by
    rw [dropEnd, ← List.reverse_sublist, List.reverse_reverse]
    exact List.dropWhile_sublist isBlank
  exact (hend _).trans (List.dropWhile_sublist isBlank)

/-- A blank before a text is trimmed away. -/
theorem trimChars_cons {c : Char} (h : isBlank c = true) (cs : List Char) :
    trimChars (c :: cs) = trimChars cs := by
  have ht : trimChars ([c] ++ (cs ++ [])) = trimChars cs :=
    trimChars_append_append (List.forall_mem_singleton.mpr h) (by simp)
  rwa [List.append_nil] at ht

/-- A blank behind a text is trimmed away. -/
theorem trimChars_concat {c : Char} (h : isBlank c = true) (cs : List Char) :
    trimChars (cs ++ [c]) = trimChars cs :=
  trimChars_append_append (a := []) (by simp) (List.forall_mem_singleton.mpr h)

private theorem dropWhile_eq_self_iff : cs.dropWhile p = cs ↔ cs.head?.any p = false := by
  cases cs with
  | nil => simp
  | cons c cs =>
    rw [List.head?_cons, Option.any_some]
    cases hc : p c with
    | false => simp [hc]
    | true =>
      rw [List.dropWhile_cons_of_pos hc]
      constructor
      · intro h
        have hlen := (List.dropWhile_sublist p (l := cs)).length_le
        rw [h, List.length_cons] at hlen
        omega
      · intro h
        simp at h

private theorem dropEnd_eq_self_iff : dropEnd p cs = cs ↔ cs.getLast?.any p = false := by
  rw [← List.head?_reverse, ← dropWhile_eq_self_iff, dropEnd, List.reverse_eq_iff]

/-- A text is trimmed when no blank stands at either end. -/
theorem trimChars_eq_self_iff :
    trimChars cs = cs ↔ cs.head?.any isBlank = false ∧ cs.getLast?.any isBlank = false := by
  rw [← dropWhile_eq_self_iff, ← dropEnd_eq_self_iff, trimChars]
  constructor
  · intro h
    have hd : cs.dropWhile isBlank = cs := by
      apply (List.dropWhile_sublist isBlank).eq_of_length_le
      have hlen := (List.dropWhile_sublist isBlank (l := (cs.dropWhile isBlank).reverse)).length_le
      rw [← List.length_reverse, ← dropEnd, h, List.length_reverse] at hlen
      exact hlen
    rw [hd] at h
    exact ⟨hd, h⟩
  · rintro ⟨hd, he⟩
    rw [hd, he]

/-! ## Texts with nothing to trim -/

/-- A text that starts and ends with characters other than blanks. -/
def Tight (cs : List Char) : Prop :=
  cs ≠ [] ∧ cs.head?.any isBlank = false ∧ cs.getLast?.any isBlank = false

namespace Tight

/-- Trimming changes nothing. -/
theorem trimChars_eq (h : Tight cs) : trimChars cs = cs := trimChars_eq_self_iff.mpr h.2

/-- A text without any blank. -/
theorem of_not_blank (hne : cs ≠ []) (h : ∀ c ∈ cs, isBlank c = false) : Tight cs := by
  refine ⟨hne, ?_, ?_⟩
  · cases hc : cs.head? with
    | none => rfl
    | some c => exact h c (List.mem_of_head? hc)
  · cases hc : cs.getLast? with
    | none => rfl
    | some c => exact h c (List.mem_of_getLast? hc)

/-- A character other than a blank. -/
theorem singleton {c : Char} (h : isBlank c = false) : Tight [c] := ⟨by simp, h, h⟩

/-- Whatever stands between two such texts. -/
theorem append_append (ha : Tight a) (hb : Tight b) : Tight (a ++ (cs ++ b)) := by
  obtain ⟨c, a', rfl⟩ := List.exists_cons_of_ne_nil ha.1
  refine ⟨by simp, ha.2.1, ?_⟩
  rw [← List.append_assoc, List.getLast?_append]
  cases hl : b.getLast? with
  | none => exact absurd (List.getLast?_eq_none_iff.mp hl) hb.1
  | some d =>
    have hd := hb.2.2
    rw [hl] at hd
    exact hd

/-- Whatever stands between two characters other than blanks. -/
theorem enclosed {c d : Char} (hc : isBlank c = false) (hd : isBlank d = false) :
    Tight (c :: (cs ++ [d])) := (singleton hc).append_append (singleton hd)

/-- What is left of a text that is trimmed, if anything is. -/
theorem of_trimChars (h : trimChars cs ≠ []) : Tight (trimChars cs) := by
  have hfirst (xs : List Char) : (xs.dropWhile isBlank).head?.any isBlank = false := by
    have hnot := List.head?_dropWhile_not isBlank xs
    cases hc : (xs.dropWhile isBlank).head? with
    | none => rfl
    | some c => simpa [hc] using hnot
  obtain ⟨rest, hrest⟩ : trimChars cs <+: cs.dropWhile isBlank := by
    rw [trimChars, dropEnd, ← List.reverse_suffix, List.reverse_reverse]
    exact List.dropWhile_suffix isBlank
  refine ⟨h, ?_, ?_⟩
  · obtain ⟨c, kept, hkept⟩ := List.exists_cons_of_ne_nil h
    have hhead := hfirst cs
    rw [← hrest, hkept] at hhead
    rw [hkept]
    exact hhead
  · rw [trimChars, dropEnd, List.getLast?_reverse]
    exact hfirst _

/-- Trimming a text takes nothing away of one that is left when characters are left out. -/
theorem sublist_trimChars (h : Tight cs) (hsub : cs.Sublist a) : cs.Sublist (trimChars a) := by
  have hdrop {xs ys : List Char} (hhead : xs.head?.any isBlank = false) (h : xs.Sublist ys) :
      xs.Sublist (ys.dropWhile isBlank) := by
    induction ys with
    | nil => exact h
    | cons y ys ih =>
      rw [List.dropWhile_cons]
      split
      · next hy =>
        rcases List.sublist_cons_iff.mp h with h | ⟨rest, rfl, -⟩
        · exact ih h
        · simp [hy] at hhead
      · exact h
  have hfront := hdrop h.2.1 hsub
  have hback : cs.reverse.Sublist ((a.dropWhile isBlank).reverse.dropWhile isBlank) := by
    apply hdrop _ hfront.reverse
    rw [List.head?_reverse]
    exact h.2.2
  rw [trimChars, dropEnd, ← List.reverse_sublist, List.reverse_reverse]
  exact hback

/-- Such texts joined with any separator. -/
theorem intercalate {sep : List Char} {pieces : List (List Char)} (hne : pieces ≠ [])
    (h : ∀ piece ∈ pieces, Tight piece) : Tight (sep.intercalate pieces) := by
  induction pieces with
  | nil => exact absurd rfl hne
  | cons piece pieces ih =>
    cases pieces with
    | nil =>
      rw [List.intercalate_singleton]
      exact h piece (by simp)
    | cons next pieces =>
      rw [List.intercalate_cons_cons, List.append_assoc]
      exact (h piece (by simp)).append_append
        (ih (by simp) fun q hq => h q (List.mem_cons_of_mem _ hq))

end Tight

/-! ## Characters other than blanks -/

/-- The characters of a text other than blanks. -/
def solid (cs : List Char) : List Char := cs.filter fun c => !isBlank c

@[simp]
theorem solid_append (cs ds : List Char) : solid (cs ++ ds) = solid cs ++ solid ds :=
  List.filter_append ..

@[simp]
theorem solid_reverse (cs : List Char) : solid cs.reverse = (solid cs).reverse :=
  List.filter_reverse

/-- A text of blanks has no other characters. -/
theorem solid_of_blank (h : cs.all isBlank = true) : solid cs = [] := by
  simpa [solid, List.filter_eq_nil_iff] using h

/-- Blanks may go from the start of a text. -/
theorem solid_dropWhile (h : ∀ c, p c = true → isBlank c = true) (cs : List Char) :
    solid (cs.dropWhile p) = solid cs := by
  have htaken : (cs.takeWhile p).all isBlank = true :=
    List.all_eq_true.mpr fun c hc => h c (List.all_eq_true.mp List.all_takeWhile c hc)
  conv => rhs; rw [← List.takeWhile_append_dropWhile (p := p) (l := cs)]
  rw [solid_append, solid_of_blank htaken, List.nil_append]

/-- Trimming takes blanks away. -/
@[simp]
theorem solid_trimChars (cs : List Char) : solid (trimChars cs) = solid cs := by
  rw [trimChars, dropEnd, solid_reverse, solid_dropWhile (fun _ h => h), solid_reverse,
    List.reverse_reverse, solid_dropWhile fun _ h => h]

/-- A text is blank exactly if nothing is left of it when it is trimmed. -/
theorem isAllBlank_iff {s : String} : isAllBlank s = true ↔ trimChars s.toList = [] := by
  rw [isAllBlank, List.all_eq_true]
  refine ⟨trimChars_of_blank, fun hnil => ?_⟩
  have hsolid : solid s.toList = [] := by rw [← solid_trimChars, hnil, solid, List.filter_nil]
  simpa [solid, List.filter_eq_nil_iff] using hsolid

/-- Blanks between texts do not count. -/
theorem solid_intercalate {sep : List Char} (h : sep.all isBlank = true)
    (pieces : List (List Char)) : solid (sep.intercalate pieces) = pieces.flatMap solid := by
  induction pieces with
  | nil => rfl
  | cons piece pieces ih =>
    cases pieces with
    | nil => rw [List.intercalate_singleton, List.flatMap_singleton]
    | cons next pieces =>
      rw [List.intercalate_cons_cons, solid_append, solid_append, solid_of_blank h,
        List.append_nil, ih]
      exact List.flatMap_cons.symm

end Tabletop.Text
