import Tabletop.Text.Basic

/-!
# Splitting and joining

Texts joined with a separator that none of them holds are what the joined text splits into.
-/

namespace Tabletop.Text

/-- Splitting is that of lists. -/
theorem splitChars_eq_splitOnP (p : Char → Bool) (cs : List Char) :
    splitChars p cs = cs.splitOnP p := by
  induction cs with
  | nil => rfl
  | cons c cs ih =>
    rw [splitChars, ih, List.splitOnP_cons_eq_if_modifyHead]
    cases h : cs.splitOnP p with
    | nil => exact absurd h (List.splitOnP_ne_nil p cs)
    | cons piece pieces => rfl

/-- Joining is that of lists. -/
theorem joinChars_eq_intercalate (sep : List Char) (pieces : List (List Char)) :
    joinChars sep pieces = sep.intercalate pieces := by
  induction pieces with
  | nil => rfl
  | cons piece pieces ih =>
    cases pieces with
    | nil => simp [joinChars]
    | cons next pieces =>
      rw [joinChars, ih, List.intercalate_cons_cons, List.append_assoc]
      exact fun h => List.cons_ne_nil _ _ h

/-- A text without the separator is one piece. -/
theorem splitChars_of_not_mem {c : Char} {cs : List Char} (h : c ∉ cs) :
    splitChars (· == c) cs = [cs] := by
  rw [splitChars_eq_splitOnP, ← List.splitOn_eq_splitOnP, List.splitOn_eq_singleton h]

/-- What stands before the first separator is the first piece. -/
theorem splitChars_append_cons {c : Char} {cs : List Char} (h : c ∉ cs) (ds : List Char) :
    splitChars (· == c) (cs ++ c :: ds) = cs :: splitChars (· == c) ds := by
  rw [splitChars_eq_splitOnP, splitChars_eq_splitOnP, ← List.splitOn_eq_splitOnP,
    ← List.splitOn_eq_splitOnP, List.splitOn_append_cons_self_of_not_mem h]

/-- Pieces without the separator are what their joined text splits into. -/
theorem splitChars_intercalate {c : Char} {pieces : List (List Char)} (hne : pieces ≠ [])
    (h : ∀ piece ∈ pieces, c ∉ piece) :
    splitChars (· == c) ([c].intercalate pieces) = pieces := by
  rw [splitChars_eq_splitOnP, ← List.splitOn_eq_splitOnP, List.splitOn_intercalate c h hne]

/-- Characters of a joined text are those of the separator and of the pieces. -/
theorem forall_mem_intercalate {q : Char → Prop} {sep : List Char} {pieces : List (List Char)}
    (hsep : ∀ c ∈ sep, q c) (h : ∀ piece ∈ pieces, ∀ c ∈ piece, q c) :
    ∀ c ∈ sep.intercalate pieces, q c := by
  induction pieces with
  | nil =>
    intro c hc
    cases hc
  | cons piece pieces ih =>
    cases pieces with
    | nil =>
      rw [List.intercalate_singleton]
      exact h piece (by simp)
    | cons next pieces =>
      intro c hc
      rw [List.intercalate_cons_cons, List.append_assoc] at hc
      rcases List.mem_append.mp hc with hc | hc
      · exact h piece (by simp) c hc
      · rcases List.mem_append.mp hc with hc | hc
        · exact hsep c hc
        · exact ih (fun q hq => h q (List.mem_cons_of_mem _ hq)) c hc

/-- Fewer pieces, joined, leave characters out. -/
theorem intercalate_sublist (sep : List Char) {pieces all : List (List Char)}
    (h : pieces.Sublist all) : (sep.intercalate pieces).Sublist (sep.intercalate all) := by
  induction h with
  | slnil => exact List.Sublist.refl _
  | @cons pieces all piece h ih =>
    cases all with
    | nil =>
      rw [List.sublist_nil.mp h]
      exact List.nil_sublist _
    | cons next all =>
      rw [List.intercalate_cons_of_ne_nil (List.cons_ne_nil next all)]
      exact ih.trans (List.sublist_append_right _ _)
  | @cons_cons pieces all piece h ih =>
    cases pieces with
    | nil =>
      cases all with
      | nil => exact List.Sublist.refl _
      | cons next all =>
        rw [List.intercalate_singleton, List.intercalate_cons_cons, List.append_assoc]
        exact List.sublist_append_left _ _
    | cons next pieces =>
      have hall : all ≠ [] := fun hnil => by simp [hnil] at h
      rw [List.intercalate_cons_cons, List.intercalate_cons_of_ne_nil hall]
      exact (List.Sublist.refl _).append ih

/-- A separator of two characters is the first one, with the second one before every piece but the
first. -/
theorem intercalate_pair (c d : Char) (piece : List Char) (pieces : List (List Char)) :
    [c, d].intercalate (piece :: pieces) = [c].intercalate (piece :: pieces.map (d :: ·)) := by
  induction pieces generalizing piece with
  | nil => simp
  | cons next pieces ih =>
    rw [List.intercalate_cons_cons, ih, List.map_cons, List.intercalate_cons_cons]
    cases pieces <;> simp [List.intercalate_cons_cons]

/-- Strings without the separator are what their joined string splits into. -/
theorem splitAt_intercalate {c : Char} {sep : String} {parts : List String}
    (hsep : sep.toList = [c]) (hne : parts ≠ []) (h : ∀ s ∈ parts, c ∉ s.toList) :
    splitAt c (sep.intercalate parts) = parts := by
  have hp : ∀ piece ∈ parts.map String.toList, c ∉ piece := by
    intro piece hm
    obtain ⟨s, hs, rfl⟩ := List.mem_map.mp hm
    exact h s hs
  rw [splitAt, String.toList_intercalate, hsep, splitChars_intercalate (by simpa using hne) hp,
    List.map_map]
  simp [Function.comp_def]

end Tabletop.Text
