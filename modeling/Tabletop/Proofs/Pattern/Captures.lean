import Tabletop.Proofs.Pattern.Matching

/-!
# Where kept texts come from

A text that a match keeps is of what the match takes, and a part of the pattern that keeps it under
its number matched it. A number that is kept on every way through the pattern is kept by every
match.
-/

namespace Tabletop.Pattern

variable {a : Pattern} {cs : List Char} {i : Nat} {m : Match}

/-- The parts of a pattern whose texts are kept, each with its number. -/
def keepers : Pattern → List (Nat × Pattern)
  | .empty | .one _ | .run _ | .notNext _ | .upTo .. => []
  | .seq a b | .either a b => a.keepers ++ b.keepers
  | .capture i a => (i, a) :: a.keepers

/-- The numbers that are kept on every way through a pattern. -/
def alwaysKept : Pattern → List Nat
  | .empty | .one _ | .run _ | .notNext _ | .upTo .. => []
  | .seq a b => a.alwaysKept ++ b.alwaysKept
  | .either a b => a.alwaysKept.filter fun i => b.alwaysKept.contains i
  | .capture i a => i :: a.alwaysKept

/-- What a match keeps is of what it takes, and a part of the pattern that keeps it matched it. -/
theorem exists_keeper {kept : Nat × List Char} (h : a.matchStart cs = some m)
    (hk : kept ∈ m.captures) :
    kept.2 ⊆ m.text ∧ ∃ part ds found, (kept.1, part) ∈ a.keepers ∧
      part.matchStart ds = some found ∧ found.text = kept.2 := by
  induction a generalizing cs m with
  | empty =>
    cases h
    cases hk
  | one p =>
    obtain ⟨d, -, -, he⟩ := matchStart_one_eq_some_iff.mp h
    rw [he] at hk
    cases hk
  | run p =>
    cases h
    cases hk
  | notNext p =>
    simp only [matchStart] at h
    split at h
    · cases h
    · cases h
      cases hk
  | upTo p b _ =>
    obtain ⟨r, -, rfl⟩ := Option.map_eq_some_iff.mp h
    cases hk
  | seq a b iha ihb =>
    obtain ⟨m₁, m₂, h₁, h₂, rfl⟩ := matchStart_seq_eq_some_iff.mp h
    rcases List.mem_append.mp hk with hk | hk
    · obtain ⟨hsub, part, ds, found, hmem, hfound⟩ := iha h₁ hk
      exact ⟨List.subset_append_of_subset_left _ hsub, part, ds, found,
        List.mem_append_left _ hmem, hfound⟩
    · obtain ⟨hsub, part, ds, found, hmem, hfound⟩ := ihb h₂ hk
      exact ⟨List.subset_append_of_subset_right _ hsub, part, ds, found,
        List.mem_append_right _ hmem, hfound⟩
  | either a b iha ihb =>
    simp only [matchStart] at h
    split at h
    · next h₁ =>
      cases h
      obtain ⟨hsub, part, ds, found, hmem, hfound⟩ := iha h₁ hk
      exact ⟨hsub, part, ds, found, List.mem_append_left _ hmem, hfound⟩
    · obtain ⟨hsub, part, ds, found, hmem, hfound⟩ := ihb h hk
      exact ⟨hsub, part, ds, found, List.mem_append_right _ hmem, hfound⟩
  | capture j a ih =>
    obtain ⟨m', h', rfl⟩ := Option.map_eq_some_iff.mp h
    rcases List.mem_cons.mp hk with rfl | hk
    · exact ⟨List.Subset.refl _, a, cs, m', List.mem_cons_self, h', rfl⟩
    · obtain ⟨hsub, part, ds, found, hmem, hfound⟩ := ih (m := m') h' hk
      exact ⟨hsub, part, ds, found, List.mem_cons_of_mem _ hmem, hfound⟩

/-- A text that a match keeps under a number is of what it takes. -/
theorem text_captures_subset (h : a.matchStart cs = some m) (i : Nat) :
    m.captures.text i ⊆ m.text := by
  rcases m.captures.lookup_eq_none_or_mem i with hl | hk
  · simp [Captures.text, hl]
  · exact (exists_keeper h hk).1

/-- What is kept on every way is kept. -/
theorem exists_mem_captures (h : a.matchStart cs = some m) (hi : i ∈ a.alwaysKept) :
    ∃ text, (i, text) ∈ m.captures := by
  induction a generalizing cs m with
  | empty | one | run | notNext | upTo => cases hi
  | seq a b iha ihb =>
    obtain ⟨m₁, m₂, h₁, h₂, rfl⟩ := matchStart_seq_eq_some_iff.mp h
    rcases List.mem_append.mp hi with hi | hi
    · obtain ⟨text, ht⟩ := iha h₁ hi
      exact ⟨text, List.mem_append_left _ ht⟩
    · obtain ⟨text, ht⟩ := ihb h₂ hi
      exact ⟨text, List.mem_append_right _ ht⟩
  | either a b iha ihb =>
    obtain ⟨ha, hb⟩ := List.mem_filter.mp hi
    simp only [matchStart] at h
    split at h
    · next h₁ =>
      cases h
      exact iha h₁ ha
    · exact ihb h (List.contains_iff_mem.mp hb)
  | capture j a ih =>
    obtain ⟨m', h', rfl⟩ := Option.map_eq_some_iff.mp h
    rcases List.mem_cons.mp hi with rfl | hi
    · exact ⟨m'.text, List.mem_cons_self⟩
    · obtain ⟨text, ht⟩ := ih (m := m') h' hi
      exact ⟨text, List.mem_cons_of_mem _ ht⟩

/-- The text kept under a number that is kept on every way was matched by a part that keeps it. -/
theorem exists_text_captures (h : a.matchStart cs = some m) (hi : i ∈ a.alwaysKept) :
    ∃ part ds found, (i, part) ∈ a.keepers ∧ part.matchStart ds = some found ∧
      found.text = m.captures.text i := by
  obtain ⟨text, ht⟩ := exists_mem_captures h hi
  rcases m.captures.lookup_eq_none_or_mem i with hl | hk
  · exact absurd (List.lookup_eq_none_iff.mp hl _ ht) (by simp)
  · exact (exists_keeper h hk).2

end Tabletop.Pattern
