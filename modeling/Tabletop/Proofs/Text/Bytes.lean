import Tabletop.Text.Basic

/-!
# Offsets in bytes

Texts have additive lengths, and a place in a text is told by the length of what stands before it.
-/

namespace Tabletop.Text

/-- The bytes of two texts add up. -/
@[simp]
theorem byteLength_append (cs ds : List Char) :
    byteLength (cs ++ ds) = byteLength cs + byteLength ds := by
  induction cs with
  | nil => simp [byteLength]
  | cons c cs ih => simp [byteLength, ih, Nat.add_assoc]

/-- A character adds its bytes to those before it. -/
theorem byteLength_concat (cs : List Char) (c : Char) :
    byteLength (cs ++ [c]) = byteLength cs + c.utf8Size := by
  rw [byteLength_append, byteLength, byteLength, Nat.add_zero]

/-- A text backwards has the same bytes. -/
@[simp]
theorem byteLength_reverse (cs : List Char) : byteLength cs.reverse = byteLength cs := by
  induction cs with
  | nil => rfl
  | cons c cs ih => simp [byteLength, ih, Nat.add_comm]

/-- A text with characters has bytes. -/
theorem byteLength_pos {cs : List Char} (h : cs ≠ []) : 0 < byteLength cs := by
  cases cs with
  | nil => exact absurd rfl h
  | cons c cs => exact Nat.lt_of_lt_of_le c.utf8Size_pos (Nat.le_add_right ..)

/-- Of two starts of one text the longer one begins with the other. -/
theorem exists_append_of_byteLength_le {a b cs ds : List Char} (he : a ++ b = cs ++ ds)
    (h : byteLength a ≤ byteLength cs) : ∃ s, cs = a ++ s ∧ b = s ++ ds := by
  rcases List.append_eq_append_iff.mp he with ⟨s, hcs, hb⟩ | ⟨s, ha, hds⟩
  · exact ⟨s, hcs, hb⟩
  · cases s with
    | nil => exact ⟨[], by simpa using ha.symm, by simpa using hds.symm⟩
    | cons c s =>
      have hpos := byteLength_pos (List.cons_ne_nil c s)
      rw [ha, byteLength_append] at h
      omega

end Tabletop.Text
