import Mathlib.Data.List.Basic
import Tabletop.Text.Basic

/-!
# ASCII case

The two case maps of ASCII letters undo one another up to case, and neither changes whether a
character belongs to a word. Capitalized, an ASCII word has its first letter as a capital and all
others small.
-/

namespace Tabletop.Text

private theorem toNat_ofNat_of_lt {n : Nat} (h : n < 128) : (Char.ofNat n).toNat = n := by
  have hv : n.isValidChar := Or.inl (by omega)
  rw [Char.ofNat, dif_pos hv]
  rfl

/-- The small letters lie 32 places above their capitals. -/
theorem toNat_asciiLowerChar (c : Char) :
    (asciiLowerChar c).toNat = if 65 ≤ c.toNat ∧ c.toNat ≤ 90 then c.toNat + 32 else c.toNat := by
  unfold asciiLowerChar isAsciiUpper
  by_cases h : 65 ≤ c.toNat ∧ c.toNat ≤ 90
  · simp only [h, decide_true, Bool.and_self, if_true, and_self]
    exact toNat_ofNat_of_lt (by omega)
  · have hn : (decide (65 ≤ c.toNat) && decide (c.toNat ≤ 90)) = false := by
      simpa using fun h₁ => Nat.lt_of_not_le fun h₂ => h ⟨h₁, h₂⟩
    simp [hn, h]

/-- The capitals lie 32 places below their small letters. -/
theorem toNat_asciiUpperChar (c : Char) :
    (asciiUpperChar c).toNat = if 97 ≤ c.toNat ∧ c.toNat ≤ 122 then c.toNat - 32 else c.toNat := by
  unfold asciiUpperChar isAsciiLower
  by_cases h : 97 ≤ c.toNat ∧ c.toNat ≤ 122
  · simp only [h, decide_true, Bool.and_self, if_true, and_self]
    exact toNat_ofNat_of_lt (by omega)
  · have hn : (decide (97 ≤ c.toNat) && decide (c.toNat ≤ 122)) = false := by
      simpa using fun h₁ => Nat.lt_of_not_le fun h₂ => h ⟨h₁, h₂⟩
    simp [hn, h]

/-- It is the capital that the library has for a character. -/
theorem asciiUpperChar_eq_toUpper (c : Char) : asciiUpperChar c = c.toUpper := by
  apply Char.toNat_inj.mp
  rw [toNat_asciiUpperChar]
  have hsmall : ('a'.val ≤ c.val ∧ c.val ≤ 'z'.val) ↔ 97 ≤ c.toNat ∧ c.toNat ≤ 122 := Iff.rfl
  unfold Char.toUpper
  split
  · next h =>
    rw [dif_pos (hsmall.mpr h)]
    change c.toNat - 32 = (c.val + ('A'.val - 'a'.val)).toNat
    have hval : c.val.toNat = c.toNat := rfl
    -- The way down to the capitals is added and wraps around.
    have hshift : ('A'.val - 'a'.val).toNat = 2 ^ 32 - 32 := by decide
    rw [UInt32.toNat_add, hshift, hval]
    omega
  · next h => rw [dif_neg fun hn => h (hsmall.mp hn)]

/-- It is the small letter that the library has for a character. -/
theorem asciiLowerChar_eq_toLower (c : Char) : asciiLowerChar c = c.toLower := by
  apply Char.toNat_inj.mp
  rw [toNat_asciiLowerChar]
  have hcapital : ('A'.val ≤ c.val ∧ c.val ≤ 'Z'.val) ↔ 65 ≤ c.toNat ∧ c.toNat ≤ 90 := Iff.rfl
  unfold Char.toLower
  split
  · next h =>
    rw [dif_pos (hcapital.mpr h)]
    change c.toNat + 32 = (c.val + ('a'.val - 'A'.val)).toNat
    have hval : c.val.toNat = c.toNat := rfl
    have hshift : ('a'.val - 'A'.val).toNat = 32 := by decide
    rw [UInt32.toNat_add, hshift, hval]
    omega
  · next h => rw [dif_neg fun hn => h (hcapital.mp hn)]

/-- Going to the small letter first does not change the capital. -/
theorem asciiUpperChar_asciiLowerChar (c : Char) :
    asciiUpperChar (asciiLowerChar c) = asciiUpperChar c := by
  apply Char.toNat_inj.mp
  simp only [toNat_asciiUpperChar, toNat_asciiLowerChar]
  split <;> split <;> (try split) <;> omega

/-- Going to the capital first does not change the small letter. -/
theorem asciiLowerChar_asciiUpperChar (c : Char) :
    asciiLowerChar (asciiUpperChar c) = asciiLowerChar c := by
  apply Char.toNat_inj.mp
  simp only [toNat_asciiUpperChar, toNat_asciiLowerChar]
  split <;> split <;> (try split) <;> omega

/-- Two texts agree in small letters exactly when they agree in capitals. -/
theorem map_asciiLowerChar_eq_iff (cs ds : List Char) :
    cs.map asciiLowerChar = ds.map asciiLowerChar ↔
      cs.map asciiUpperChar = ds.map asciiUpperChar := by
  constructor
  · intro h
    have hu := congrArg (List.map asciiUpperChar) h
    simpa [Function.comp_def, asciiUpperChar_asciiLowerChar] using hu
  · intro h
    have hl := congrArg (List.map asciiLowerChar) h
    simpa [Function.comp_def, asciiLowerChar_asciiUpperChar] using hl

/-- A character whose capital belongs to words belongs to words itself. -/
theorem isWordChar_of_asciiUpperChar {c : Char} (h : isWordChar (asciiUpperChar c) = true) :
    isWordChar c = true := by
  by_cases hc : isAsciiLower c = true
  · have hlt : c.toNat < 128 := by
      simp only [isAsciiLower, Bool.and_eq_true, decide_eq_true_eq] at hc
      omega
    simp [isWordChar, hlt, hc]
  · have he : asciiUpperChar c = c := by simp [asciiUpperChar, hc]
    rwa [he] at h

/-! ## Capitals -/

theorem capitalize_cons (first : Char) (rest : List Char) :
    capitalize (String.ofList (first :: rest)) =
      String.ofList (upperChar first ++ rest.flatMap lowerChar) := by
  rw [capitalize, String.toList_ofList]

/-- An ASCII word is capitalized letter by letter. -/
theorem capitalize_of_ascii {first : Char} {rest : List Char}
    (h : ∀ c ∈ first :: rest, c.toNat < 128) :
    capitalize (String.ofList (first :: rest)) =
      String.ofList (first.toUpper :: rest.map Char.toLower) := by
  obtain ⟨hfirst, hrest⟩ := List.forall_mem_cons.mp h
  have hlower (c : Char) (hc : c ∈ rest) : lowerChar c = [c.toLower] := by
    rw [lowerChar, if_pos (hrest c hc), asciiLowerChar_eq_toLower]
  rw [capitalize_cons, upperChar, if_pos hfirst, asciiUpperChar_eq_toUpper,
    List.flatMap_congr hlower, ← List.map_eq_flatMap, List.singleton_append]

end Tabletop.Text
