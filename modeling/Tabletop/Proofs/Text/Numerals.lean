import Tabletop.Text.Basic

/-!
# Numbers read back

The decimal digits of a number write that number, and a 32-bit integer in decimal reads as itself.
-/

namespace Tabletop.Text

/-- A number in decimal has digits. -/
theorem natDigits_ne_nil (n : Nat) : natDigits n ≠ [] := Nat.toDigits_ne_nil

/-- A number in decimal has nothing but digits. -/
theorem isDigit_of_mem_natDigits {n : Nat} {c : Char} (h : c ∈ natDigits n) : isDigit c = true := by
  have hc : c.isDigit = true := Nat.isDigit_of_mem_toDigits (by decide) (by decide) h
  simp only [Char.isDigit, Bool.and_eq_true, decide_eq_true_eq] at hc
  simp only [isDigit, Bool.and_eq_true, decide_eq_true_eq]
  exact hc

/-- The digits of a number write that number. -/
theorem digitsValue_natDigits (n : Nat) : digitsValue (natDigits n) = n := by
  have hstep : (fun n c => n * 10 + digitValue c) =
      fun n c => 10 * n + (Char.toNat c - '0'.toNat) := by
    funext n c
    rw [digitValue, Nat.mul_comm]
    rfl
  rw [digitsValue, hstep]
  exact Nat.ofDigitChars_ten_toDigits

/-- More digits write no smaller number. -/
theorem digitsValue_le_of_prefix {cs ds : List Char} (h : cs <+: ds) :
    digitsValue cs ≤ digitsValue ds := by
  have hfold (n : Nat) (more : List Char) :
      n ≤ more.foldl (fun n c => n * 10 + digitValue c) n := by
    induction more generalizing n with
    | nil => exact Nat.le_refl n
    | cons c more ih =>
      have hstep := ih (n * 10 + digitValue c)
      rw [List.foldl_cons]
      omega
  obtain ⟨more, rfl⟩ := h
  rw [digitsValue, digitsValue, List.foldl_append]
  exact hfold _ more

/-- The digits are word characters. -/
theorem isWordChar_of_isDigit {c : Char} (h : isDigit c = true) : isWordChar c = true := by
  have hc : c.toNat < 128 := by
    simp only [isDigit, Bool.and_eq_true, decide_eq_true_eq] at h
    omega
  rw [isWordChar, if_pos hc, h]
  rfl

/-- The characters that are blank, by their code points. -/
private def blankCodes : List Nat :=
  [9, 10, 11, 12, 13, 0x20, 0x85, 0xA0, 0x1680] ++ List.range' 0x2000 11 ++
    [0x2028, 0x2029, 0x202F, 0x205F, 0x3000]

private theorem mem_blankCodes {c : Char} (h : isBlank c = true) : c.toNat ∈ blankCodes := by
  simp only [isBlank, Bool.or_eq_true, Bool.and_eq_true, decide_eq_true_eq, beq_iff_eq] at h
  simp only [blankCodes, List.mem_append, List.mem_cons, List.mem_range'_1, List.not_mem_nil,
    or_false]
  omega

/-- No word character is a blank. -/
theorem isBlank_of_isWordChar {c : Char} (h : isWordChar c = true) : isBlank c = false := by
  rw [Bool.eq_false_iff]
  intro hblank
  have hcodes : ∀ n ∈ blankCodes, ¬(48 ≤ n ∧ n < 128) ∧ wordRanges.contains n = false := by
    decide +kernel
  obtain ⟨hascii, htable⟩ := hcodes _ (mem_blankCodes hblank)
  rw [isWordChar] at h
  split at h
  · simp only [isDigit, isAsciiUpper, isAsciiLower, Bool.or_eq_true, Bool.and_eq_true,
      decide_eq_true_eq, beq_iff_eq] at h
    rcases h with h | rfl
    · omega
    · exact absurd hascii (by decide)
  · rw [htable] at h
    cases h

/-- No digit is a blank. -/
theorem isBlank_of_isDigit {c : Char} (h : isDigit c = true) : isBlank c = false :=
  isBlank_of_isWordChar (isWordChar_of_isDigit h)

/-- A digit is none of the other characters. -/
theorem ne_of_isDigit {c d : Char} (h : isDigit c = true) (hd : isDigit d = false) : c ≠ d := by
  intro he
  rw [he, hd] at h
  cases h

/-- The first digit of a number. -/
theorem exists_natDigits_cons (n : Nat) : ∃ c cs, natDigits n = c :: cs ∧ isDigit c = true := by
  cases h : natDigits n with
  | nil => exact absurd h (natDigits_ne_nil n)
  | cons c cs => exact ⟨c, cs, rfl, isDigit_of_mem_natDigits (n := n) (by simp [h])⟩

/-- Only zero is written with a zero in front. -/
theorem head?_natDigits (n : Nat) (h : (natDigits n).head? = some '0') : n = 0 := by
  induction n using Nat.strongRecOn with
  | _ n ih =>
    by_cases hn : n < 10
    · rw [natDigits, Nat.toDigits_of_lt_base hn, List.head?_singleton, Option.some.injEq] at h
      have hsmall : ∀ d < 10, Nat.digitChar d = '0' → d = 0 := by decide
      exact hsmall n hn h
    · have hle : 10 ≤ n := Nat.le_of_not_lt hn
      obtain ⟨c, cs, hcs, -⟩ := exists_natDigits_cons (n / 10)
      rw [natDigits, Nat.toDigits_of_base_le (by decide) hle, ← natDigits, hcs, List.cons_append,
        List.head?_cons] at h
      have hzero := ih (n / 10) (by omega) (by rw [hcs, List.head?_cons, h])
      omega

/-- An integer in decimal. -/
theorem toList_ofInt (i : Int) :
    (ofInt i).toList = if i < 0 then '-' :: natDigits i.natAbs else natDigits i.natAbs := by
  unfold ofInt ofNat
  split <;> simp

/-- An integer in decimal has characters. -/
theorem toList_ofInt_ne_nil (i : Int) : (ofInt i).toList ≠ [] := by
  rw [toList_ofInt]
  split
  · exact List.cons_ne_nil _ _
  · exact natDigits_ne_nil _

/-- An integer in decimal has nothing but digits and a sign. -/
theorem isDigit_of_mem_ofInt {i : Int} {c : Char} (h : c ∈ (ofInt i).toList) :
    c = '-' ∨ isDigit c = true := by
  rw [toList_ofInt] at h
  split at h
  · rcases List.mem_cons.mp h with h | h
    · exact .inl h
    · exact .inr (isDigit_of_mem_natDigits h)
  · exact .inr (isDigit_of_mem_natDigits h)

/-- A 32-bit integer in decimal reads as itself. -/
theorem int32?_ofInt (i : Int32) : int32? (ofInt i.toInt) = some i := by
  have hlow := i.le_toInt
  have hhigh := i.toInt_lt
  have hall (n : Nat) : (natDigits n).all isDigit = true :=
    List.all_eq_true.mpr fun c hc => isDigit_of_mem_natDigits hc
  have hne (n : Nat) : (natDigits n).isEmpty = false := by
    simpa using natDigits_ne_nil n
  unfold int32?
  rw [toList_ofInt]
  by_cases hneg : i.toInt < 0
  · have hlt : i.toInt.natAbs < 2147483649 := by omega
    have hi : -(i.toInt.natAbs : Int) = i.toInt := by omega
    simp only [if_pos hneg, hne, hall, digitsValue_natDigits, Bool.not_false, Bool.true_and,
      if_true, hlt, decide_true, hi, Int32.ofInt_toInt]
  · obtain ⟨c, cs, hcs, hc⟩ := exists_natDigits_cons i.toInt.natAbs
    have hplus : c ≠ '+' := ne_of_isDigit hc (by decide)
    have hminus : c ≠ '-' := ne_of_isDigit hc (by decide)
    have hlt : i.toInt.natAbs < 2147483648 := by omega
    have hi : (i.toInt.natAbs : Int) = i.toInt := by omega
    rw [if_neg hneg, hcs]
    split
    next heq =>
      split at heq
      · next h => cases h; exact absurd rfl hplus
      · next h => cases h; exact absurd rfl hminus
      · cases heq
        rw [← hcs]
        simp [hne, hall, digitsValue_natDigits, hlt, hi]

end Tabletop.Text
