import Mathlib.Data.List.TakeWhile
import Tabletop.Marker.Grammar
import Tabletop.Proofs.Pattern.Matching
import Tabletop.Proofs.Text.Numerals
import Tabletop.Proofs.Text.Trimming

/-!
# Numerals in markers

A numeral is a sign, or none, and word characters, of which the first digits count. It is read as
the number that they write, up to a bound, unless that number is beyond 64 bits: then it is read as
zero.
-/

namespace Tabletop.Grammar

theorem eq_of_isSign {c : Char} (h : isSign c = true) : c = '+' ∨ c = '-' := by
  simpa [isSign] using h

/-- No word character is a sign. -/
theorem isSign_of_isWordChar {c : Char} (h : Text.isWordChar c = true) : isSign c = false := by
  by_contra hsign
  rw [Bool.not_eq_false] at hsign
  rcases eq_of_isSign hsign with rfl | rfl
  · exact absurd h (by decide)
  · exact absurd h (by decide)

/-! ## Numerals -/

/-- A numeral in its parts: the sign, if there is one, the digits that count, and any word
characters that follow them, such as a unit. -/
structure Numeral where
  sign : Option Char
  digits : List Char
  unit : List Char
  isSign_of_mem : ∀ c ∈ sign, isSign c = true
  isDigit_of_mem : ∀ c ∈ digits, Text.isDigit c = true
  isWordChar_of_mem_unit : ∀ c ∈ unit, Text.isWordChar c = true
  head?_unit : unit.head?.any Text.isDigit = false

namespace Numeral

variable {n n' : Numeral} {c : Char} {bound : Nat}

/-- The digits and what follows them. -/
def word (n : Numeral) : List Char := n.digits ++ n.unit

/-- The numeral as it stands in a marker. -/
def text (n : Numeral) : List Char := n.sign.toList ++ n.word

/-- The number that a numeral writes: zero after a minus sign or without digits. -/
def number (n : Numeral) : Nat := if n.sign = some '-' then 0 else Text.digitsValue n.digits

/-- What a numeral is read as where a bound is the largest number: the number that it writes, at most
the bound, and zero if that number is beyond 64 bits. -/
def reading (bound : Nat) (n : Numeral) : Nat :=
  if n.number < UInt64.size then min bound n.number else 0

/-- Word characters after a sign or none are a numeral. -/
theorem exists_text_eq {sign : Option Char} {word : List Char}
    (hsign : ∀ c ∈ sign, isSign c = true) (hword : ∀ c ∈ word, Text.isWordChar c = true) :
    ∃ n : Numeral, n.text = sign.toList ++ word := by
  refine ⟨⟨sign, word.takeWhile Text.isDigit, word.dropWhile Text.isDigit, hsign, ?_, ?_, ?_⟩, ?_⟩
  · exact List.all_eq_true.mp List.all_takeWhile
  · exact fun c hc => hword c ((List.dropWhile_sublist _).subset hc)
  · have hnot := List.head?_dropWhile_not Text.isDigit word
    cases hc : (word.dropWhile Text.isDigit).head? with
    | none => rfl
    | some c => simpa [hc] using hnot
  · simp [text, Numeral.word]

theorem isWordChar_of_mem_word (n : Numeral) : ∀ c ∈ n.word, Text.isWordChar c = true := by
  intro c hc
  rcases List.mem_append.mp hc with hc | hc
  · exact Text.isWordChar_of_isDigit (n.isDigit_of_mem c hc)
  · exact n.isWordChar_of_mem_unit c hc

/-- The first digits of a numeral are those that count. -/
theorem takeWhile_word (n : Numeral) : n.word.takeWhile Text.isDigit = n.digits := by
  have hunit : n.unit.takeWhile Text.isDigit = [] := by
    have hhead := n.head?_unit
    cases hu : n.unit with
    | nil => rfl
    | cons c cs =>
      rw [hu, List.head?_cons, Option.any_some] at hhead
      rw [List.takeWhile_cons_of_neg (by simp [hhead])]
  rw [word, List.takeWhile_append_of_pos n.isDigit_of_mem, hunit, List.append_nil]

/-- A numeral has no blanks to trim. -/
theorem trimChars_text (n : Numeral) : Text.trimChars n.text = n.text := by
  have hall : ∀ c ∈ n.text, Text.isBlank c = false := by
    intro c hc
    rcases List.mem_append.mp hc with hc | hc
    · rcases eq_of_isSign (n.isSign_of_mem c (by simpa using hc)) with rfl | rfl <;> decide
    · exact Text.isBlank_of_isWordChar (n.isWordChar_of_mem_word c hc)
  by_cases hne : n.text = []
  · rw [hne]
    rfl
  · exact (Text.Tight.of_not_blank hne hall).trimChars_eq

/-- Where neither the characters of a numeral nor what follows it are of a class, none of the class
comes first. -/
theorem head?_text_append {p : Char → Bool} {rest : List Char} (n : Numeral)
    (hsign : ∀ c, isSign c = true → p c = false)
    (hword : ∀ c, Text.isWordChar c = true → p c = false) (hrest : rest.head?.any p = false) :
    (n.text ++ rest).head?.any p = false := by
  cases ht : n.text with
  | nil => exact hrest
  | cons c cs =>
    have hc : c ∈ n.text := by simp [ht]
    rcases List.mem_append.mp hc with hc | hc
    · exact hsign c (n.isSign_of_mem c (by simpa using hc))
    · exact hword c (n.isWordChar_of_mem_word c hc)

/-- A number in decimal. -/
def ofNat (n : Nat) : Numeral where
  sign := none
  digits := Text.natDigits n
  unit := []
  isSign_of_mem := by simp
  isDigit_of_mem := fun _ hc => Text.isDigit_of_mem_natDigits hc
  isWordChar_of_mem_unit := List.forall_mem_nil _
  head?_unit := rfl

@[simp]
theorem text_ofNat (n : Nat) : (ofNat n).text = Text.natDigits n := by simp [text, word, ofNat]

@[simp]
theorem number_ofNat (n : Nat) : (ofNat n).number = n := by
  simp [number, ofNat, Text.digitsValue_natDigits]

/-- A number within a bound is read as itself. -/
theorem reading_ofNat {n : Nat} (h : n ≤ bound) (hlt : n < UInt64.size) :
    (ofNat n).reading bound = n := by
  rw [reading, number_ofNat, if_pos hlt, Nat.min_eq_right h]

/-! ## Reading a numeral -/

private theorem toNat_leadingCount_word (n : Numeral) :
    (leadingCount n.word).toNat =
      if Text.digitsValue n.digits < UInt64.size then min maxCount (Text.digitsValue n.digits)
      else 0 := by
  rw [leadingCount, n.takeWhile_word]
  by_cases hlt : Text.digitsValue n.digits < UInt64.size
  · have hmax : min maxCount (Text.digitsValue n.digits) < UInt32.size :=
      (Nat.min_le_left _ _).trans_lt (by decide)
    rw [if_pos hlt, if_neg (Nat.not_le.mpr hlt), Nat.min_comm, UInt32.toNat_ofNat_of_lt' hmax]
  · rw [if_neg hlt, if_pos (Nat.le_of_not_lt hlt)]
    rfl

/-- A count is what its numeral is read as up to the largest count. -/
theorem toNat_count_text (n : Numeral) : (count n.text).toNat = n.reading maxCount := by
  have hword := n.toNat_leadingCount_word
  rw [count, n.trimChars_text, text]
  cases hs : n.sign with
  | none =>
    have hnumber : n.number = Text.digitsValue n.digits := by simp [number, hs]
    rw [reading, hnumber, ← hword, Option.toList_none, List.nil_append]
    -- without a sign, the word does not start with one either
    split
    · next h =>
      exact absurd (isSign_of_isWordChar (n.isWordChar_of_mem_word '-' (by simp [h]))) (by decide)
    · next h =>
      exact absurd (isSign_of_isWordChar (n.isWordChar_of_mem_word '+' (by simp [h]))) (by decide)
    · rfl
  | some c =>
    rw [Option.toList_some, List.singleton_append]
    rcases eq_of_isSign (n.isSign_of_mem c (by simp [hs])) with rfl | rfl
    · have hnumber : n.number = Text.digitsValue n.digits := by simp [number, hs]
      rw [reading, hnumber, ← hword]
      rfl
    · have hnumber : n.number = 0 := by simp [number, hs]
      rw [reading, hnumber]
      rfl

/-- Damage is what its numeral is read as up to the largest damage. -/
theorem toInt_damageOf_count_text (n : Numeral) :
    (damageOf (count n.text)).toInt = n.reading 2147483647 := by
  have hmax : Int32.maxValue.toInt = 2147483647 := rfl
  have hcount : maxCount = 4294967295 := rfl
  rw [damageOf, n.toNat_count_text, hmax, Int32.toInt_ofInt_of_le (by omega) (by omega)]
  simp only [reading, hcount]
  split <;> omega

/-! ## Longer numerals -/

/-- Only the text of a numeral says whether it has a sign. -/
theorem sign_eq (n : Numeral) : n.sign = n.text.head?.filter isSign := by
  cases hs : n.sign with
  | some c =>
    have hc : isSign c = true := n.isSign_of_mem c (by simp [hs])
    simp [text, hs, Option.filter, hc]
  | none =>
    rw [text, hs, Option.toList_none, List.nil_append]
    cases hw : n.word.head? with
    | none => rfl
    | some c =>
      have hc : isSign c = false :=
        isSign_of_isWordChar (n.isWordChar_of_mem_word c (List.mem_of_head? hw))
      simp [Option.filter, hc]

/-- A digit behind a numeral leaves the sign alone and comes behind the word. -/
private theorem sign_and_word_of_text_eq (hc : Text.isDigit c = true)
    (h : n'.text = n.text ++ [c]) : n'.sign = n.sign ∧ n'.word = n.word ++ [c] := by
  have hnot : isSign c = false := isSign_of_isWordChar (Text.isWordChar_of_isDigit hc)
  have hsign : n'.sign = n.sign := by
    rw [n'.sign_eq, n.sign_eq, h]
    cases n.text with
    | nil => simp [Option.filter, hnot]
    | cons d ds => rfl
  refine ⟨hsign, ?_⟩
  rw [text, text, hsign, List.append_assoc] at h
  exact List.append_cancel_left h

/-- A digit behind a numeral makes the number that it writes no smaller. -/
theorem number_le_of_text_eq (hc : Text.isDigit c = true) (h : n'.text = n.text ++ [c]) :
    n.number ≤ n'.number := by
  obtain ⟨hsign, hword⟩ := sign_and_word_of_text_eq hc h
  have hdigits : n.digits <+: n'.digits := by
    rw [← n.takeWhile_word, ← n'.takeWhile_word, hword, List.takeWhile_append]
    split
    · exact (List.takeWhile_prefix _).trans (List.prefix_append _ _)
    · exact List.prefix_rfl
  rw [number, number, hsign]
  split
  · exact Nat.le_refl 0
  · exact Text.digitsValue_le_of_prefix hdigits

/-- A digit behind a numeral makes what it is read as no smaller, while the number that it writes
stays within 64 bits. -/
theorem reading_le_of_text_eq (hc : Text.isDigit c = true) (h : n'.text = n.text ++ [c])
    (hlt : n'.number < UInt64.size) : n.reading bound ≤ n'.reading bound := by
  have hle := number_le_of_text_eq hc h
  rw [reading, reading, if_pos hlt, if_pos (Nat.lt_of_le_of_lt hle hlt)]
  omega

end Numeral

end Tabletop.Grammar
