import Mathlib.Algebra.Ring.Nat
import Tabletop.Dice.Basic

/-!
# Draws

A draw is below the size of its range, however the words fall; and whatever numbers below the size
are asked for, some dice draw them one after another.
-/

namespace Tabletop.Dice

variable {dice : Dice} {size i n : Nat}

/-- A draw is below the size of its range. -/
theorem below_lt {width size : Nat} {draw : Dice → Nat × Dice} (hsize : 0 < size)
    (hdraw : ∀ dice, (draw dice).1 < Nat.pow 2 width) (patience : Nat) (dice : Dice) :
    (below width size draw patience dice).1 < size := by
  have hword (dice : Dice) : (draw dice).1 * size / Nat.pow 2 width < size :=
    Nat.div_lt_of_lt_mul (Nat.mul_lt_mul_of_pos_right (hdraw dice) hsize)
  induction patience generalizing dice with
  | zero => exact hword dice
  | succ patience ih =>
    simp only [below]
    split
    · exact hword dice
    · exact ih (draw dice).2

/-- Draws below a size from 64-bit words, one after another. -/
def draws (dice : Dice) (size : Nat) : Nat → List Nat
  | 0 => []
  | n + 1 => (dice.below64 size).1 :: (dice.below64 size).2.draws size n

/-- The dice after draws below a size from 64-bit words. -/
def afterDraws (dice : Dice) (size : Nat) : Nat → Dice
  | 0 => dice
  | n + 1 => (dice.below64 size).2.afterDraws size n

theorem lt_of_mem_draws (hsize : 0 < size) (h : i ∈ dice.draws size n) : i < size := by
  induction n generalizing dice with
  | zero => cases h
  | succ n ih =>
    rcases List.mem_cons.mp h with rfl | h
    · exact below_lt hsize (fun dice => dice.draw64.1.toNat_lt) patience dice
    · exact ih h

/-! ## Dice for given draws -/

/-- The least 64-bit word that makes a draw below a size a given number. -/
def wordFor (size i : Nat) : UInt64 := UInt64.ofNat ((i * 2 ^ 64 + (size - 1)) / size)

/-- The product that decides a draw has the number in its high half, and little in its low half. -/
private theorem wordFor_mul (hi : i < size) (hsize : size ≤ 2 ^ 64) :
    ∃ low, low < size ∧ (wordFor size i).toNat * size = i * 2 ^ 64 + low := by
  have hpos : 0 < size := by omega
  have hlt : i * 2 ^ 64 + (size - 1) < 2 ^ 64 * size := by
    have hle : (i + 1) * 2 ^ 64 ≤ size * 2 ^ 64 := Nat.mul_le_mul_right _ hi
    omega
  have hword : (wordFor size i).toNat = (i * 2 ^ 64 + (size - 1)) / size :=
    UInt64.toNat_ofNat_of_lt' (Nat.div_lt_of_lt_mul (by rwa [Nat.mul_comm size]))
  have hdiv := Nat.div_add_mod' (i * 2 ^ 64 + (size - 1)) size
  have hmod := Nat.mod_lt (i * 2 ^ 64 + (size - 1)) hpos
  rw [hword]
  exact ⟨size - 1 - (i * 2 ^ 64 + (size - 1)) % size, by omega, by omega⟩

private theorem below64_scripted {words : List UInt64} {position : Nat} (hi : i < size)
    (hsize : size ≤ 2 ^ 64) (hword : words[position]? = some (wordFor size i)) :
    (scripted words position).below64 size = (i, scripted words (position + 1)) := by
  obtain ⟨hlt, hget⟩ := List.getElem?_eq_some_iff.mp hword
  obtain ⟨low, hlow, hmul⟩ := wordFor_mul hi hsize
  have hdraw : (scripted words position).draw64 =
      (wordFor size i, scripted words (position + 1)) := by
    simp only [draw64, Nat.mod_eq_of_lt hlt, List.getD_eq_getElem?_getD, hword, Option.getD_some]
  have haccept : low ≤ acceptZone 64 size := by
    have hpow : 1 ≤ Nat.pow 2 (64 - 1 - size.log2) := Nat.one_le_two_pow
    have hzone := Nat.mul_le_mul_left size hpow
    unfold acceptZone
    omega
  have hhigh : (i * 2 ^ 64 + low) / Nat.pow 2 64 = i := by
    change (i * 2 ^ 64 + low) / 2 ^ 64 = i
    omega
  have hrest : (i * 2 ^ 64 + low) % Nat.pow 2 64 = low := by
    change (i * 2 ^ 64 + low) % 2 ^ 64 = low
    omega
  rw [below64, patience, below]
  simp only [hdraw, hmul, hhigh, hrest, if_pos haccept]

private theorem draws_scripted (hsize : size ≤ 2 ^ 64) (before : List UInt64) {numbers : List Nat}
    (h : ∀ i ∈ numbers, i < size) :
    (scripted (before ++ numbers.map (wordFor size)) before.length).draws size numbers.length =
      numbers := by
  induction numbers generalizing before with
  | nil => rfl
  | cons i numbers ih =>
    obtain ⟨hi, hrest⟩ := List.forall_mem_cons.mp h
    have hfirst : (scripted (before ++ (i :: numbers).map (wordFor size)) before.length).below64
        size = (i, scripted ((before ++ [wordFor size i]) ++ numbers.map (wordFor size))
          (before ++ [wordFor size i]).length) := by
      rw [below64_scripted hi hsize (by simp)]
      simp
    rw [List.length_cons, draws, hfirst, ih (before ++ [wordFor size i]) hrest]

/-- Whatever numbers below a size are asked for, some dice draw them. -/
theorem exists_draws_eq (hsize : size ≤ 2 ^ 64) {numbers : List Nat}
    (h : ∀ i ∈ numbers, i < size) : ∃ dice : Dice, dice.draws size numbers.length = numbers :=
  ⟨ofWords (numbers.map (wordFor size)), draws_scripted hsize [] h⟩

end Tabletop.Dice
