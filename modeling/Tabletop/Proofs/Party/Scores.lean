import Mathlib.Algebra.Ring.Nat
import Tabletop.Party.Ability
import Tabletop.Proofs.Dice.Draws

/-!
# Bought scores

Whatever abilities the draws name, scores stay on sale and within the budget: what they cost and
what is left of the points make up the budget. Buying ends with the thousandth draw, and before it
only when no points are left.
-/

namespace Tabletop.AbilityScores

variable {s : AbilityScores} {p : Purchase} {score : UInt8} {paid next total : Nat}

/-! ## Prices -/

/-- Scores from eight to fifteen are on sale. -/
theorem bounds_of_price? (h : price? score = some paid) : 8 ≤ score.toNat ∧ score.toNat ≤ 15 := by
  unfold price? at h
  split at h <;> cases h <;> omega

/-- A higher score has a higher price. -/
private theorem price?_lt (hpaid : price? score = some paid)
    (hnext : price? (score + 1) = some next) : paid < next := by
  have hsucc : (score + 1).toNat = score.toNat + 1 := by
    have hbounds := bounds_of_price? hpaid
    rw [UInt8.toNat_add]
    exact Nat.mod_eq_of_lt (show score.toNat + 1 < 2 ^ 8 by omega)
  unfold price? at hpaid
  split at hpaid <;> cases hpaid
  all_goals
    rename_i hscore
    rw [price?, hsucc, hscore] at hnext
    cases hnext <;> decide

/-- The scores are on sale, and this is what they cost together. -/
def Costs (s : AbilityScores) (total : Nat) : Prop :=
  ∃ prices : List Nat, s.toList.map price? = prices.map some ∧ prices.sum = total

/-- Scores that cost something are on sale. -/
theorem Costs.bounds (h : s.Costs total) (hmem : score ∈ s.toList) :
    8 ≤ score.toNat ∧ score.toNat ≤ 15 := by
  obtain ⟨prices, hprices, -⟩ := h
  have hprice : price? score ∈ prices.map some := hprices ▸ List.mem_map_of_mem hmem
  obtain ⟨price, -, hprice⟩ := List.mem_map.mp hprice
  exact bounds_of_price? hprice.symm

/-- A score has its place among the others, and keeps it when it is replaced. -/
private theorem exists_toList_eq (s : AbilityScores) (ability : Ability) :
    ∃ before after, s.toList = before ++ s.get ability :: after ∧
      ∀ score, (s.set score ability).toList = before ++ score :: after := by
  obtain ⟨strength, dexterity, constitution, intelligence, wisdom, charisma⟩ := s
  cases ability with
  | strength => exact ⟨[], _, rfl, fun _ => rfl⟩
  | dexterity => exact ⟨[strength], _, rfl, fun _ => rfl⟩
  | constitution => exact ⟨[strength, dexterity], _, rfl, fun _ => rfl⟩
  | intelligence => exact ⟨[strength, dexterity, constitution], _, rfl, fun _ => rfl⟩
  | wisdom => exact ⟨[strength, dexterity, constitution, intelligence], _, rfl, fun _ => rfl⟩
  | charisma =>
    exact ⟨[strength, dexterity, constitution, intelligence, wisdom], _, rfl, fun _ => rfl⟩

/-- Scores of which one is replaced cost as much more as that one does. -/
private theorem Costs.set (h : s.Costs total) {ability : Ability}
    (hpaid : price? (s.get ability) = some paid) (hnext : price? score = some next)
    (hle : paid ≤ next) : (s.set score ability).Costs (total + (next - paid)) := by
  obtain ⟨prices, hprices, rfl⟩ := h
  obtain ⟨before, after, hs, hset⟩ := exists_toList_eq s ability
  rw [hs, List.map_append, List.map_cons, eq_comm, List.map_eq_append_iff] at hprices
  obtain ⟨front, back, rfl, hfront, hback⟩ := hprices
  obtain ⟨price, rest, rfl, hprice, hrest⟩ := List.map_eq_cons_iff.mp hback
  rw [hpaid, Option.some.injEq] at hprice
  refine ⟨front ++ next :: rest, ?_, ?_⟩
  · rw [hset, List.map_append, List.map_cons, List.map_append, List.map_cons, hfront, hrest, hnext]
  · simp only [List.sum_append, List.sum_cons]
    omega

/-! ## Purchases -/

namespace Purchase

/-- What the scores cost and the points that are left make up the budget. -/
def Balanced (p : Purchase) : Prop := ∃ spent, p.scores.Costs spent ∧ spent + p.points = budget

private theorem balanced_start : start.Balanced := ⟨0, ⟨[0, 0, 0, 0, 0, 0], rfl, rfl⟩, rfl⟩

private theorem Balanced.raise (h : p.Balanced) (ability : Ability) :
    (p.raise ability).Balanced := by
  obtain ⟨spent, hcosts, htotal⟩ := h
  unfold Purchase.raise
  dsimp only
  split
  · next paid next hpaid hnext =>
    split
    · next hle =>
      refine ⟨_, hcosts.set hpaid hnext (Nat.le_of_lt (price?_lt hpaid hnext)), ?_⟩
      dsimp only
      omega
    · exact ⟨spent, hcosts, htotal⟩
  · exact ⟨spent, hcosts, htotal⟩

/-- Raises the abilities that draws name, one after another. -/
def raiseAll (p : Purchase) (draws : List Nat) : Purchase :=
  draws.foldl (fun p i => p.raise (abilityAt i)) p

private theorem Balanced.raiseAll (h : p.Balanced) (draws : List Nat) :
    (p.raiseAll draws).Balanced := by
  induction draws generalizing p with
  | nil => exact h
  | cons i draws ih => exact ih (h.raise (abilityAt i))

end Purchase

/-! ## Buying -/

/-- Buying goes on for as long as there are points, and draws may be made. -/
private theorem buy_eq (limit : Nat) (p : Purchase) (dice : Dice) :
    ∃ n ≤ limit, buy limit p dice = (p.raiseAll (dice.draws 6 n), dice.afterDraws 6 n) ∧
      (n < limit → (p.raiseAll (dice.draws 6 n)).points = 0) ∧
        ∀ m < n, (p.raiseAll (dice.draws 6 m)).points ≠ 0 := by
  induction limit generalizing p dice with
  | zero => exact ⟨0, Nat.le_refl 0, rfl, fun h => absurd h (Nat.not_lt_zero 0), by simp⟩
  | succ limit ih =>
    by_cases hpoints : p.points = 0
    · exact ⟨0, Nat.zero_le _, by rw [buy, if_pos hpoints]; rfl, fun _ => hpoints, by simp⟩
    · obtain ⟨n, hn, hbuy, hspent, hleft⟩ :=
        ih (p.raise (abilityAt (dice.below64 6).1)) (dice.below64 6).2
      refine ⟨n + 1, Nat.succ_le_succ hn, ?_, fun h => hspent (Nat.lt_of_succ_lt_succ h),
        fun m hm => ?_⟩
      · rw [buy, if_neg hpoints]
        exact hbuy
      · cases m with
        | zero => exact hpoints
        | succ m => exact hleft m (Nat.lt_of_succ_lt_succ hm)

/-- What buying with fresh points comes to, from the abilities that the dice name. -/
private theorem exists_roll_eq (dice : Dice) :
    ∃ n ≤ maxDraws, let p := Purchase.start.raiseAll (dice.draws 6 n)
      roll dice = (p.scores, dice.afterDraws 6 n) ∧ p.Balanced ∧ (n < maxDraws → p.points = 0) ∧
        ∀ m < n, (Purchase.start.raiseAll (dice.draws 6 m)).points ≠ 0 := by
  obtain ⟨n, hn, hbuy, hspent, hleft⟩ := buy_eq maxDraws Purchase.start dice
  exact ⟨n, hn, by rw [roll, hbuy], Purchase.balanced_start.raiseAll _, hspent, hleft⟩

/-- Rolled scores are from eight to fifteen. -/
theorem bounds_of_mem_roll {dice : Dice} (h : score ∈ (roll dice).1.toList) :
    8 ≤ score.toNat ∧ score.toNat ≤ 15 := by
  obtain ⟨n, -, hroll, ⟨spent, hcosts, -⟩, -⟩ := exists_roll_eq dice
  rw [hroll] at h
  exact hcosts.bounds h

/-- Scores are bought with at most a thousand draws of abilities, whichever the dice name, and all
sequences of abilities can be named. After the last draw every score is from eight to fifteen, and
what the scores cost and the points that are left make twenty-seven. Points were left before each
draw, and none are left if there were fewer than a thousand draws. -/
theorem roll_within_budget :
    (∀ dice : Dice, ∃ n ≤ 1000,
      let p := Purchase.start.raiseAll (dice.draws 6 n)
      roll dice = (p.scores, dice.afterDraws 6 n) ∧ (∀ i ∈ dice.draws 6 n, i < 6) ∧
      (∀ score ∈ p.scores.toList, 8 ≤ score.toNat ∧ score.toNat ≤ 15) ∧
      (∃ spent, p.scores.Costs spent ∧ spent + p.points = 27) ∧
      (n < 1000 → p.points = 0) ∧
      ∀ m < n, (Purchase.start.raiseAll (dice.draws 6 m)).points ≠ 0) ∧
    ∀ stream : Nat → Fin 6, ∃ dice : Dice,
      dice.draws 6 1000 = (List.range 1000).map fun k => (stream k).val := by
  constructor
  · intro dice
    obtain ⟨n, hn, hroll, hbalanced, hspent, hleft⟩ := exists_roll_eq dice
    obtain ⟨spent, hcosts, htotal⟩ := hbalanced
    exact ⟨n, hn, hroll, fun i hi => Dice.lt_of_mem_draws (by decide) hi,
      fun score hscore => hcosts.bounds hscore, ⟨spent, hcosts, htotal⟩, hspent, hleft⟩
  · intro stream
    have hstream : ∀ i ∈ (List.range 1000).map fun k => (stream k).val, i < 6 := by
      intro i hi
      obtain ⟨k, -, rfl⟩ := List.mem_map.mp hi
      exact (stream k).isLt
    obtain ⟨dice, hdice⟩ := Dice.exists_draws_eq (by decide) hstream
    rw [List.length_map, List.length_range] at hdice
    exact ⟨dice, hdice⟩

/-- Dice that name strength alone leave points that buy nothing. -/
example : (buy maxDraws .start (.ofWords [0])).1 = ⟨⟨15, 8, 8, 8, 8, 8⟩, 18⟩ := by
  decide +kernel

end Tabletop.AbilityScores
