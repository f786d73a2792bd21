import Tabletop.Party.Wallet

/-!
# What a wallet is worth

A value in copper is held in gold, silver and copper without loss while its gold can be counted,
and no other coins of that value are as few; from there on gold stays at the largest count. Whoever
pays keeps the difference in such coins.
-/

namespace Tabletop.Wallet

/-- The first value in copper whose gold cannot be counted. -/
def brim : Nat := UInt32.size * 100

/-- The number of coins, whatever they are worth. -/
def count (w : Wallet) : Nat := w.gold.toNat + w.silver.toNat + w.copper.toNat

/-- No ten coins could be changed for one: there are fewer of silver and of copper. -/
structure Consolidated (w : Wallet) : Prop where
  silver : w.silver.toNat < 10
  copper : w.copper.toNat < 10

/-- What is left of a wallet when a price is paid: the wallet less the price, with fewer than ten
coins of silver and of copper each, except that gold beyond its largest count is lost. -/
structure Pays (w price left : Wallet) : Prop where
  affordable : price.worth ≤ w.worth
  silver : left.silver.toNat < 10
  copper : left.copper.toNat < 10
  exact : w.worth - price.worth < brim → left.worth + price.worth = w.worth
  brimful : brim ≤ w.worth - price.worth → left.gold.toNat = maxCoins ∧
    left.worth + price.worth + ((w.worth - price.worth) / 100 - maxCoins) * 100 = w.worth

theorem toNat_coins (n : Nat) : (coins n).toNat = min n maxCoins :=
  UInt32.toNat_ofNat_of_lt' (Nat.lt_of_le_of_lt (Nat.min_le_right ..) (by decide))

/-- The coins of a value. -/
theorem toNat_ofCopper (total : Nat) :
    (ofCopper total).gold.toNat = min (total / 100) maxCoins ∧
      (ofCopper total).silver.toNat = total % 100 / 10 ∧
      (ofCopper total).copper.toNat = total % 10 := by
  have hmax : maxCoins = 4294967295 := rfl
  refine ⟨toNat_coins _, ?_, ?_⟩
  · rw [ofCopper, toNat_coins]
    omega
  · rw [ofCopper, toNat_coins]
    omega

theorem consolidated_ofCopper (total : Nat) : (ofCopper total).Consolidated := by
  obtain ⟨-, hsilver, hcopper⟩ := toNat_ofCopper total
  exact ⟨by omega, by omega⟩

/-- Nothing is lost of a value whose gold can be counted. -/
theorem worth_ofCopper {total : Nat} (h : total < brim) : (ofCopper total).worth = total := by
  obtain ⟨hgold, hsilver, hcopper⟩ := toNat_ofCopper total
  have hmax : maxCoins = 4294967295 := rfl
  have hbrim : brim = 429496729600 := rfl
  rw [worth, hgold, hsilver, hcopper]
  omega

/-- Gold beyond the largest count is lost. -/
theorem worth_ofCopper_add {total : Nat} (h : brim ≤ total) :
    (ofCopper total).gold.toNat = maxCoins ∧
      (ofCopper total).worth + (total / 100 - maxCoins) * 100 = total := by
  obtain ⟨hgold, hsilver, hcopper⟩ := toNat_ofCopper total
  have hmax : maxCoins = 4294967295 := rfl
  have hbrim : brim = 429496729600 := rfl
  rw [worth, hgold, hsilver, hcopper]
  omega

/-- A price is paid by whoever has its value. -/
theorem spend?_eq_some_iff {w price left : Wallet} :
    w.spend? price = some left ↔
      price.worth ≤ w.worth ∧ ofCopper (w.worth - price.worth) = left := by
  unfold spend?
  split
  · next h => simp [h]
  · next h => simp [h]

theorem isSome_spend?_iff {w price : Wallet} :
    (w.spend? price).isSome = true ↔ price.worth ≤ w.worth := by
  simp [Option.isSome_iff_exists, spend?_eq_some_iff]

/-- What is left when a price is paid. -/
theorem pays_of_spend? {w price left : Wallet} (h : w.spend? price = some left) :
    w.Pays price left := by
  obtain ⟨hle, rfl⟩ := spend?_eq_some_iff.mp h
  have hleft := consolidated_ofCopper (w.worth - price.worth)
  refine ⟨hle, hleft.silver, hleft.copper, fun hlt => ?_, fun hge => ?_⟩
  · rw [worth_ofCopper hlt]
    exact Nat.sub_add_cancel hle
  · obtain ⟨hgold, hlost⟩ := worth_ofCopper_add hge
    exact ⟨hgold, by omega⟩

/-! ## The fewest coins -/

variable {w other : Wallet}

/-- A coin that stands for ten lesser ones takes the place of nine more coins, silver once and gold
twice. -/
theorem count_add_spared (w : Wallet) :
    w.count + 9 * (w.gold.toNat * 10 + w.silver.toNat) + 9 * w.gold.toNat = w.worth := by
  rw [count, worth]
  omega

theorem tens_le (w : Wallet) : w.gold.toNat * 10 + w.silver.toNat ≤ w.worth / 10 := by
  rw [worth]
  omega

theorem hundreds_le (w : Wallet) : w.gold.toNat ≤ w.worth / 100 := by
  rw [worth]
  omega

/-- Consolidated coins are those that hold every ten and every hundred of their worth in silver and
gold. -/
theorem consolidated_iff :
    w.Consolidated ↔
      w.gold.toNat * 10 + w.silver.toNat = w.worth / 10 ∧ w.gold.toNat = w.worth / 100 := by
  rw [worth]
  constructor
  · rintro ⟨hsilver, hcopper⟩
    omega
  · rintro ⟨htens, hhundreds⟩
    exact ⟨by omega, by omega⟩

/-- No coins of the same worth are fewer than consolidated ones. -/
theorem Consolidated.count_le (h : w.Consolidated) (hworth : other.worth = w.worth) :
    w.count ≤ other.count := by
  obtain ⟨htens, hhundreds⟩ := consolidated_iff.mp h
  have htens' : other.gold.toNat * 10 + other.silver.toNat ≤ w.worth / 10 :=
    hworth ▸ other.tens_le
  have hhundreds' : other.gold.toNat ≤ w.worth / 100 := hworth ▸ other.hundreds_le
  have hspared := w.count_add_spared
  have hspared' := other.count_add_spared
  omega

/-- Coins as few as consolidated ones of the same worth are consolidated themselves. -/
theorem Consolidated.of_count_eq (h : w.Consolidated) (hworth : other.worth = w.worth)
    (hcount : other.count = w.count) : other.Consolidated := by
  obtain ⟨htens, hhundreds⟩ := consolidated_iff.mp h
  have htens' := other.tens_le
  have hhundreds' := other.hundreds_le
  have hspared := w.count_add_spared
  have hspared' := other.count_add_spared
  -- What the two spare is the same in all, and neither part can be more than it is in `w`.
  exact consolidated_iff.mpr ⟨by omega, by omega⟩

private theorem eq_of_toNat_eq (hgold : other.gold.toNat = w.gold.toNat)
    (hsilver : other.silver.toNat = w.silver.toNat)
    (hcopper : other.copper.toNat = w.copper.toNat) : other = w := by
  calc
    other = ⟨other.gold, other.silver, other.copper⟩ := rfl
    _ = ⟨w.gold, w.silver, w.copper⟩ := by
      rw [UInt32.toNat_inj.mp hgold, UInt32.toNat_inj.mp hsilver, UInt32.toNat_inj.mp hcopper]
    _ = w := rfl

/-- Coins counted out again from their worth are the same ones exactly if they are consolidated. -/
theorem ofCopper_worth_eq_iff : ofCopper w.worth = w ↔ w.Consolidated := by
  constructor
  · intro h
    rw [← h]
    exact consolidated_ofCopper w.worth
  · rintro ⟨hfewSilver, hfewCopper⟩
    obtain ⟨hgold, hsilver, hcopper⟩ := toNat_ofCopper w.worth
    have hworth : w.worth = w.gold.toNat * 100 + w.silver.toNat * 10 + w.copper.toNat := rfl
    have hmax : maxCoins = 4294967295 := rfl
    have hlt : w.gold.toNat < 4294967296 := w.gold.toNat_lt
    exact eq_of_toNat_eq (by omega) (by omega) (by omega)

/-- A value whose gold can be counted is held in full, and of all wallets of that worth this is the
only one with the fewest coins. -/
theorem fewest_coins_ofCopper {total : Nat} (h : total < brim) :
    (ofCopper total).worth = total ∧
      ∀ w : Wallet, w.worth = total →
        (ofCopper total).count ≤ w.count ∧
          (w.count = (ofCopper total).count → w = ofCopper total) := by
  have hfull : (ofCopper total).worth = total := worth_ofCopper h
  have hcons : (ofCopper total).Consolidated := consolidated_ofCopper total
  refine ⟨hfull, fun w hw => ?_⟩
  have hworth : w.worth = (ofCopper total).worth := hw.trans hfull.symm
  refine ⟨hcons.count_le hworth, fun hcount => ?_⟩
  have hsame : ofCopper w.worth = w := ofCopper_worth_eq_iff.mpr (hcons.of_count_eq hworth hcount)
  exact hsame.symm.trans (congrArg ofCopper hw)

/-- The largest value whose gold can be counted, against coins of which one gold coin has been
changed. -/
theorem fewest_coins_ofCopper_largest :
    let w : Wallet := ⟨4294967294, 10, 99⟩
    429496729599 < brim ∧ ofCopper 429496729599 = ⟨4294967295, 9, 9⟩ ∧
      (ofCopper 429496729599).worth = 429496729599 ∧
      w.worth = 429496729599 ∧ (ofCopper 429496729599).count ≤ w.count := by
  intro w
  have hlt : 429496729599 < brim := by decide
  have hw : w.worth = 429496729599 := by decide
  obtain ⟨hfull, hfewest⟩ := fewest_coins_ofCopper hlt
  exact ⟨hlt, by decide, hfull, hw, (hfewest w hw).1⟩

end Tabletop.Wallet
