import Tabletop.Text.Basic

/-!
# Wallets

Three denominations of coins, kept apart until something is paid. Paying goes through the value in
copper and leaves the remainder in the fewest coins.
-/

namespace Tabletop

/-- Coins in gold, silver and copper. -/
structure Wallet where
  gold : UInt32
  silver : UInt32
  copper : UInt32
  deriving DecidableEq, Repr, Inhabited

namespace Wallet

/-- No coins. -/
def empty : Wallet := ⟨0, 0, 0⟩

/-- The largest count a denomination holds. -/
def maxCoins : Nat := UInt32.size - 1

/-- A count of coins, the largest one if it is too large. -/
def coins (n : Nat) : UInt32 := UInt32.ofNat (min n maxCoins)

/-- The value in copper: a hundred to the gold coin, ten to the silver one. -/
def worth (w : Wallet) : Nat := w.gold.toNat * 100 + w.silver.toNat * 10 + w.copper.toNat

/-- The fewest coins of a value in copper, up to the largest count of gold. -/
def ofCopper (total : Nat) : Wallet :=
  ⟨coins (total / 100), coins (total % 100 / 10), coins (total % 10)⟩

/-- Coins added denomination by denomination, each up to the largest count. -/
def deposit (w other : Wallet) : Wallet :=
  ⟨coins (w.gold.toNat + other.gold.toNat), coins (w.silver.toNat + other.silver.toNat),
    coins (w.copper.toNat + other.copper.toNat)⟩

/-- What is left after paying a price; nothing when the wallet is worth less. -/
def spend? (w price : Wallet) : Option Wallet :=
  if price.worth ≤ w.worth then some (ofCopper (w.worth - price.worth)) else none

/-- No coin of any denomination. -/
def isEmpty (w : Wallet) : Bool := w.gold == 0 && w.silver == 0 && w.copper == 0

/-- The number of coins of one denomination with its mark, left out when there are none. -/
def part (n : UInt32) (mark : String) : List String :=
  if n == 0 then [] else [Text.ofNat n.toNat ++ " " ++ mark]

/-- The coins in words, gold first; an empty wallet shows no copper. -/
def describe (w : Wallet) : String :=
  match part w.gold "GP" ++ part w.silver "SP" ++ part w.copper "CP" with
  | [] => "0 CP"
  | parts => ", ".intercalate parts

end Wallet

end Tabletop
