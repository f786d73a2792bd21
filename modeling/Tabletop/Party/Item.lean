import Tabletop.Dice.Basic
import Tabletop.Text.Basic

/-!
# Items

What members carry: named things, some with a tag, and what healing they give when used.
-/

namespace Tabletop

/-- A thing a member carries. -/
structure Item where
  name : String
  tag : Option String
  deriving DecidableEq, Repr

/-- The two places for equipment. -/
inductive Slot where
  | weapon
  | armor
  deriving DecidableEq, Repr

/-- Where an item is taken from. -/
inductive ItemPlace where
  | inventory (index : Nat)
  | equipped (slot : Slot)
  deriving DecidableEq, Repr

namespace Item

/-- An item without a tag. -/
def plain (name : String) : Item := ⟨name, none⟩

/-- An item with a tag. -/
def tagged (name tag : String) : Item := ⟨name, some tag⟩

/-- The name, with the tag in brackets if there is one. -/
def describe (item : Item) : String :=
  match item.tag with
  | some tag => item.name ++ " [" ++ tag ++ "]"
  | none => item.name

/-- How an item heals: by a number of four-sided dice and as much again, or by a fixed amount. -/
inductive Healing where
  | dice (count : Nat)
  | fixed (amount : Nat)
  deriving DecidableEq, Repr

/-- The healing that the name of an item promises; the first rule that fits counts. -/
def healing? (item : Item) : Option Healing :=
  let name := Text.lower item.name
  if Text.contains name "potion of greater healing" then some (.dice 4)
  else if Text.contains name "potion of healing" then some (.dice 2)
  else if Text.contains name "medical kit" || Text.contains name "healer's kit" then
    some (.fixed 10)
  else none

/-- The healing an item gives when used; nothing for an item that does not heal. -/
def rollHealing (item : Item) (dice : Dice) : Nat × Dice :=
  match item.healing? with
  | some (.dice count) =>
    let (sum, dice) := dice.sumD4 count
    (sum + count, dice)
  | some (.fixed amount) => (amount, dice)
  | none => (0, dice)

end Item

/-- The name of a slot. -/
def Slot.name : Slot → String
  | .weapon => "weapon"
  | .armor => "armor"

end Tabletop
