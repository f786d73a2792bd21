import Tabletop.Party.Ability
import Tabletop.Party.Item
import Tabletop.Party.Wallet

/-!
# Characters

A member of the party: vitals, coins, inventory and two pieces of equipment. Every change of hit
points goes through `setHp`, which keeps them between zero and the maximum and derives the status
from them.
-/

namespace Tabletop

/-- Whether a character stands. -/
inductive Status where
  | alive
  | downed
  deriving DecidableEq, Repr

/-- The status that belongs to a count of hit points. -/
def Status.ofHp (hp : Int) : Status := if hp ≤ 0 then .downed else .alive

/-- A party member. -/
structure Character where
  name : String
  race : String
  calling : String
  gender : String
  background : String
  alignment : String
  stats : AbilityScores
  maxHp : Int32
  currentHp : Int32
  armorClass : Int32
  status : Status
  wallet : Wallet
  inventory : List Item
  weapon : Option Item
  armor : Option Item
  regenCounter : UInt32
  notes : String
  deriving DecidableEq, Repr

/-- Why something could not be done with a character's items. -/
inductive ItemError where
  | noSuchItem (index held : Nat)
  | emptySlot (slot : Slot)
  deriving DecidableEq, Repr

/-- The name of an item error. -/
def ItemError.kind : ItemError → String
  | .noSuchItem .. => "NoSuchItem"
  | .emptySlot _ => "EmptySlot"

/-- The wording of an item error. -/
def ItemError.message : ItemError → String
  | .noSuchItem index held =>
    "No inventory item at index " ++ Text.ofNat index ++ " (inventory holds " ++
      Text.ofNat held ++ ")"
  | .emptySlot slot => "Nothing equipped in the " ++ slot.name ++ " slot"

/-- What one turn of rest does. -/
inductive Regeneration where
  | ineligible
  | counting (counter : UInt32)
  | healed
  deriving DecidableEq, Repr

namespace Character

/-- The armor class of someone without armor or agility. -/
def defaultArmorClass : Int32 := 10

/-- A bare character in full health with empty pockets; at least one hit point. -/
def bare (name race calling : String) (maxHp : Int) : Character :=
  let maxHp := Int32.ofInt (max 1 maxHp)
  { name, race, calling, maxHp
    gender := "", background := "", alignment := "", notes := ""
    stats := .average
    currentHp := maxHp
    armorClass := defaultArmorClass
    status := .alive
    wallet := .empty
    inventory := []
    weapon := none
    armor := none
    regenCounter := 0 }

/-- The first word of the name. -/
def firstName (c : Character) : String := (Text.words c.name).headD ""

/-- No hit points are left. -/
def isDown (c : Character) : Bool := c.currentHp.toInt ≤ 0

/-- The modifier of the strength score. -/
def strengthModifier (c : Character) : Int := AbilityScores.modifier c.stats.strength

/-! ## Vitals -/

/-- Hit points as given, kept between zero and the maximum; the status follows. -/
def setHp (c : Character) (hp : Int) : Character :=
  let hp := max 0 (min hp c.maxHp.toInt)
  { c with currentHp := Int32.ofInt hp, status := Status.ofHp hp }

/-- Hit points lowered by damage; a negative amount does nothing. -/
def takeDamage (c : Character) (amount : Int) : Character :=
  c.setHp (c.currentHp.toInt - max 0 amount)

/-- Hit points raised by healing; a negative amount does nothing. -/
def heal (c : Character) (amount : Int) : Character :=
  c.setHp (c.currentHp.toInt + max 0 amount)

/-- Vitals brought back into range, as after reading them from a document. -/
def normalize (c : Character) : Character :=
  let c := { c with maxHp := Int32.ofInt (max 1 c.maxHp.toInt) }
  c.setHp c.currentHp.toInt

/-- Strong, standing and hurt: rest will heal. -/
def canRegenerate (c : Character) : Bool :=
  1 ≤ c.strengthModifier && !c.isDown && c.currentHp.toInt < c.maxHp.toInt

/-- The count of turns of rest with one more, unless it overflows. -/
def nextCounter? (c : Character) : Option UInt32 :=
  if c.regenCounter.toNat + 1 < UInt32.size then some (c.regenCounter + 1) else none

/-- One turn of rest: every `threshold` turns a character who can regenerate gains a hit point.
Nothing comes of it when the count of turns overflows. -/
def regenerate? (c : Character) (threshold : UInt32) : Option (Character × Regeneration) :=
  if c.canRegenerate then
    c.nextCounter?.map fun counter =>
      if threshold ≤ counter then (({ c with regenCounter := 0 }).heal 1, .healed)
      else ({ c with regenCounter := counter }, .counting counter)
  else some (c, .ineligible)

/-! ## Items -/

/-- What a slot holds. -/
def equipped (c : Character) : Slot → Option Item
  | .weapon => c.weapon
  | .armor => c.armor

/-- A slot with new content. -/
def setSlot (c : Character) (item : Option Item) : Slot → Character
  | .weapon => { c with weapon := item }
  | .armor => { c with armor := item }

/-- An item put last in the inventory. -/
def gain (c : Character) (item : Item) : Character :=
  { c with inventory := c.inventory ++ [item] }

/-- An item moved from the inventory to a slot; what the slot held goes last in the inventory. -/
def equip (c : Character) (index : Nat) (slot : Slot) : Except ItemError Character :=
  match c.inventory[index]? with
  | none => .error (.noSuchItem index c.inventory.length)
  | some item =>
    let returned := (c.equipped slot).toList
    .ok ({ c with inventory := c.inventory.eraseIdx index ++ returned }.setSlot (some item) slot)

/-- The content of a slot moved last in the inventory. -/
def unequip (c : Character) (slot : Slot) : Except ItemError Character :=
  match c.equipped slot with
  | none => .error (.emptySlot slot)
  | some item => .ok ((c.setSlot none slot).gain item)

/-- An item taken away from the inventory or a slot. -/
def takeItem (c : Character) : ItemPlace → Except ItemError (Item × Character)
  | .inventory index =>
    match c.inventory[index]? with
    | none => .error (.noSuchItem index c.inventory.length)
    | some item => .ok (item, { c with inventory := c.inventory.eraseIdx index })
  | .equipped slot =>
    match c.equipped slot with
    | none => .error (.emptySlot slot)
    | some item => .ok (item, c.setSlot none slot)

end Character

end Tabletop
