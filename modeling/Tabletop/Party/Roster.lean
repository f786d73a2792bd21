import Tabletop.Party.Character

/-!
# Rosters

The members of a party in order, with the place of the protagonist and a cap on their number.
-/

namespace Tabletop

/-- A party. -/
structure Roster where
  members : List Character
  /-- The place of the protagonist. -/
  main : Nat
  /-- The most members it may have. -/
  cap : Nat
  deriving DecidableEq, Repr

/-- Why something could not be done with a roster. -/
inductive RosterError where
  | full (cap : Nat)
  | noSuchMember (index : Nat)
  | sameMember
  | item (e : ItemError)
  deriving DecidableEq, Repr

/-- The name of a roster error. -/
def RosterError.kind : RosterError → String
  | .full _ => "Full"
  | .noSuchMember _ => "NoSuchMember"
  | .sameMember => "SameMember"
  | .item e => e.kind

/-- The wording of a roster error. -/
def RosterError.message : RosterError → String
  | .full cap => "The party is full (" ++ Text.ofNat cap ++ " members)"
  | .noSuchMember index => "No party member at index " ++ Text.ofNat index
  | .sameMember => "Cannot transfer an item to the same party member"
  | .item e => e.message

namespace Roster

/-- The usual cap. -/
def defaultCap : Nat := 5

/-- A party without members; the cap is at least one. -/
def empty (cap : Nat) : Roster := ⟨[], 0, max 1 cap⟩

/-- A party of given members. -/
def ofMembers (members : List Character) (main cap : Nat) : Except RosterError Roster :=
  let cap := max 1 cap
  if cap < members.length then .error (.full cap)
  else if !members.isEmpty && members.length ≤ main then .error (.noSuchMember main)
  else .ok ⟨members, main, cap⟩

/-- The number of members. -/
def size (r : Roster) : Nat := r.members.length

/-- No members. -/
def isEmpty (r : Roster) : Bool := r.members.isEmpty

/-- No room for another member. -/
def isFull (r : Roster) : Bool := r.cap ≤ r.size

/-- The member at a place. -/
def get? (r : Roster) (index : Nat) : Option Character := r.members[index]?

/-- The member at the protagonist's place. -/
def protagonist? (r : Roster) : Option Character := r.get? r.main

/-- A member put last. -/
def push (r : Roster) (c : Character) : Except RosterError Roster :=
  if r.isFull then .error (.full r.cap) else .ok { r with members := r.members ++ [c] }

/-- A member taken out. The protagonist stays the same member where possible. -/
def remove (r : Roster) (index : Nat) : Except RosterError (Character × Roster) :=
  match r.get? index with
  | none => .error (.noSuchMember index)
  | some c =>
    let members := r.members.eraseIdx index
    let main := if index < r.main ∨ members.length ≤ r.main then r.main - 1 else r.main
    .ok (c, { r with members, main })

/-- A member with a new version in its place. -/
def replace (r : Roster) (index : Nat) (c : Character) : Except RosterError (Character × Roster) :=
  match r.get? index with
  | none => .error (.noSuchMember index)
  | some old => .ok (old, { r with members := r.members.set index c })

/-- A member changed by an operation that may fail; a failure changes nothing. -/
def update {α : Type} (r : Roster) (index : Nat)
    (f : Character → Except RosterError (α × Character)) : Except RosterError (α × Roster) := do
  match r.get? index with
  | none => .error (.noSuchMember index)
  | some c =>
    let (result, c) ← f c
    return (result, { r with members := r.members.set index c })

/-- A member changed by an operation that cannot fail. -/
def modify (r : Roster) (index : Nat) (f : Character → Character) : Except RosterError Roster :=
  match r.get? index with
  | none => .error (.noSuchMember index)
  | some c => .ok { r with members := r.members.set index (f c) }

/-- A member moved to the front as the protagonist. -/
def confirmProtagonist (r : Roster) (index : Nat) : Except RosterError Roster :=
  match r.get? index with
  | none => .error (.noSuchMember index)
  | some c => .ok { r with members := c :: r.members.eraseIdx index, main := 0 }

/-- The first member with a first name, without regard to case. -/
def findByFirstName? (r : Roster) (name : String) : Option Nat :=
  let name := Text.lower (Text.trim name)
  r.members.findIdx? fun c => Text.lower c.firstName == name

/-- There are members, and none of them stands. -/
def allDown (r : Roster) : Bool := !r.isEmpty && r.members.all Character.isDown

/-- The hit points of each member. -/
def hpList (r : Roster) : List Int := r.members.map fun c => c.currentHp.toInt

/-- A slot filled or swapped from a member's inventory. -/
def equip (r : Roster) (index item : Nat) (slot : Slot) : Except RosterError Roster := do
  let (_, r) ← r.update index fun c => do
    return ((), ← (c.equip item slot).mapError .item)
  return r

/-- A slot of a member emptied into the inventory. -/
def unequip (r : Roster) (index : Nat) (slot : Slot) : Except RosterError Roster := do
  let (_, r) ← r.update index fun c => do
    return ((), ← (c.unequip slot).mapError .item)
  return r

/-- An item moved from one member to the end of another's inventory. -/
def transfer (r : Roster) (giver : Nat) (place : ItemPlace) (taker : Nat) :
    Except RosterError (Item × Roster) := do
  if giver = taker then throw .sameMember
  if r.size ≤ taker then throw (.noSuchMember taker)
  let (item, r) ← r.update giver fun c => (c.takeItem place).mapError .item
  let r ← r.modify taker fun c => c.gain item
  return (item, r)

end Roster

end Tabletop
