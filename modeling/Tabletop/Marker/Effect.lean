import Tabletop.Marker.Directive
import Tabletop.Party.Roster
import Tabletop.Story.Log

/-!
# Effects

Directives applied to the party and the fight. Each changes at most one member; what cannot be
done, such as a purchase beyond the purse or damage to a stranger, is an effect of its own that
changes nobody.
-/

namespace Tabletop

/-- What became of one directive. -/
inductive Effect where
  | rewarded (character : Nat) (coins : Wallet)
  | acquired (character : Nat) (item : Item)
  | purchased (character : Nat) (items : List String) (cost : Wallet)
  | declined (character : Nat) (items : List String)
  | damaged (character : Nat) (target : String) (amount : Int32) (hp : Int)
  | targetMissing (target : String)
  | sceneRequested (description : String)
  | mapUpdated (combatants : Nat)
  | distanceUpdated (meters : UInt32)
  | combatEnded
  | questCompleted (quest : String)
  | invitationOffered (invitation : Invitation)
  | invitationDropped (name : String)
  | partyFull
  deriving DecidableEq, Repr

namespace Effect

/-- The system line for a scene on its way. -/
def sceneText : String := "The scene is being set..."

/-- The system line for an invitation that finds no room. -/
def partyFullText : String := "Your party is full."

/-- The entry that an effect adds to the log, if any. -/
def logEntry? : Effect → Option Event
  | .rewarded _ coins =>
    if coins.isEmpty then none else some (.game ("Received " ++ coins.describe ++ "."))
  | .acquired _ item => some (.game ("You acquired: " ++ item.name))
  | .purchased _ items cost =>
    some (.game ("Bought " ++ ", ".intercalate items ++ " for " ++ cost.describe ++ "."))
  | .declined _ items => some (.system ("You cannot afford " ++ ", ".intercalate items ++ "."))
  | .damaged _ target amount _ =>
    some (.game (target ++ " took " ++ Text.ofInt amount.toInt ++ " damage."))
  | .targetMissing target => some (.system ("No one named " ++ target ++ " is in the party."))
  | .sceneRequested _ => some (.system sceneText)
  | .partyFull => some (.system partyFullText)
  | _ => none

end Effect

/-- What directives act on. -/
structure Situation where
  roster : Roster
  combat : Combat
  /-- The member who acts; coins and items go there. -/
  acting : Nat
  /-- An invitation waits for its answer. -/
  invitationOpen : Bool
  deriving DecidableEq, Repr

namespace Situation

/-- The acting member changed, and what that amounts to; nothing when nobody acts. -/
def changeActing (s : Situation) (f : Character → Character) (effect : Effect) :
    Situation × Option Effect :=
  match s.roster.modify s.acting f with
  | .ok roster => ({ s with roster }, some effect)
  | .error _ => (s, none)

/-- The items of a purchase paid for and put into the inventory. -/
def buy (c : Character) (remaining : Wallet) (tag : Option String) (items : List String) :
    Character :=
  { c with wallet := remaining, inventory := c.inventory ++ items.map fun name => ⟨name, tag⟩ }

/-- A purchase: nothing without items or buyer, refused beyond the buyer's means. -/
def purchase (s : Situation) (cost : Wallet) (tag : Option String) (items : List String) :
    Situation × Option Effect :=
  if items.isEmpty then (s, none)
  else match s.roster.get? s.acting with
    | none => (s, none)
    | some c =>
      match c.wallet.spend? cost with
      | none => (s, some (.declined s.acting items))
      | some remaining =>
        s.changeActing (buy · remaining tag items) (.purchased s.acting items cost)

/-- Damage to the first member with the target's first name. -/
def damage (s : Situation) (target : String) (amount : Int32) : Situation × Option Effect :=
  match s.roster.findByFirstName? target with
  | none => (s, some (.targetMissing target))
  | some index =>
    let hurt := s.roster.update index fun c =>
      let c := c.takeDamage amount.toInt
      .ok (c.currentHp.toInt, c)
    match hurt with
    | .ok (hp, roster) => ({ s with roster }, some (.damaged index target amount hp))
    | .error _ => (s, none)

/-- An invitation: no room in a full party, and only one open at a time. -/
def invite (s : Situation) (invitation : Invitation) : Situation × Option Effect :=
  if s.roster.isFull then (s, some .partyFull)
  else if s.invitationOpen then (s, some (.invitationDropped invitation.name))
  else ({ s with invitationOpen := true }, some (.invitationOffered invitation))

/-- One directive applied. -/
def apply (s : Situation) : Directive → Situation × Option Effect
  | .reward coins =>
    s.changeActing (fun c => { c with wallet := c.wallet.deposit coins })
      (.rewarded s.acting coins)
  | .item name tag =>
    let item := Item.tagged name tag
    s.changeActing (fun c => c.gain item) (.acquired s.acting item)
  | .purchase cost tag items => s.purchase cost tag items
  | .damage target amount => s.damage target amount
  | .ambiance description => (s, some (.sceneRequested description))
  | .minimap combatants =>
    ({ s with combat := (s.combat.setGrid combatants).1 }, some (.mapUpdated combatants.length))
  | .distance meters =>
    ({ s with combat := (s.combat.setDistance meters).1 }, some (.distanceUpdated meters))
  | .combatEnd => ({ s with combat := s.combat.finish.1 }, some .combatEnded)
  | .quest name => (s, some (.questCompleted name))
  | .invite invitation => s.invite invitation

/-- Directives applied in order, with the effects of those that have one. -/
def applyAll (s : Situation) : List Directive → Situation × List Effect
  | [] => (s, [])
  | d :: ds =>
    let (s, effect) := s.apply d
    let (s, effects) := applyAll s ds
    (s, effect.toList ++ effects)

end Situation

end Tabletop
