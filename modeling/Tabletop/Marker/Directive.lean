import Tabletop.Combat
import Tabletop.Story.Invitation

/-!
# Directives

What a marker in the narrator's text asks the game to do.
-/

namespace Tabletop

/-- The kinds of marker. -/
inductive Keyword where
  | reward
  | item
  | purchase
  | damage
  | ambiance
  | minimap
  | distance
  | combatEnd
  | quest
  | invite
  deriving DecidableEq, Repr

/-- A marker with its parameters. -/
inductive Directive where
  | reward (coins : Wallet)
  | item (name tag : String)
  | purchase (cost : Wallet) (tag : Option String) (items : List String)
  | damage (target : String) (amount : Int32)
  | ambiance (description : String)
  | minimap (combatants : List Combatant)
  | distance (meters : UInt32)
  | combatEnd
  | quest (name : String)
  | invite (invitation : Invitation)
  deriving DecidableEq, Repr

namespace Keyword

/-- Every kind. -/
def list : List Keyword :=
  [.reward, .item, .purchase, .damage, .ambiance, .minimap, .distance, .combatEnd, .quest, .invite]

/-- The word that a marker starts with. -/
def name : Keyword → String
  | .reward => "REWARD_CURRENCY"
  | .item => "ITEM"
  | .purchase => "TRANSACTION"
  | .damage => "DAMAGE"
  | .ambiance => "AMBIANCE"
  | .minimap => "MINIMAP"
  | .distance => "DISTANCE_INFO"
  | .combatEnd => "COMBAT_END"
  | .quest => "QUEST_COMPLETE"
  | .invite => "INVITE_CHARACTER"

/-- The word may be written in any case. -/
def anyCase : Keyword → Bool
  | .item | .ambiance => true
  | _ => false

/-- The kind with a name; two of them disregard ASCII case. -/
def ofName? (word : String) : Option Keyword :=
  list.find? fun k => if k.anyCase then k.name == Text.asciiUpper word else k.name == word

/-- How many texts the marker's pattern keeps. -/
def arity : Keyword → Nat
  | .reward => 3
  | .item => 2
  | .purchase => 6
  | .damage => 2
  | .ambiance => 1
  | .minimap => 1
  | .distance => 1
  | .combatEnd => 0
  | .quest => 1
  | .invite => 4

end Keyword

namespace Directive

/-- The kind of a directive. -/
def keyword : Directive → Keyword
  | .reward _ => .reward
  | .item .. => .item
  | .purchase .. => .purchase
  | .damage .. => .damage
  | .ambiance _ => .ambiance
  | .minimap _ => .minimap
  | .distance _ => .distance
  | .combatEnd => .combatEnd
  | .quest _ => .quest
  | .invite _ => .invite

/-- What takes the marker's place in the text that players read. -/
def replacement : Directive → String
  | .item name _ => name
  | _ => ""

/-- The marker puts the party into a fight. -/
def startsCombat : Directive → Bool
  | .minimap _ | .distance _ => true
  | _ => false

/-- The marker ends a fight. -/
def endsCombat : Directive → Bool
  | .combatEnd => true
  | _ => false

end Directive

end Tabletop
