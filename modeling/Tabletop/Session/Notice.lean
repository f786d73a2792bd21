import Tabletop.Party.Roster

/-!
# Notices

What the players are told once and what no log keeps: fights that begin and end, quests won, members
who fall or rise, and the end of the game.
-/

namespace Tabletop

/-- Something the players are told once. -/
inductive Notice where
  | combatStarted
  | combatEnded
  | victory (quest : String)
  | downed (index : Nat) (name : String)
  | revived (index : Nat) (name : String)
  | gameOver (protagonist : String)
  deriving DecidableEq, Repr

namespace Notice

/-- The notice in words. -/
def describe : Notice → String
  | .combatStarted => "Combat has begun!"
  | .combatEnded => "Combat has ended."
  | .victory quest => "Mission complete: " ++ quest
  | .downed _ name => name ++ " has fallen!"
  | .revived _ name => name ++ " is back on their feet!"
  | .gameOver protagonist => "Game over. The tale of " ++ protagonist ++ " ends here."

/-- The notice ends the game. -/
def isGameOver : Notice → Bool
  | .gameOver _ => true
  | _ => false

/-- A member's hit points have crossed zero. -/
def crossing? (index : Nat) (before : Int) (c : Character) : Option Notice :=
  let now := c.currentHp.toInt
  if 0 < before ∧ now ≤ 0 then some (.downed index c.name)
  else if before ≤ 0 ∧ 0 < now then some (.revived index c.name)
  else none

/-- The crossings of members from a place on, in order. -/
def crossings : Nat → List Int → List Character → List Notice
  | index, before :: befores, c :: members =>
    (crossing? index before c).toList ++ crossings (index + 1) befores members
  | _, _, _ => []

/-- All hit points, of at least one member, are used up. -/
def allSpent (hp : List Int) : Bool := !hp.isEmpty && hp.all (· ≤ 0)

/-- Who the end of the game is told of. -/
def hero (r : Roster) : String := (r.protagonist?.map Character.name).getD "the party"

/-- What a change of the party's hit points amounts to. The game ends when nobody stands any more
who stood before. -/
def ofVitals (before : List Int) (r : Roster) : List Notice :=
  crossings 0 before r.members ++
    if r.allDown && !allSpent before then [.gameOver (hero r)] else []

end Notice

end Tabletop
