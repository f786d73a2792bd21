import Tabletop.Combat
import Tabletop.Narrator.Narration
import Tabletop.Save.Game
import Tabletop.Session.Settings

/-!
# Sessions

A game under way: the party, the log, the fight, what narrator and player have said, and whose turn
it is. A session over is one in which the whole party is down.
-/

namespace Tabletop

/-- Where a session stands between the player and the narrator. -/
inductive Phase where
  | awaitingInput
  /-- The narrator has been asked. -/
  | sending
  | gameOver
  deriving DecidableEq, Repr

/-- The name of a phase. -/
def Phase.name : Phase → String
  | .awaitingInput => "awaiting-input"
  | .sending => "sending"
  | .gameOver => "game-over"

/-- A game under way. -/
structure Session where
  settings : Settings
  roster : Roster
  log : Log
  combat : Combat
  history : Conversation
  /-- The member who acts. -/
  active : Nat
  phase : Phase
  dice : Dice
  deriving DecidableEq, Repr

/-- Why a session does not do something. -/
inductive SessionError where
  | narrator (e : NarratorError)
  | timeout (ms : Nat)
  | save (e : SaveError)
  | roster (e : RosterError)
  | recipe (e : RecipeError)
  | item (e : ItemError)
  | turnInProgress
  | gameOver
  | emptyInput
  | noParty
  | alreadyStarted
  | noInvitation (index : Nat)
  /-- A count has overflowed: nobody is told, since the program ends where it happens. -/
  | overflow
  deriving DecidableEq, Repr

/-- The name of a session error. -/
def SessionError.kind : SessionError → String
  | .narrator e => e.kind
  | .timeout _ => "Timeout"
  | .save e => e.kind
  | .roster e => e.kind
  | .recipe e => e.kind
  | .item e => e.kind
  | .turnInProgress => "TurnInProgress"
  | .gameOver => "GameOver"
  | .emptyInput => "EmptyInput"
  | .noParty => "NoParty"
  | .alreadyStarted => "AlreadyStarted"
  | .noInvitation _ => "NoInvitation"
  | .overflow => "Panic"

/-- The wording of a session error. -/
def SessionError.message : SessionError → String
  | .narrator e => "Narrator error: " ++ e.message
  | .timeout ms => "Narrator did not respond within " ++ Settings.describeTime ms
  | .save e => "Save error: " ++ e.message
  | .roster e => e.message
  | .recipe e => e.message
  | .item e => e.message
  | .turnInProgress => "A turn is already in progress"
  | .gameOver => "The game is over"
  | .emptyInput => "Input is empty"
  | .noParty => "The party is empty"
  | .alreadyStarted => "The adventure has already begun"
  | .noInvitation index => "No pending invitation at log entry " ++ Text.ofNat index
  | .overflow => "attempt to add with overflow"

namespace Session

/-- A session without a party. -/
def start (settings : Settings) (dice : Dice) : Session :=
  { settings, dice
    roster := .empty settings.partyCap
    log := []
    combat := .none
    history := []
    active := 0
    phase := .awaitingInput }

/-- The game is over. -/
def isOver (s : Session) : Bool := s.phase == .gameOver

/-- The member who acts. -/
def acting? (s : Session) : Option Character := s.roster.get? s.active

/-- A session in which turns can be taken. -/
def ensurePlayable (s : Session) : Except SessionError Unit :=
  if s.phase = .gameOver then .error .gameOver
  else if s.roster.isEmpty then .error .noParty
  else .ok ()

/-- The session with a new entry in its log. -/
def note (s : Session) (e : Event) : Session := { s with log := s.log ++ [e] }

/-! ## Party -/

/-- A session whose roster has been changed by an operation that may fail. -/
def withRoster {α : Type} (s : Session) (change : Except RosterError (α × Roster)) :
    Except SessionError (α × Session) :=
  match change with
  | .ok (a, roster) => .ok (a, { s with roster })
  | .error e => .error (.roster e)

/-- A session whose roster has been changed by an operation without a result. -/
def withRoster' (s : Session) (change : Except RosterError Roster) : Except SessionError Session :=
  match change with
  | .ok roster => .ok { s with roster }
  | .error e => .error (.roster e)

/-- A member put last in the party; the member's place. -/
def addMember (s : Session) (c : Character) : Except SessionError (Nat × Session) :=
  s.withRoster (s.roster.push c |>.map fun r => (r.size - 1, r))

/-- A member made from a recipe. -/
def createMember (s : Session) (r : Recipe) : Except SessionError (Nat × Session) :=
  match r.make with
  | .ok c => s.addMember c
  | .error e => .error (.recipe e)

/-- Who acts when a member has left a party. -/
def activeAfter (active index : Nat) (r : Roster) : Nat :=
  let active := if active = index then r.main else if index < active then active - 1 else active
  if r.size ≤ active then r.main else active

/-- A member taken out of the party. -/
def removeMember (s : Session) (index : Nat) : Except SessionError (Character × Session) :=
  (s.withRoster (s.roster.remove index)).map fun (c, t) =>
    (c, { t with active := activeAfter s.active index t.roster })

/-- Another member acts. -/
def setActive (s : Session) (index : Nat) : Except SessionError Session :=
  if s.roster.size ≤ index then .error (.roster (.noSuchMember index))
  else .ok { s with active := index }

/-- A member becomes the protagonist, moves to the front and acts. -/
def confirmProtagonist (s : Session) (index : Nat) : Except SessionError Session :=
  (s.withRoster' (s.roster.confirmProtagonist index)).map fun t => { t with active := 0 }

/-- The notes on a member. -/
def setNotes (s : Session) (index : Nat) (notes : String) : Except SessionError Session :=
  s.withRoster' (s.roster.modify index fun c => { c with notes })

/-- The coins of a member. -/
def setWallet (s : Session) (index : Nat) (wallet : Wallet) : Except SessionError Session :=
  s.withRoster' (s.roster.modify index fun c => { c with wallet })

/-- A slot filled or swapped from a member's inventory. -/
def equip (s : Session) (index item : Nat) (slot : Slot) : Except SessionError Session :=
  s.withRoster' (s.roster.equip index item slot)

/-- A slot of a member emptied into the inventory. -/
def unequip (s : Session) (index : Nat) (slot : Slot) : Except SessionError Session :=
  s.withRoster' (s.roster.unequip index slot)

/-- The name of a member, or nothing. -/
def nameOf (r : Roster) (index : Nat) : String := ((r.get? index).map Character.name).getD ""

/-- The log entry for an item given away. -/
def transferred (r : Roster) (item : Item) (giver taker : Nat) : Event :=
  .game (item.name ++ " was transferred from " ++ nameOf r giver ++ " to " ++ nameOf r taker ++ ".")

/-- An item given to another member, with an entry in the log. -/
def transferItem (s : Session) (giver : Nat) (place : ItemPlace) (taker : Nat) :
    Except SessionError Session :=
  (s.withRoster (s.roster.transfer giver place taker)).map fun (item, t) =>
    t.note (transferred t.roster item giver taker)

/-! ## Saved games -/

/-- The saved form of a session. -/
def saved (s : Session) : SavedGame := .ofParty s.roster s.log s.settings.campaign

/-- The phase of a session that is taken up with a party. -/
def phaseOf (r : Roster) : Phase := if r.allDown then .gameOver else .awaitingInput

/-- The session of a saved game; the fight is forgotten. -/
def restore (s : Session) (g : SavedGame) : Except SessionError Session :=
  match g.roster s.settings.partyCap with
  | .error e => .error (.save e)
  | .ok roster =>
    .ok { s with
      roster
      settings := { s.settings with campaign := g.campaign }
      log := g.log
      history := .ofLog g.log
      active := roster.main
      combat := .none
      phase := phaseOf roster }

/-- The session of a saved game's text. -/
def load (s : Session) (text : Except SaveError String) : Except SessionError Session :=
  match text.bind SavedGame.read with
  | .ok g => s.restore g
  | .error e => .error (.save e)

end Session

end Tabletop
