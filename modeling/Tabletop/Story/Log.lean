import Tabletop.Story.Invitation

/-!
# The story log

What has been said and what has happened, in order. Entries are only ever added; the one thing that
changes in place is the status of an invitation.
-/

namespace Tabletop

/-- Who an entry of the log comes from. -/
inductive Voice where
  | narrator
  | player
  | system
  | game
  deriving DecidableEq, Repr

/-- An entry of the log. -/
structure Event where
  voice : Voice
  text : String
  invitation : Option Invitation
  deriving DecidableEq, Repr

/-- The log, oldest entry first. -/
abbrev Log := List Event

/-- The name of a voice in documents. -/
def Voice.name : Voice → String
  | .narrator => "dm"
  | .player => "player"
  | .system => "system"
  | .game => "game-event"

namespace Event

/-- Something the narrator says. -/
def narrator (text : String) : Event := ⟨.narrator, text, none⟩

/-- Something the player says. -/
def player (text : String) : Event := ⟨.player, text, none⟩

/-- Something the game tells the player. -/
def system (text : String) : Event := ⟨.system, text, none⟩

/-- Something that happened by the rules. -/
def game (text : String) : Event := ⟨.game, text, none⟩

/-- The entry as a line of text. -/
def describe (e : Event) : String :=
  match e.voice with
  | .narrator => e.text
  | .player => "> " ++ e.text
  | .system => "-- " ++ e.text ++ " --"
  | .game => "* " ++ e.text

/-- The entry carries an invitation that is still open. -/
def hasOpenInvitation (e : Event) : Bool := e.invitation.any fun i => i.status.isOpen

/-- The entry with the status of its invitation changed. -/
def setStatus (e : Event) (status : InvitationStatus) : Event :=
  { e with invitation := e.invitation.map fun i => { i with status } }

end Event

namespace Log

/-- The place of the last entry whose invitation is still open. -/
def openInvitation? (log : Log) : Option Nat :=
  (log.reverse.findIdx? Event.hasOpenInvitation).map fun i => log.length - 1 - i

/-- The invitation of an entry. -/
def invitation? (log : Log) (index : Nat) : Option Invitation :=
  (log[index]?).bind Event.invitation

/-- The log with the status of one invitation changed, and whether there was one. -/
def setStatus (log : Log) (index : Nat) (status : InvitationStatus) : Log × Bool :=
  match log.invitation? index with
  | some _ => (log.modify index (Event.setStatus · status), true)
  | none => (log, false)

end Log

end Tabletop
