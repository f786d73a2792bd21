import Tabletop.Story.Log

/-!
# Conversations

What player and narrator have said to each other. For the narrator it is put in a form in which the
player speaks first and the two take turns.
-/

namespace Tabletop

/-- Who speaks. -/
inductive Speaker where
  | player
  | narrator
  deriving DecidableEq, Repr

/-- Something said. -/
structure Line where
  speaker : Speaker
  text : String
  deriving DecidableEq, Repr

/-- What has been said, in order. -/
abbrev Conversation := List Line

namespace Line

/-- Something the player says. -/
def player (text : String) : Line := ⟨.player, text⟩

/-- Something the narrator says. -/
def narrator (text : String) : Line := ⟨.narrator, text⟩

/-- The line of a log entry; the narrator's empty ones and what the game adds are none. -/
def ofEvent? (e : Event) : Option Line :=
  match e.voice with
  | .player => some (.player e.text)
  | .narrator => if e.text.isEmpty then none else some (.narrator e.text)
  | _ => none

end Line

namespace Conversation

/-- What the player says to open an adventure. -/
def opening : String := "Begin the adventure."

/-- The conversation that a log records. -/
def ofLog (log : Log) : Conversation := log.filterMap Line.ofEvent?

/-- Lines in a row by one speaker joined to one, with a blank line between. -/
def merge : Conversation → Conversation
  | [] => []
  | l :: ls =>
    match merge ls with
    | [] => [l]
    | m :: ms =>
      if l.speaker = m.speaker then ⟨l.speaker, l.text ++ "\n\n" ++ m.text⟩ :: ms
      else l :: m :: ms

/-- The opening line put before a conversation that the narrator starts. -/
def openedByPlayer : Conversation → Conversation
  | l :: ls => if l.speaker = .narrator then .player opening :: l :: ls else l :: ls
  | [] => []

/-- The conversation with a new line of the player, in turns and opened by the player. -/
def turns (history : Conversation) (input : String) : Conversation :=
  openedByPlayer (merge (history ++ [.player input]))

end Conversation

end Tabletop
