import Tabletop.Narrator.Messages

/-!
# Narration

What the narrator is asked and what it answers.
-/

namespace Tabletop

/-- What the narrator is asked: how the game stands, what has been said, and what is said now. -/
structure Narration where
  system : String
  history : Conversation
  input : String
  deriving DecidableEq, Repr

/-- Why the narrator does not answer. -/
inductive NarratorError where
  | service (e : Messages.Failure)
  | noKey
  | empty
  | unavailable (reason : String)
  deriving DecidableEq, Repr

/-- The name of a narrator error. -/
def NarratorError.kind : NarratorError → String
  | .service e => e.kind
  | .noKey => "NoApiKey"
  | .empty => "Empty"
  | .unavailable _ => "Unavailable"

/-- The wording of a narrator error. -/
def NarratorError.message : NarratorError → String
  | .service e => "Claude API error: " ++ e.message
  | .noKey => "No API key configured"
  | .empty => "Narrator returned an empty response"
  | .unavailable reason => "Narrator unavailable: " ++ reason

/-- How the narrator's words are made. -/
structure NarratorSettings where
  model : Option String
  maxTokens : Nat
  /-- A number in single precision, by its bits. -/
  temperature : Option UInt32
  deriving DecidableEq, Repr

namespace NarratorSettings

/-- The bits of 0.8 in single precision. -/
def defaultTemperature : UInt32 := 0x3F4CCCCD

/-- The usual settings. -/
def usual : NarratorSettings := ⟨none, 2048, some defaultTemperature⟩

/-- The request that asks the service to narrate. -/
def request (s : NarratorSettings) (n : Narration) : Messages.Request :=
  { Messages.Request.ofMessages (Conversation.turns n.history n.input) with
    model := s.model
    maxTokens := s.maxTokens
    system := some n.system
    temperature := s.temperature }

end NarratorSettings

/-- The narrator's text in a message; a blank one is none. -/
def Narration.ofMessage (m : Except Messages.Failure Messages.Message) :
    Except NarratorError String :=
  match m with
  | .error e => .error (.service e)
  | .ok m => if Text.isAllBlank m.text then .error .empty else .ok m.text

/-- The narrator's text in a response of the service. -/
def Narration.ofResponse (r : Response) : Except NarratorError String :=
  Narration.ofMessage (Messages.ofResponse r)

end Tabletop
