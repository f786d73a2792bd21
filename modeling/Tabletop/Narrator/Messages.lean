import Tabletop.Document.Reader
import Tabletop.Document.Record
import Tabletop.Narrator.Conversation
import Tabletop.Wire

/-!
# Messages

The service that the narrator's words come from: its requests, its replies, and what may go wrong.
A reply counts only if it holds a block of text.
-/

namespace Tabletop.Messages

/-- What may go wrong. -/
inductive Failure where
  | noKey
  | network (reason : String)
  | timeout
  | api (status : Nat) (body : String)
  | unreadable
  | noText
  | badKey
  deriving DecidableEq, Repr

/-- The name of a failure. -/
def Failure.kind : Failure → String
  | .noKey => "NoApiKey"
  | .network _ => "Network"
  | .timeout => "Timeout"
  | .api .. => "Api"
  | .unreadable | .noText => "Parse"
  | .badKey => "Config"

/-- The wording of a failure. -/
def Failure.message : Failure → String
  | .noKey => "API key not configured"
  | .network reason => "Network error: " ++ reason
  | .timeout => "Request timed out"
  | .api status body => "API error (status " ++ Text.ofNat status ++ "): " ++ body
  | .unreadable => "Failed to parse response: the document cannot be read"
  | .noText => "Failed to parse response: response contained no text"
  | .badKey => "Invalid configuration: Invalid API key: failed to parse header value"

/-! ## Requests -/

/-- The model that is asked when none is chosen. -/
def defaultModel : String := "claude-sonnet-4-20250514"

/-- The version of the service's rules. -/
def apiVersion : String := "2023-06-01"

/-- The most milliseconds a request may take. -/
def defaultTimeout : Nat := 120000

/-- Access to the service. -/
structure Client where
  key : String
  model : String
  /-- The path before the name of the service. -/
  base : String
  deriving DecidableEq, Repr

/-- A client with a key. -/
def Client.ofKey (key : String) : Client := ⟨key, defaultModel, "/v1"⟩

/-- A client with the key of the environment, if there is one. -/
def Client.ofKey? : Option String → Except Failure Client
  | some key => .ok (.ofKey key)
  | none => .error .noKey

/-- A client with another path; slashes at its end do not count. -/
def Client.withBase (c : Client) (base : String) : Client :=
  { c with base := String.ofList (Text.dropEnd (· == '/') base.toList) }

/-- A request for the next message. -/
structure Request where
  model : Option String
  maxTokens : Nat
  system : Option String
  messages : List Line
  /-- A number in single precision, by its bits. -/
  temperature : Option UInt32
  deriving DecidableEq, Repr

/-- The usual bound on the length of a message. -/
def defaultMaxTokens : Nat := 4096

/-- A request with nothing chosen but the conversation. -/
def Request.ofMessages (messages : List Line) : Request :=
  ⟨none, defaultMaxTokens, none, messages, none⟩

/-- The name of a speaker for the service. -/
def role : Speaker → String
  | .player => "user"
  | .narrator => "assistant"

/-- A message as a document. -/
def ofLine (l : Line) : Document :=
  .object [("role", .text (role l.speaker)), ("content", .text l.text)]

/-- A field that is left out when there is no value for it. -/
def optionalField {α : Type} (key : String) (f : α → Document) :
    Option α → List (String × Document)
  | some a => [(key, f a)]
  | none => []

/-- The body of a request. -/
def Request.toDocument (r : Request) (fallback : String) : Document :=
  .object
    ([("model", .text (r.model.getD fallback)), ("max_tokens", .nat r.maxTokens)] ++
      optionalField "system" .text r.system ++
      [("messages", .array (r.messages.map ofLine))] ++
      optionalField "temperature" (fun bits => .number (.single bits)) r.temperature)

/-- The request on the wire, unless the key cannot be sent. -/
def Client.post (c : Client) (r : Request) : Except Failure Post :=
  if Post.isHeaderText c.key then
    .ok (.json (c.base ++ "/messages") [("anthropic-version", apiVersion), ("x-api-key", c.key)]
      (r.toDocument c.model))
  else .error .badKey

/-! ## Replies -/

/-- Why a message ends. -/
inductive StopReason where
  | endTurn
  | maxTokens
  | stopSequence
  deriving DecidableEq, Repr

/-- The name of a reason. -/
def StopReason.name : StopReason → String
  | .endTurn => "end_turn"
  | .maxTokens => "max_tokens"
  | .stopSequence => "stop_sequence"

/-- The reason with a name; any other name, or none, ends a turn. -/
def StopReason.ofName : Option String → StopReason
  | some "max_tokens" => .maxTokens
  | some "stop_sequence" => .stopSequence
  | _ => .endTurn

/-- A message of the service. -/
structure Message where
  id : String
  model : String
  text : String
  stop : StopReason
  inputTokens : Nat
  outputTokens : Nat
  deriving DecidableEq, Repr

/-- How deep the parts of a block may be nested. -/
def blockDepth : Nat := Document.maxDepth - 2

/-- The text of a block, or nothing for a block of another kind. The kind stands under `type`, or
first when the block is written as an array. -/
def blockText? (d : Document) : Option (Option String) := do
  let _ ← d.settle? blockDepth
  match d with
  | .object fields =>
    let r ← d.keyed? ["type"]
    match ← r.required? "type" Document.text? with
    | "text" =>
      let r ← (Document.object fields).keyed? ["text"]
      return some (← r.required? "text" Document.text?)
    | _ => return none
  | .array [.text "text", .text s] => return some s
  | .array [.text kind] => if kind = "text" then none else return none
  | _ => none

/-- The counts of tokens. -/
def usage? (d : Document) : Option (Nat × Nat) := do
  let r ← d.record? ["input_tokens", "output_tokens"]
  return (← r.required? "input_tokens" Document.count?,
    ← r.required? "output_tokens" Document.count?)

/-- A reply as it is written. -/
structure RawMessage where
  id : String
  model : String
  blocks : List (Option String)
  stop : Option String
  usage : Nat × Nat
  deriving DecidableEq, Repr

/-- Reads a reply. -/
def rawMessage? (d : Document) : Option RawMessage := do
  let r ← d.record? ["id", "model", "content", "stop_reason", "usage"]
  return ⟨← r.required? "id" Document.text?, ← r.required? "model" Document.text?,
    ← r.required? "content" (Document.listOf? blockText?),
    ← r.withDefault? "stop_reason" none (Document.orNull? Document.text?),
    ← r.required? "usage" usage?⟩

/-- The message that a body holds: its blocks of text in one. -/
def readMessage (body : String) : Except Failure Message :=
  match (Document.parse? body).bind rawMessage? with
  | none => .error .unreadable
  | some raw =>
    match raw.blocks.filterMap id with
    | [] => .error .noText
    | texts =>
      .ok ⟨raw.id, raw.model, String.join texts, .ofName raw.stop, raw.usage.1, raw.usage.2⟩

/-- The message that a response brings. -/
def ofResponse : Response → Except Failure Message
  | .answered status body =>
    if Response.isSuccess status then readMessage body else .error (.api status body)
  | .dropped reason => .error (.network reason)
  | .overdue => .error .timeout

end Tabletop.Messages
