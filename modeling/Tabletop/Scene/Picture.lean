import Tabletop.Document.Reader
import Tabletop.Document.Record
import Tabletop.Wire

/-!
# Pictures

The service that paints scenes: its requests, its replies, and what may go wrong.
-/

namespace Tabletop.Picture

/-- Why there is no picture. -/
inductive Failure where
  | network (reason : String)
  | api (status : Nat) (body : String)
  | unreadable
  | noImage
  | unavailable (reason : String)
  deriving DecidableEq, Repr

/-- The name of a failure. -/
def Failure.kind : Failure → String
  | .network _ => "Network"
  | .api .. => "Api"
  | .unreadable => "Parse"
  | .noImage => "NoImage"
  | .unavailable _ => "Unavailable"

/-- The wording of a failure. -/
def Failure.message : Failure → String
  | .network reason => "Network error: " ++ reason
  | .api status body => "Image API error (status " ++ Text.ofNat status ++ "): " ++ body
  | .unreadable => "Failed to parse image response: the document cannot be read"
  | .noImage => "Image response contained no image"
  | .unavailable reason => "Scene imager unavailable: " ++ reason

/-- What the painter is told about a scene. -/
def prompt (description : String) : String :=
  "Stunning, atmospheric, high-quality fantasy digital painting of a location. Scene: " ++
    description ++
    ". Style: Dramatic lighting, epic fantasy art, detailed, sense of scale and mood. " ++
    "Important: No text, no watermarks, no user interface elements, no characters unless " ++
    "specified in the scene description."

/-- Access to the service. -/
structure Painter where
  path : String
  key : Option String
  model : String
  size : String
  deriving DecidableEq, Repr

/-- A painter without a key. -/
def Painter.at (path : String) : Painter := ⟨path, none, "dall-e-3", "1792x1024"⟩

/-- The request for a picture. -/
def Painter.toDocument (p : Painter) (description : String) : Document :=
  .object [("model", .text p.model), ("prompt", .text (prompt description)), ("n", .nat 1),
    ("size", .text p.size), ("response_format", .text "b64_json")]

/-- The header that carries the key, if there is one. -/
def Painter.authorization? (p : Painter) : Option String := p.key.map ("Bearer " ++ ·)

/-- The request on the wire, unless the key cannot be sent. -/
def Painter.post (p : Painter) (description : String) : Except Failure Post :=
  match p.authorization? with
  | none => .ok (.json p.path [] (p.toDocument description))
  | some value =>
    if Post.isHeaderText value then
      .ok (.json p.path [("authorization", value)] (p.toDocument description))
    else .error (.network "builder error")

/-- A text that may be null; it may be missing where fields have names. -/
def textField? (d : Document) (r : Document.Record) (key : String) : Option (Option String) :=
  if d.isObject then r.withDefault? key none (Document.orNull? Document.text?)
  else r.required? key (Document.orNull? Document.text?)

/-- One picture of a reply: its data and its address. -/
def item? (d : Document) : Option (Option String × Option String) := do
  let r ← d.record? ["b64_json", "url"]
  return (← textField? d r "b64_json", ← textField? d r "url")

/-- The pictures of a reply. -/
def items? (d : Document) : Option (List (Option String × Option String)) := do
  let r ← d.record? ["data"]
  r.withDefault? "data" [] (Document.listOf? item?)

/-- The reference to a picture: its data if there is any, else its address. -/
def reference? : Option String × Option String → Option String
  | (data, address) =>
    match data.filter (· ≠ "") with
    | some data => some ("data:image/png;base64," ++ data)
    | none => address.filter (· ≠ "")

/-- The reference to the first picture that a body holds. -/
def readReference (body : String) : Except Failure String :=
  match (Document.parse? body).bind items? with
  | none => .error .unreadable
  | some items =>
    match items.head?.bind reference? with
    | some reference => .ok reference
    | none => .error .noImage

/-- The reference to the picture that a response brings. -/
def ofResponse : Response → Except Failure String
  | .answered status body =>
    if Response.isSuccess status then readReference body else .error (.api status body)
  | .dropped reason => .error (.network reason)
  | .overdue => .error (.network "operation timed out")

end Tabletop.Picture
