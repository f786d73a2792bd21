import Tabletop.Scene.Picture
import Tabletop.Table

/-!
# Hosts

The world that a console is in: a page to print on, the services on the wire, and files.
-/

namespace Tabletop

/-- The world that a console is in. -/
structure Host (m : Type → Type) where
  print : String → m Unit
  /-- The narrator's response to a request, and the milliseconds until then. -/
  askNarrator : Post → m (Nat × Response)
  /-- The painter's response to a request, and the milliseconds until then. -/
  askPainter : Post → m (Nat × Response)
  /-- The text of a file, or why it cannot be read. -/
  readFile : String → m (Except String String)
  /-- Puts a text into a file, or says why it cannot. -/
  writeFile : String → String → m (Except String Unit)
  /-- The names in a folder, and the texts of those that are text files. -/
  listFolder : String → m (Except String (List (String × Option String)))
  /-- A mark of the time for the names of files. -/
  stamp : m String

/-- Access to the services. -/
structure Access where
  client : Messages.Client
  painter : Option Picture.Painter
  deriving DecidableEq, Repr

namespace Access

/-- The painter that an environment gives access to. -/
def painterOf (environment : String → Option String) : Option Picture.Painter :=
  (environment "TAVERN_IMAGE_ENDPOINT").map fun path =>
    { Picture.Painter.at path with key := environment "TAVERN_IMAGE_API_KEY" }

/-- What an environment gives access to; there must be a narrator. -/
def ofEnvironment (environment : String → Option String) : Except NarratorError Access :=
  match environment "ANTHROPIC_API_KEY" with
  | some key => .ok ⟨.ofKey key, painterOf environment⟩
  | none => .error .noKey

/-- The services of a session with this access: calls are counted and nothing is read aloud. -/
def services (a : Access) : Services := ⟨a.painter.isSome, true, false⟩

variable {m : Type → Type} [Monad m]

/-- The narrator asked over the wire. -/
def narrate (a : Access) (host : Host m) (settings : NarratorSettings) (n : Narration) :
    m (Option (Nat × Except NarratorError String)) := do
  match a.client.post (settings.request n) with
  | .error e => return some (0, .error (.service e))
  | .ok post =>
    let (delay, response) ← host.askNarrator post
    return some (delay, Narration.ofResponse response)

/-- The painter asked over the wire. -/
def paint (a : Access) (host : Host m) (description : String) : m (Nat × Option String) := do
  match a.painter.map (Picture.Painter.post · description) with
  | some (.ok post) =>
    let (delay, response) ← host.askPainter post
    return (delay, (Picture.ofResponse response).toOption)
  | _ => return (0, none)

/-- Narrator and painter behind the wire. -/
def cast (a : Access) (host : Host m) (settings : NarratorSettings) : Cast m :=
  ⟨a.narrate host settings, a.paint host⟩

end Access

end Tabletop
