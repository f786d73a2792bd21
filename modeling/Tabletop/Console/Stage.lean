import Tabletop.Console.Program
import Tabletop.Save.Folder

/-!
# Stages

A world for a console that follows a script: the services respond as they are told, the files are
those of a folder in memory, and all that is printed and asked is kept.
-/

namespace Tabletop

/-- A scripted world. -/
structure Stage where
  /-- The narrator's responses still to come. -/
  replies : List Response
  /-- The painter's responses still to come. -/
  pictures : List Response
  folder : Folder
  /-- What the narrator has been asked. -/
  asked : List Post
  /-- What the painter has been asked. -/
  painted : List Post
  printed : List String
  /-- How often the time has been asked for. -/
  stamps : Nat

namespace Stage

/-- A world before anything has happened. -/
def start (replies pictures : List Response) (folder : Folder) : Stage :=
  ⟨replies, pictures, folder, [], [], [], 0⟩

/-- The narrator's response with a single block of text. -/
def said (text : String) : Response :=
  let block := Document.object [("type", .text "text"), ("text", .text text)]
  let tokens := Document.object [("input_tokens", .nat 0), ("output_tokens", .nat 0)]
  .answered 200 (Document.object [("id", .text ""), ("model", .text ""),
    ("content", .array [block]), ("usage", tokens)]).compact

/-- The milliseconds until a response of a service that takes its time. -/
def delay (usual : Nat) : Response → Nat
  | .overdue => Messages.defaultTimeout
  | _ => usual

/-- The milliseconds until the narrator responds. -/
def narratorTime : Nat := 2

/-- The milliseconds until the painter responds. -/
def painterTime : Nat := 1

/-- A response taken from a script; with none left the connection breaks. -/
def take : List Response → Response × List Response
  | [] => (.dropped "", [])
  | r :: rs => (r, rs)

/-- Why a file cannot be used. -/
def refusal : String := "no such file"

/-- The stage as the world of a console. -/
def host : Host (StateM Stage) where
  print line := modify fun s => { s with printed := s.printed ++ [line] }
  askNarrator post := fun s =>
    let (r, replies) := take s.replies
    ((delay narratorTime r, r), { s with replies, asked := s.asked ++ [post] })
  askPainter post := fun s =>
    let (r, pictures) := take s.pictures
    ((delay painterTime r, r), { s with pictures, painted := s.painted ++ [post] })
  readFile path := fun s => (match s.folder.read? path with
    | some text => .ok text
    | none => .error refusal, s)
  writeFile path text := fun s => match s.folder.write? path text with
    | some folder => (.ok (), { s with folder })
    | none => (.error refusal, s)
  listFolder path := fun s => (match s.folder.entries? path with
    | some entries => .ok entries
    | none => .error refusal, s)
  stamp := fun s => (Text.ofNat s.stamps, { s with stamps := s.stamps + 1 })

end Stage

end Tabletop
