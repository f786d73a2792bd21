import Tabletop.Document.Reader
import Tabletop.Document.Record
import Tabletop.Document.Writer
import Tabletop.Story.Log

/-!
# Chronicles

The story log as a document.
-/

namespace Tabletop.Chronicle

open Document (Record)

/-- The names of voices. -/
def voiceNames : List (String × Voice) :=
  [("dm", .narrator), ("player", .player), ("system", .system), ("game-event", .game)]

/-- The names of invitation statuses. -/
def statusNames : List (String × InvitationStatus) :=
  [("pending", .pending), ("generating", .generating), ("accepted", .accepted),
   ("declined", .declined), ("error", .error)]

/-- An invitation. -/
def ofInvitation (i : Invitation) : Document :=
  .object [("name", .text i.name), ("race", .text i.race), ("characterClass", .text i.calling),
    ("gender", .text i.gender), ("status", .text i.status.name)]

/-- An entry; one without an invitation has no field for it. -/
def ofEvent (e : Event) : Document :=
  .object (("type", .text e.voice.name) :: ("text", .text e.text) :: match e.invitation with
    | some i => [("invitation", ofInvitation i)]
    | none => [])

/-- A log. -/
def ofLog (log : Log) : Document := .array (log.map ofEvent)

/-- Reads an invitation. -/
def invitation? (d : Document) : Option Invitation := do
  let r ← d.record? ["name", "race", "characterClass", "gender", "status"]
  return ⟨← r.required? "name" Document.text?, ← r.required? "race" Document.text?,
    ← r.required? "characterClass" Document.text?, ← r.required? "gender" Document.text?,
    ← r.required? "status" (Document.named? statusNames)⟩

/-- Reads an entry. -/
def event? (d : Document) : Option Event := do
  let r ← d.record? ["type", "text", "invitation"]
  return ⟨← r.required? "type" (Document.named? voiceNames),
    ← r.required? "text" Document.text?,
    ← r.withDefault? "invitation" none (Document.orNull? invitation?)⟩

/-- Reads a log. -/
def log? (d : Document) : Option Log := d.listOf? event?

end Tabletop.Chronicle
