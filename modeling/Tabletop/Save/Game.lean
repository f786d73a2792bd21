import Tabletop.Party.Roster
import Tabletop.Save.Chronicle
import Tabletop.Save.Sheet
import Tabletop.Story.Campaign

/-!
# Saved games

A saved game is one document with the party, the log, the protagonist's place and the campaign.
Reading is all or nothing: the version and the presence of the needed fields are checked first, and
every character's vitals are brought into range. A single character is saved as its sheet alone.
-/

namespace Tabletop

/-- Why something could not be saved or loaded. -/
inductive SaveError where
  | io (reason : String)
  | unreadable
  | notAnObject
  | versionMismatch (found : String)
  | missingField (name : String)
  | party (e : RosterError)
  deriving DecidableEq, Repr

/-- The version of saved games. -/
def saveVersion : String := "1.0"

/-- The name of a save error. -/
def SaveError.kind : SaveError → String
  | .io _ => "Io"
  | .unreadable => "Json"
  | .notAnObject => "InvalidFormat"
  | .versionMismatch _ => "VersionMismatch"
  | .missingField _ => "MissingField"
  | .party e => e.kind

/-- The wording of a save error. -/
def SaveError.message : SaveError → String
  | .io reason => "IO error: " ++ reason
  | .unreadable => "JSON error: the document cannot be read"
  | .notAnObject => "Invalid save format: expected a JSON object"
  | .versionMismatch found =>
    "Version mismatch: expected " ++ saveVersion ++ ", found " ++ found
  | .missingField name => "Missing required field \x60" ++ name ++ "\x60"
  | .party e => "Invalid party: " ++ e.message

/-- All that is needed to resume a game. -/
structure SavedGame where
  characters : List Character
  log : Log
  main : Nat
  campaign : Campaign
  deriving DecidableEq, Repr

namespace SavedGame

/-- The saved form of a party and its story. -/
def ofParty (r : Roster) (log : Log) (campaign : Campaign) : SavedGame :=
  ⟨r.members, log, r.main, campaign⟩

/-- The saved party with a cap on its size. -/
def roster (s : SavedGame) (cap : Nat) : Except SaveError Roster :=
  (Roster.ofMembers s.characters s.main cap).mapError .party

/-- The identifiers of campaigns. -/
def campaignNames : List (String × Campaign) := Campaign.list.map fun c => (c.id, c)

/-- A saved game as a document. -/
def toDocument (s : SavedGame) : Document :=
  .object [("version", .text saveVersion),
    ("characters", .array (s.characters.map Sheet.ofCharacter)),
    ("storyLog", Chronicle.ofLog s.log), ("mainCharacterIndex", .nat s.main),
    ("campaign", .text s.campaign.id)]

/-- The text of a saved game. -/
def write (s : SavedGame) : String := s.toDocument.indented

/-- The fields of a saved game in order. -/
def keys : List String :=
  ["version", "characters", "storyLog", "mainCharacterIndex", "campaign"]

/-- The fields other than the version that may not be missing or null. -/
def neededKeys : List String := ["characters", "storyLog", "mainCharacterIndex"]

/-- A field is missing or null. -/
def lacks (fields : List (String × Document)) (key : String) : Bool :=
  match Document.fieldOf? fields key with
  | none | some .null => true
  | _ => false

/-- The first of some fields that is missing or null. -/
def firstLacking? (keys : List String) (fields : List (String × Document)) : Option String :=
  keys.find? (lacks fields)

/-- The version is the current one. -/
def checkVersion (fields : List (String × Document)) : Except SaveError Unit :=
  match Document.fieldOf? fields "version" with
  | none => .error (.missingField "version")
  | some (.text found) =>
    if found = saveVersion then .ok () else .error (.versionMismatch found)
  | some d => .error (.versionMismatch d.compact)

/-- The content of a saved game whose version has been checked. -/
def content? (d : Document) : Option SavedGame := do
  let r ← d.record? keys
  let _ ← r.required? "version" Document.text?
  return {
    characters := ← r.required? "characters" (Document.listOf? Sheet.character?)
    log := ← r.required? "storyLog" Chronicle.log?
    main := ← r.required? "mainCharacterIndex" Document.count?
    campaign := ← r.withDefault? "campaign" .usual (Document.named? campaignNames) }

/-- The saved game of a settled document. -/
def ofDocument (d : Document) : Except SaveError SavedGame := do
  match d with
  | .object fields =>
    checkVersion fields
    if let some name := firstLacking? neededKeys fields then throw (.missingField name)
    match content? d with
    | some s => return s
    | none => throw .unreadable
  | _ => throw .notAnObject

/-- The saved game that a text holds. -/
def read (text : String) : Except SaveError SavedGame :=
  match Document.parseWhole? text with
  | some d => ofDocument d
  | none => .error .unreadable

/-- The version that a text shows, whatever else it holds. -/
def peekVersion (text : String) : Except SaveError String :=
  let version := do
    let r ← (← Document.parse? text).record? ["version"]
    r.required? "version" Document.text?
  match version with
  | some v => .ok v
  | none => .error .unreadable

/-- A file of this name and content belongs in the list of saved games. -/
def isListed (content : String) : Bool :=
  match peekVersion content with
  | .ok v => v == saveVersion
  | .error _ => false

/-- A file of this name may hold a saved game: something stands before the ending. -/
def isSaveName (name : String) : Bool :=
  ".json".toList.isSuffixOf name.toList && name ≠ ".json"

/-- The names of the saved games among files, greatest first; a file that cannot be read has no
content. -/
def listing (files : List (String × Option String)) : List String :=
  ((files.filter fun f => isSaveName f.1 && f.2.any isListed).map Prod.fst).mergeSort
    fun a b => decide (b ≤ a)

/-- A path within a directory. -/
def within (directory name : String) : String :=
  if directory = "" ∨ directory.toList.getLast? = some '/' then directory ++ name
  else directory ++ "/" ++ name

/-- The path of a new saved game, stamped with a time. -/
def path (directory stamp : String) : String :=
  within directory ("tavern_save_" ++ stamp ++ ".json")

end SavedGame

namespace Sheet

/-- The text of a character sheet. -/
def write (c : Character) : String := (ofCharacter c).indented

/-- The fields of a sheet that may not be missing or null. -/
def neededKeys : List String := ["race", "characterClass", "stats", "maxHp"]

/-- The fields of a sheet that count as missing when they are null. -/
def optionalKeys : List String := ["inventory", "mainWeapon", "armor", "currency"]

/-- Older sheets brought to the present form: no name is an empty one, no hit points are full
health, and some fields count as missing when they are null. -/
def modernize (fields : List (String × Document)) : List (String × Document) :=
  let fields := if (Document.fieldOf? fields "name").isNone then
      Document.insertField "name" (.text "") fields
    else fields
  let fields := if SavedGame.lacks fields "currentHp" then
      Document.insertField "currentHp" ((Document.fieldOf? fields "maxHp").getD .null) fields
    else fields
  fields.filter fun f => !(optionalKeys.contains f.1 && SavedGame.lacks [f] f.1)

/-- The character of a settled document. -/
def ofDocument (d : Document) : Except SaveError Character := do
  match d with
  | .object fields =>
    if let some name := SavedGame.firstLacking? neededKeys fields then throw (.missingField name)
    match character? (.object (modernize fields)) with
    | some c => return c
    | none => throw .unreadable
  | _ => throw .notAnObject

/-- The character that a sheet's text holds. -/
def read (text : String) : Except SaveError Character :=
  match Document.parseWhole? text with
  | some d => ofDocument d
  | none => .error .unreadable

/-- Characters that the file name of a sheet may have. -/
def isFileChar (c : Char) : Bool :=
  Text.isLetterOrNumber c || c == '_' || c == '-' || c == '\''

/-- The file name of a character's sheet: blanks within the name become underscores. -/
def fileName (name : String) : String :=
  let kept := ((Text.trim name).toList.map fun c => if Text.isBlank c then '_' else c).filter
    isFileChar
  if kept.isEmpty then "character.json" else String.ofList kept ++ ".json"

end Sheet

end Tabletop
