import Tabletop.Text.Basic

/-!
# Folders

A folder held in memory. A path is walked one name at a time from the folder itself, and does not
lead out of it.
-/

namespace Tabletop

/-- A folder: its files and the folders in it, each by the names that lead to it. -/
structure Folder where
  files : List (List String × ByteArray)
  folders : List (List String)

namespace Folder

/-- The names of a path, with an empty one at its end if it ends with a slash. -/
def names (path : String) : List String := Text.splitAt '/' path

/-- The folders on the way to something. -/
def ancestors (place : List String) : List (List String) := (List.range place.length).map place.take

/-- A folder with files and empty folders at given paths, and the folders that they need. -/
def ofList (files : List (String × ByteArray)) (folders : List String) : Folder :=
  let files := files.map fun f => (names f.1, f.2)
  let folders := folders.map names
  ⟨files, (files.flatMap fun f => ancestors f.1) ++ folders.flatMap ancestors ++ folders⟩

/-- Some place is a folder; the place without names is the folder itself. -/
def isFolder (f : Folder) (place : List String) : Bool :=
  place.isEmpty || f.folders.contains place

/-- The longest name, in bytes. -/
def maxName : Nat := 255

/-- One name further on: a name that is empty or a point stays, and two points lead back. -/
def step? (f : Folder) (place : List String) (name : String) : Option (List String) :=
  if !f.isFolder place then none
  else if name = "" ∨ name = "." then some place
  else if name = ".." then if place.isEmpty then none else some place.dropLast
  else if maxName < name.utf8ByteSize then none
  else some (place ++ [name])

/-- The longest path, in bytes. -/
def maxPath : Nat := 4095

/-- Where a path leads, which need not exist. What follows a slash must be in a folder, and a path
from the root leads nowhere. -/
def place? (f : Folder) (path : String) : Option (List String) :=
  if path = "" ∨ maxPath < path.utf8ByteSize ∨ path.toList.head? = some '/' ∨
      path.toList.contains (Char.ofNat 0) then none
  else (names path).foldlM f.step? []

/-- The text of the file at a path. -/
def read? (f : Folder) (path : String) : Option String := do
  let place ← f.place? path
  if f.isFolder place then none else String.fromUTF8? (← f.files.lookup place)

/-- The folder with a text in the file at a path, whether or not there was one. -/
def write? (f : Folder) (path content : String) : Option Folder := do
  let place ← f.place? path
  if f.isFolder place then none
  else some { f with
    files := f.files.filter (fun g => g.1 != place) ++ [(place, content.toUTF8)] }

/-- The name of something within a place, if it lies there directly. -/
def nameIn? (place : List String) (item : List String) : Option String :=
  if item.dropLast = place then item.getLast? else none

/-- What lies directly in the folder at a path: names and texts; a folder has no text. -/
def entries? (f : Folder) (path : String) : Option (List (String × Option String)) := do
  let place ← f.place? path
  if !f.isFolder place then none
  else some <|
    (f.files.filterMap fun g => (nameIn? place g.1).map fun n => (n, String.fromUTF8? g.2)) ++
      f.folders.filterMap fun g => (nameIn? place g).map fun n => (n, none)

/-- The files directly in a folder that it did not hold before, or not so, by name and text. -/
def changes (before after : Folder) : List (String × String) :=
  after.files.filterMap fun (place, data) =>
    match place, before.files.lookup place with
    | [name], some old =>
      if old.data = data.data then none else some (name, (String.fromUTF8? data).getD "")
    | [name], none => some (name, (String.fromUTF8? data).getD "")
    | _, _ => none

end Folder

end Tabletop
