import Tabletop.Table

/-!
# Rehearsals

A session played against a script: the narrator and the painter answer as they are told, and what
they are asked is kept. No time passes but what the script makes pass.
-/

namespace Tabletop

/-- An answer of the narrator in a script. -/
inductive Cue where
  | text (s : String)
  | failure (reason : String)
  /-- No answer ever. -/
  | silence
  deriving DecidableEq, Repr

/-- What narrator and painter do, and what they have been asked. -/
structure Script where
  /-- Answers of the narrator still to come. -/
  cues : List Cue
  asked : List Narration
  /-- For a scene, the milliseconds the painter takes and the picture, if it does not fail; of
  several entries for one scene the first counts. -/
  pictures : List (String × Nat × Option String)
  painted : List String
  deriving DecidableEq, Repr

namespace Script

/-- An empty script. -/
def empty : Script := ⟨[], [], [], []⟩

/-- What the narrator says when the script has no more answers. -/
def outOfCues : String := "The Dungeon Master has no more scripted responses."

/-- The picture of a scene without an entry. -/
def plainPicture (description : String) : String := "mock://scene/" ++ description

/-- The answer to a cue. -/
def answer : Cue → Option (Nat × Except NarratorError String)
  | .text s => some (0, .ok s)
  | .failure reason => some (0, .error (.unavailable reason))
  | .silence => none

/-- The narrator is asked. -/
def narrate (n : Narration) : StateM Script (Option (Nat × Except NarratorError String)) :=
  fun s =>
    let s := { s with asked := s.asked ++ [n] }
    match s.cues with
    | [] => (some (0, .ok outOfCues), s)
    | cue :: cues => (answer cue, { s with cues })

/-- The painter is asked. -/
def paint (description : String) : StateM Script (Nat × Option String) :=
  fun s =>
    let s := { s with painted := s.painted ++ [description] }
    ((s.pictures.lookup description).getD (0, some (plainPicture description)), s)

/-- Narrator and painter who follow the script. -/
def cast : Cast (StateM Script) := ⟨narrate, paint⟩

/-- The script with one more answer of the narrator. -/
def queue (s : Script) (cue : Cue) : Script := { s with cues := s.cues ++ [cue] }

/-- The script with an entry for a scene, in place of any other. -/
def setPicture (s : Script) (description : String) (ms : Nat) (url : Option String) : Script :=
  { s with pictures := (description, ms, url) :: s.pictures }

end Script

/-- A session played against a script. -/
structure Rehearsal where
  table : Table
  script : Script
  deriving DecidableEq, Repr

namespace Rehearsal

/-- The seed of rehearsals. -/
def seed : UInt64 := 42

/-- Members seated one after another. -/
def seat (s : Session) (members : List Character) : Except SessionError Session :=
  members.foldlM (fun s c => (s.addMember c).map Prod.snd) s

/-- A rehearsal with a party, unless the party does not fit. -/
def start (settings : Settings) (services : Services) (seed : UInt64) (members : List Character) :
    Except SessionError Rehearsal := do
  let session ← seat (.start settings (.ofSeed seed)) members
  return ⟨.ofSession session services, .empty⟩

/-- The party of a rehearsal for which none is given. -/
def usualParty : List Character := [.bare "Elara Swiftblade" "Elf" "Ranger" 20]

/-- Everything that the table does under the script. -/
def run {α : Type} (r : Rehearsal) (f : Cast (StateM Script) → Table → StateM Script (Table × α)) :
    Rehearsal × α :=
  let ((table, a), script) := f Script.cast r.table r.script
  (⟨table, script⟩, a)

/-- A move played. -/
def play (r : Rehearsal) (move : Session → Move) :
    Rehearsal × Except SessionError (Option Outcome) :=
  r.run fun cast t => t.play cast move

/-- Time passes. -/
def wait (r : Rehearsal) (ms : Nat) : Rehearsal :=
  (r.run fun cast t => return (← t.wait cast ms, ())).1

/-- The session waits for something that takes no time. -/
def pause (r : Rehearsal) : Rehearsal := (r.run fun cast t => return (← t.pause cast, ())).1

/-! ## Checks -/

/-- Hit points of a member and their maximum; zeros for no member. -/
def hp (s : Session) (index : Nat) : Int × Int :=
  match s.roster.get? index with
  | some c => (c.currentHp.toInt, c.maxHp.toInt)
  | none => (0, 0)

/-- The texts of the log. -/
def texts (s : Session) : List String := s.log.map Event.text

/-- The text of the narrator's last entry. -/
def lastNarration? (s : Session) : Option String :=
  (s.log.reverse.find? fun e => e.voice == .narrator).map Event.text

/-- A member has certain coins. -/
def hasWallet (s : Session) (index : Nat) (wallet : Wallet) : Bool :=
  (s.roster.get? index).any fun c => c.wallet == wallet

/-- A member carries an item of a name. -/
def hasItem (s : Session) (index : Nat) (name : String) : Bool :=
  (s.roster.get? index).any fun c => c.inventory.any fun i => i.name == name

end Rehearsal

end Tabletop
