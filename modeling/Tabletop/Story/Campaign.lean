import Tabletop.Text.Basic

/-!
# Campaigns

The adventures that the narrator can run.
-/

namespace Tabletop

/-- An adventure. -/
inductive Campaign where
  | lostMine
  | frozenSick
  | beginnerJourney
  | crossroads
  deriving DecidableEq, Repr

namespace Campaign

/-- The adventure that is run when none is chosen. -/
def usual : Campaign := .lostMine

/-- Every adventure. -/
def list : List Campaign := [.lostMine, .frozenSick, .beginnerJourney, .crossroads]

/-- The name in documents and options. -/
def id : Campaign → String
  | .lostMine => "lost-mine-of-phandelver"
  | .frozenSick => "frozen-sick"
  | .beginnerJourney => "beginner-journey"
  | .crossroads => "crossroads-of-destiny"

/-- The name that players see. -/
def title : Campaign → String
  | .lostMine => "Lost Mine of Phandelver"
  | .frozenSick => "Frozen Sick"
  | .beginnerJourney => "A Beginner's Journey"
  | .crossroads => "Crossroads of Destiny"

/-- The adventure with an identifier, without regard to blanks around it. -/
def ofId? (name : String) : Option Campaign := list.find? fun c => c.id == Text.trim name

end Campaign

end Tabletop
