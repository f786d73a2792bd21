import Tabletop.Text.Basic

/-!
# Combat

Where a fight stands: combatants on a grid of ten columns and five rows, or a single distance to
the enemy, never both.
-/

namespace Tabletop

/-- Whose side a combatant is on. -/
inductive Side where
  | player
  | enemy
  | neutral
  deriving DecidableEq, Repr

/-- Someone who stands on the map. -/
structure Combatant where
  side : Side
  id : String
  x : Int32
  y : Int32
  deriving DecidableEq, Repr

/-- Where a fight stands. -/
inductive Standoff where
  | grid (combatants : List Combatant)
  /-- Meters to the enemy. -/
  | distance (meters : UInt32)
  deriving DecidableEq, Repr

/-- Whether there is a fight, and where it stands. -/
structure Combat where
  active : Bool
  standoff : Option Standoff
  deriving DecidableEq, Repr

/-- The name of a side. -/
def Side.name : Side → String
  | .player => "player"
  | .enemy => "enemy"
  | .neutral => "neutral"

/-- The side with a name, without regard to case or to blanks around it. -/
def Side.ofName? (name : String) : Option Side :=
  match Text.lower (Text.trim name) with
  | "player" => some .player
  | "enemy" => some .enemy
  | "neutral" => some .neutral
  | _ => none

namespace Combatant

/-- The columns of the grid. -/
def columns : Nat := 10

/-- The rows of the grid. -/
def rows : Nat := 5

/-- The combatant stands on the grid. -/
def onGrid (c : Combatant) : Bool :=
  0 ≤ c.x.toInt && c.x.toInt < columns && 0 ≤ c.y.toInt && c.y.toInt < rows

/-- The character that shows a combatant on the grid. -/
def marker (c : Combatant) : Char :=
  match c.side with
  | .player => (c.id.toList.head?.map Text.asciiUpperChar).getD 'P'
  | .enemy => 'E'
  | .neutral => 'N'

end Combatant

namespace Combat

/-- No fight. -/
def none : Combat := ⟨false, .none⟩

/-- A fight on a grid, and whether it began with this. -/
def setGrid (c : Combat) (combatants : List Combatant) : Combat × Bool :=
  (⟨true, some (.grid combatants)⟩, !c.active)

/-- A fight at a distance, and whether it began with this. -/
def setDistance (c : Combat) (meters : UInt32) : Combat × Bool :=
  (⟨true, some (.distance meters)⟩, !c.active)

/-- The fight over, and whether there was one. -/
def finish (c : Combat) : Combat × Bool := (none, c.active)

/-- A grid without anyone on it. -/
def emptyGrid : List (List Char) :=
  List.replicate Combatant.rows (List.replicate Combatant.columns '.')

/-- A grid with one more combatant drawn on it; one who stands off the grid is left out. -/
def draw (grid : List (List Char)) (c : Combatant) : List (List Char) :=
  if c.onGrid then
    grid.modify c.y.toInt.toNat fun row => row.set c.x.toInt.toNat c.marker
  else grid

/-- The rows of a grid; of several combatants on one place the last is seen. -/
def gridRows (combatants : List Combatant) : List (List Char) := combatants.foldl draw emptyGrid

/-- The position in text, if there is one. -/
def render? (c : Combat) : Option String :=
  c.standoff.map fun
    | .distance meters => "Enemy at " ++ Text.ofNat meters.toNat ++ " m"
    | .grid combatants => String.ofList (Text.joinChars ['\n'] (gridRows combatants))

end Combat

end Tabletop
