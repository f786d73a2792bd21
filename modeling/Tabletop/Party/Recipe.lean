import Tabletop.Party.Calling
import Tabletop.Party.Character

/-!
# Recipes

What a new character is made from, the check it has to pass, and the making: hit points and armor
class from class and scores, weapon and armor picked from the starting items, and the standard kit.
-/

namespace Tabletop

/-- The choices that make a new character. -/
structure Recipe where
  name : String
  race : String
  calling : String
  gender : String
  background : String
  alignment : String
  stats : AbilityScores
  /-- Names of items, before weapon and armor are picked from them. -/
  items : List String
  wallet : Wallet
  deriving DecidableEq, Repr

/-- What is wrong with a recipe. -/
inductive RecipeError where
  | raceMissing
  | callingMissing
  | scoreOutOfRange (score : UInt8)
  deriving DecidableEq, Repr

/-- The name of a recipe error. -/
def RecipeError.kind (_ : RecipeError) : String := "InvalidOptions"

/-- The wording of a recipe error. -/
def RecipeError.message (e : RecipeError) : String :=
  "Invalid character options: " ++
    match e with
    | .raceMissing => "race is required"
    | .callingMissing => "class is required"
    | .scoreOutOfRange score => "ability score " ++ Text.ofNat score.toNat ++ " is outside 1-30"

namespace Recipe

/-- A recipe with the usual details. -/
def ofIdentity (name race calling gender : String) : Recipe :=
  { name, race, calling, gender
    background := backgrounds.headD ""
    alignment := "True Neutral"
    stats := .average
    items := []
    wallet := .empty }

/-- Background, alignment and scores drawn at random, in this order. -/
def randomize (r : Recipe) (dice : Dice) : Recipe × Dice :=
  let (background, dice) := dice.choose backgrounds
  let (alignment, dice) := dice.choose alignments
  let (stats, dice) := AbilityScores.roll dice
  ({ r with background, alignment, stats }, dice)

/-- Scores from one to thirty are allowed. -/
def scoreInRange (score : UInt8) : Bool := 1 ≤ score.toNat && score.toNat ≤ 30

/-- The first thing wrong: race, class, then the first score out of range. -/
def validate (r : Recipe) : Except RecipeError Unit :=
  if Text.isAllBlank r.race then .error .raceMissing
  else if Text.isAllBlank r.calling then .error .callingMissing
  else match r.stats.toList.find? fun s => !scoreInRange s with
    | some score => .error (.scoreOutOfRange score)
    | none => .ok ()

/-- Some word of a list occurs in the lower-cased text. -/
def mentions (keywords : List String) (item : String) : Bool :=
  keywords.any fun w => Text.contains (Text.lower item) w

/-- The first item that mentions a word, taken out of the list. -/
def pick (keywords : List String) (items : List String) : Option String × List String :=
  (items.find? (mentions keywords), items.eraseP (mentions keywords))

/-- The hit points of a class with a constitution modifier. -/
def hitPoints (calling : String) (con : Int) : Int :=
  match Calling.ofName? calling with
  | some k => k.hitDie * 2 + con
  | none => 8 + con

/-- The armor class of a class with a dexterity modifier. -/
def armorClass (calling : String) (dex : Int) : Int :=
  match Calling.ofName? calling with
  | some k =>
    if "light" ∈ k.armor ∧ Text.asciiLower calling ≠ "barbarian" then 11 + dex else 10 + dex
  | none => 10 + dex

/-- What every new character carries. -/
def standardKit : List Item :=
  List.replicate 5 (Item.tagged "Potion of Healing" "Consumable") ++
    [Item.tagged "Healer's Kit" "Consumable", Item.tagged "Scroll of Revivify" "Consumable"]

/-- The character of a valid recipe. -/
def make (r : Recipe) : Except RecipeError Character := do
  r.validate
  let con := AbilityScores.modifier r.stats.constitution
  let dex := AbilityScores.modifier r.stats.dexterity
  let (weapon, rest) := pick weaponWords r.items
  let (armor, rest) := pick armorWords rest
  return { Character.bare r.name r.race r.calling (hitPoints r.calling con) with
    gender := r.gender
    background := r.background
    alignment := r.alignment
    stats := r.stats
    armorClass := Int32.ofInt (armorClass r.calling dex)
    wallet := r.wallet
    inventory := rest.map (Item.tagged · "New") ++ standardKit
    weapon := weapon.map Item.plain
    armor := armor.map Item.plain }

end Recipe

end Tabletop
