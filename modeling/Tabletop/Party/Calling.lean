import Tabletop.Text.Basic

/-!
# Callings

What a class brings with it: the size of its hit die and the armor its members are used to; and the
lists from which the details of a character are drawn.
-/

namespace Tabletop

/-- What a class brings with it. -/
structure Calling where
  hitDie : Nat
  armor : List String
  deriving DecidableEq, Repr

namespace Calling

/-- The known classes. -/
def table : List (String × Calling) :=
  [("barbarian", ⟨12, ["light", "medium", "shields"]⟩),
   ("bard", ⟨8, ["light"]⟩),
   ("cleric", ⟨8, ["light", "medium", "shields"]⟩),
   ("druid", ⟨8, ["light", "medium", "shields (non-metal)"]⟩),
   ("fighter", ⟨10, ["all", "shields"]⟩),
   ("monk", ⟨8, []⟩),
   ("paladin", ⟨10, ["all", "shields"]⟩),
   ("ranger", ⟨10, ["light", "medium", "shields"]⟩),
   ("rogue", ⟨8, ["light"]⟩),
   ("sorcerer", ⟨6, []⟩),
   ("warlock", ⟨8, ["light"]⟩),
   ("wizard", ⟨6, []⟩)]

/-- The class of a name, without regard to case or to blanks around it. -/
def ofName? (name : String) : Option Calling := table.lookup (Text.lower (Text.trim name))

end Calling

/-- Backgrounds to draw from; the first is the usual one. -/
def backgrounds : List String :=
  ["Acolyte", "Charlatan", "Criminal", "Entertainer", "Folk Hero", "Guild Artisan", "Hermit",
   "Noble", "Outlander", "Sage", "Sailor", "Soldier", "Urchin"]

/-- Alignments to draw from. -/
def alignments : List String :=
  ["Lawful Good", "Neutral Good", "Chaotic Good", "Lawful Neutral", "True Neutral",
   "Chaotic Neutral", "Lawful Evil", "Neutral Evil", "Chaotic Evil"]

/-- Words that mark a starting item as a weapon. -/
def weaponWords : List String :=
  ["sword", "axe", "mace", "dagger", "bow", "staff", "spear", "scythe", "wand", "flail"]

/-- Words that mark a starting item as armor. -/
def armorWords : List String :=
  ["armor", "shield", "plate", "mail", "leather", "robe", "tunic", "chain"]

end Tabletop
