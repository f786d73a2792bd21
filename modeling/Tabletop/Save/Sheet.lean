import Tabletop.Document.Reader
import Tabletop.Document.Record
import Tabletop.Document.Writer
import Tabletop.Party.Character

/-!
# Character sheets

Characters as documents. Writing lists every field in a fixed order. Reading accepts sheets of
older forms: items as bare names, and missing fields, which take their usual values.
-/

namespace Tabletop.Sheet

open Document (Record)

/-! ## Writing -/

/-- Coins. -/
def ofWallet (w : Wallet) : Document :=
  .object [("gp", .nat w.gold.toNat), ("sp", .nat w.silver.toNat), ("cp", .nat w.copper.toNat)]

/-- An item; one without a tag has no field for it. -/
def ofItem (i : Item) : Document :=
  .object (("name", .text i.name) :: match i.tag with
    | some tag => [("tag", .text tag)]
    | none => [])

/-- The content of a slot. -/
def ofSlot : Option Item → Document
  | some i => ofItem i
  | none => .null

/-- Ability scores. -/
def ofScores (s : AbilityScores) : Document :=
  .object [("strength", .nat s.strength.toNat), ("dexterity", .nat s.dexterity.toNat),
    ("constitution", .nat s.constitution.toNat), ("intelligence", .nat s.intelligence.toNat),
    ("wisdom", .nat s.wisdom.toNat), ("charisma", .nat s.charisma.toNat)]

/-- The names of statuses. -/
def statusNames : List (String × Status) := [("alive", .alive), ("downed", .downed)]

/-- A status. -/
def ofStatus : Status → Document
  | .alive => .text "alive"
  | .downed => .text "downed"

/-- A character. -/
def ofCharacter (c : Character) : Document :=
  .object
    [("name", .text c.name), ("race", .text c.race), ("characterClass", .text c.calling),
     ("gender", .text c.gender), ("background", .text c.background),
     ("alignment", .text c.alignment), ("stats", ofScores c.stats),
     ("maxHp", .int c.maxHp.toInt), ("currentHp", .int c.currentHp.toInt),
     ("armorClass", .int c.armorClass.toInt), ("status", ofStatus c.status),
     ("currency", ofWallet c.wallet), ("inventory", .array (c.inventory.map ofItem)),
     ("mainWeapon", ofSlot c.weapon), ("armor", ofSlot c.armor),
     ("regenTurnCounter", .nat c.regenCounter.toNat), ("notes", .text c.notes)]

/-! ## Reading -/

/-- Coins; a missing denomination is empty. -/
def wallet? (d : Document) : Option Wallet := do
  let r ← d.record? ["gp", "sp", "cp"]
  return ⟨← r.withDefault? "gp" 0 Document.word?, ← r.withDefault? "sp" 0 Document.word?,
    ← r.withDefault? "cp" 0 Document.word?⟩

/-- An item: a bare name, or an object with a name and perhaps a tag. -/
def item? : Document → Option Item
  | .text name => some (.plain name)
  | d => do
    let r ← d.keyed? ["name", "tag"]
    return ⟨← r.required? "name" Document.text?,
      ← r.withDefault? "tag" none (Document.orNull? Document.text?)⟩

/-- Ability scores, all of them. -/
def scores? (d : Document) : Option AbilityScores := do
  let r ← d.record?
    ["strength", "dexterity", "constitution", "intelligence", "wisdom", "charisma"]
  return ⟨← r.required? "strength" Document.byte?, ← r.required? "dexterity" Document.byte?,
    ← r.required? "constitution" Document.byte?, ← r.required? "intelligence" Document.byte?,
    ← r.required? "wisdom" Document.byte?, ← r.required? "charisma" Document.byte?⟩

/-- The fields of a character in order. -/
def characterKeys : List String :=
  ["name", "race", "characterClass", "gender", "background", "alignment", "stats", "maxHp",
   "currentHp", "armorClass", "status", "currency", "inventory", "mainWeapon", "armor",
   "regenTurnCounter", "notes"]

/-- A character as the document has it, with vitals that need not agree. -/
def rawCharacter? (d : Document) : Option Character := do
  let r ← d.record? characterKeys
  return {
    name := ← r.required? "name" Document.text?
    race := ← r.required? "race" Document.text?
    calling := ← r.required? "characterClass" Document.text?
    gender := ← r.withDefault? "gender" "" Document.text?
    background := ← r.withDefault? "background" "" Document.text?
    alignment := ← r.withDefault? "alignment" "" Document.text?
    stats := ← r.required? "stats" scores?
    maxHp := ← r.required? "maxHp" Document.int32?
    currentHp := ← r.required? "currentHp" Document.int32?
    armorClass := ← r.withDefault? "armorClass" Character.defaultArmorClass Document.int32?
    status := ← r.withDefault? "status" .alive (Document.named? statusNames)
    wallet := ← r.withDefault? "currency" .empty wallet?
    inventory := ← r.withDefault? "inventory" [] (Document.listOf? item?)
    weapon := ← r.withDefault? "mainWeapon" none (Document.orNull? item?)
    armor := ← r.withDefault? "armor" none (Document.orNull? item?)
    regenCounter := ← r.withDefault? "regenTurnCounter" 0 Document.word?
    notes := ← r.withDefault? "notes" "" Document.text? }

/-- A character with its vitals brought into range. -/
def character? (d : Document) : Option Character := (rawCharacter? d).map Character.normalize

end Tabletop.Sheet
