import Tabletop.Party.Recipe
import Tabletop.Proofs.Party.Belongings

/-!
# What recipes make

A recipe whose race and class are not blank, and whose scores are from one to thirty, makes a
character. Of the starting items the first weapon and then the first armor go to their slots, and
the others stay in order before the standard kit, so that each has exactly one place
(`gear_of_valid`).
-/

namespace Tabletop.Recipe

variable {r : Recipe}

/-! ## Validity -/

/-- Race and class are needed, and all scores have to be in range. -/
theorem validate_eq_ok_iff :
    r.validate = .ok () ↔ Text.isAllBlank r.race = false ∧ Text.isAllBlank r.calling = false ∧
      ∀ score ∈ r.stats.toList, scoreInRange score = true := by
  have hscores : r.stats.toList.find? (fun s => !scoreInRange s) = none ↔
      ∀ score ∈ r.stats.toList, scoreInRange score = true := by
    simp [List.find?_eq_none]
  unfold validate
  cases Text.isAllBlank r.race with
  | true => simp
  | false =>
    cases Text.isAllBlank r.calling with
    | true => simp
    | false =>
      rw [← hscores]
      cases r.stats.toList.find? fun s => !scoreInRange s <;> simp

/-- A character is what its recipe asks for, in full health. -/
structure Makes (r : Recipe) (c : Character) : Prop where
  name : c.name = r.name
  race : c.race = r.race
  calling : c.calling = r.calling
  gender : c.gender = r.gender
  maxHp : c.maxHp =
    Int32.ofInt (max 1 (hitPoints r.calling (AbilityScores.modifier r.stats.constitution)))
  currentHp : c.currentHp = c.maxHp
  status : c.status = .alive
  armorClass : c.armorClass =
    Int32.ofInt (armorClass r.calling (AbilityScores.modifier r.stats.dexterity))
  weapon : c.weapon = (pick weaponWords r.items).1.map Item.plain
  armor : c.armor = (pick armorWords (pick weaponWords r.items).2).1.map Item.plain
  inventory : c.inventory =
    (pick armorWords (pick weaponWords r.items).2).2.map (Item.tagged · "New") ++ standardKit

/-- A valid recipe makes a character. -/
theorem exists_make (h : r.validate = .ok ()) : ∃ c, r.make = .ok c ∧ r.Makes c := by
  simp only [make, h]
  exact ⟨_, rfl, rfl, rfl, rfl, rfl, rfl, rfl, rfl, rfl, rfl, rfl, rfl⟩

/-! ## Picking -/

/-- One of the words occurs in the lower-cased name of an item. -/
def Mentions (keywords : List String) (item : String) : Prop :=
  ∃ w ∈ keywords, w.toList <:+: (Text.lower item).toList

private theorem occursIn_iff (needle cs : List Char) :
    Text.occursIn needle cs = true ↔ needle <:+: cs := by
  induction cs with
  | nil => simp [Text.occursIn]
  | cons c cs ih =>
    rw [Text.occursIn, Bool.or_eq_true, ih, List.isPrefixOf_iff_prefix, List.infix_cons_iff]

private theorem mentions_iff {keywords : List String} {item : String} :
    mentions keywords item = true ↔ Mentions keywords item := by
  simp only [mentions, List.any_eq_true, Text.contains, occursIn_iff, Mentions]

/-- The first of the items that mentions one of the words is taken out of the list, or no item does
and the list stays as it is. -/
inductive Picked (keywords : List String) : List String → Option String → List String → Prop
  | first {before after : List String} {item : String} :
    (∀ other ∈ before, ¬ Mentions keywords other) → Mentions keywords item →
      Picked keywords (before ++ item :: after) (some item) (before ++ after)
  | absent {items : List String} : (∀ item ∈ items, ¬ Mentions keywords item) →
      Picked keywords items none items

private theorem picked_pick (keywords items : List String) :
    Picked keywords items (pick keywords items).1 (pick keywords items).2 := by
  cases hfind : items.find? (mentions keywords) with
  | none =>
    have hnone := List.find?_eq_none.mp hfind
    rw [pick, hfind, List.eraseP_of_forall_not hnone]
    exact .absent fun item hmem hment => hnone item hmem (mentions_iff.mpr hment)
  | some item =>
    obtain ⟨hment, before, after, rfl, hbefore⟩ := List.find?_eq_some_iff_append.mp hfind
    have hothers : ∀ other ∈ before, ¬ mentions keywords other = true := by
      simpa using hbefore
    rw [pick, hfind, List.eraseP_append_right _ hothers, List.eraseP_cons_of_pos hment]
    exact .first (fun other hmem h => hothers other hmem (mentions_iff.mpr h))
      (mentions_iff.mp hment)

/-- What is taken and what is left are the items. -/
theorem Picked.perm {keywords items rest : List String} {taken : Option String}
    (h : Picked keywords items taken rest) : (taken.toList ++ rest).Perm items := by
  cases h with
  | first =>
    rw [Option.toList_some, List.singleton_append]
    exact List.perm_middle.symm
  | absent => exact .refl _

/-! ## Gear -/

/-- A valid recipe makes a character, and every starting item has exactly one place: the first one
that mentions a weapon is in the weapon slot, the first of the others that mentions armor is in the
armor slot, both without a tag, and the rest stand in their order in the inventory, tagged as new,
before the standard kit: five potions, a healer's kit and a scroll. The character carries nothing
else. -/
theorem gear_of_valid (h : r.validate = .ok ()) :
    let kit := [Item.tagged "Potion of Healing" "Consumable",
      .tagged "Potion of Healing" "Consumable", .tagged "Potion of Healing" "Consumable",
      .tagged "Potion of Healing" "Consumable", .tagged "Potion of Healing" "Consumable",
      .tagged "Healer's Kit" "Consumable", .tagged "Scroll of Revivify" "Consumable"]
    standardKit = kit ∧ ∃ c weapon armor others rest, r.make = .ok c ∧
      Picked weaponWords r.items weapon others ∧ Picked armorWords others armor rest ∧
      c.weapon = weapon.map Item.plain ∧ c.armor = armor.map Item.plain ∧
      c.inventory = rest.map (Item.tagged · "New") ++ kit ∧
      (c.items.map Item.name).Perm (r.items ++ kit.map Item.name) := by
  intro kit
  have hkit : standardKit = kit := rfl
  obtain ⟨c, hmake, hc⟩ := exists_make h
  have hweapon := picked_pick weaponWords r.items
  have harmor := picked_pick armorWords (pick weaponWords r.items).2
  rw [← hkit]
  refine ⟨rfl, c, _, _, _, _, hmake, hweapon, harmor, hc.weapon, hc.armor, hc.inventory, ?_⟩
  have hitems := hweapon.perm.symm.trans (harmor.perm.symm.append_left _)
  rw [List.perm_iff_count] at hitems ⊢
  intro name
  have hplain (item : Option String) :
      (item.map Item.plain).toList.map Item.name = item.toList := by
    cases item <;> rfl
  have htagged (items : List String) : (items.map (Item.tagged · "New")).map Item.name = items := by
    simp [Function.comp_def, Item.tagged]
  have hcount := hitems name
  simp only [Character.items, hc.inventory, hc.weapon, hc.armor, List.map_append, hplain, htagged,
    List.count_append] at hcount ⊢
  omega

/-- Of three items that mention armor or a weapon, the one that mentions both is the weapon. -/
theorem gear_of_valid_chain_sword :
    let r := { ofIdentity "Bo" "Elf" "Bard" "male" with
      items := ["Rope", "Chain Sword", "Leather Cap", "Sword", "Rope"] }
    r.validate = .ok () ∧ ∃ c, r.make = .ok c ∧ c.weapon = some (.plain "Chain Sword") ∧
      c.armor = some (.plain "Leather Cap") ∧
      c.inventory = ["Rope", "Sword", "Rope"].map (Item.tagged · "New") ++ standardKit ∧
      (c.items.map Item.name).Perm (r.items ++ standardKit.map Item.name) := by
  intro r
  have hvalid : r.validate = .ok () := by decide +kernel
  have hgear : r.make.map (fun c => (c.weapon, c.armor, c.inventory)) =
      .ok (some (.plain "Chain Sword"), some (.plain "Leather Cap"),
        ["Rope", "Sword", "Rope"].map (Item.tagged · "New") ++ standardKit) := by decide +kernel
  obtain ⟨-, c, _, _, _, _, hmake, -, -, -, -, -, hperm⟩ := gear_of_valid hvalid
  rw [hmake, Except.map, Except.ok.injEq, Prod.mk.injEq, Prod.mk.injEq] at hgear
  obtain ⟨hweapon, harmor, hinventory⟩ := hgear
  exact ⟨hvalid, c, hmake, hweapon, harmor, hinventory, hperm⟩

end Tabletop.Recipe
