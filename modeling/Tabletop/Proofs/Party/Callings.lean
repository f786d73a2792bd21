import Tabletop.Proofs.Party.Recipes
import Tabletop.Proofs.Text.Lowering

/-!
# Names of classes

The hit points of a new character do not depend on how the name of its class is spelled. The armor
class does in one case: barbarians are known by the bare name alone where armor is concerned, so
that blanks around it give them the light armor that others of their kind do without.
-/

namespace Tabletop

open Text (Respelled)

variable {s t : String}

/-- A class is known by every spelling of its name. -/
theorem Calling.ofName?_respelled (h : Respelled s t) : ofName? s = ofName? t := by
  rw [ofName?, ofName?, h.lower_trim]

namespace Recipe

/-- The spelling of a class makes no difference to hit points. -/
theorem hitPoints_respelled (h : Respelled s t) (con : Int) :
    hitPoints s con = hitPoints t con := by
  rw [hitPoints, hitPoints, Calling.ofName?_respelled h]

/-- The text names the barbarians, with or without blanks around it. -/
def NamesBarbarian (s : String) : Prop := Text.asciiLower (Text.trim s) = "barbarian"

private theorem trim_barbarian : Text.trim "barbarian" = "barbarian" := by decide

/-- Blanks around their name give barbarians light armor. -/
private theorem armorClass_of_barbarian (h : NamesBarbarian s) (dex : Int) :
    armorClass s dex = if Text.trim s = s then 10 + dex else 11 + dex := by
  have hlower : Text.lower (Text.trim s) = "barbarian" := by
    rw [← Text.lower_asciiLower, h]
    decide
  have hclass : Calling.ofName? s = some ⟨12, ["light", "medium", "shields"]⟩ := by
    rw [Calling.ofName?, hlower]
    decide
  have hbare : Text.asciiLower s = "barbarian" ↔ Text.trim s = s := by
    rw [Text.asciiLower_eq_iff trim_barbarian]
    exact and_iff_right h
  by_cases htrim : Text.trim s = s <;> simp [armorClass, hclass, hbare, htrim]

/-- The spelling of another class makes no difference to armor. -/
private theorem armorClass_respelled (h : Respelled s t) (hs : ¬ NamesBarbarian s) (dex : Int) :
    armorClass s dex = armorClass t dex := by
  have hnot {name : String} (hname : ¬ NamesBarbarian name) :
      Text.asciiLower name ≠ "barbarian" := fun heq =>
    hname ((Text.asciiLower_eq_iff trim_barbarian).mp heq).1
  have ht : ¬ NamesBarbarian t := by
    rwa [NamesBarbarian, ← h.asciiLower_trim]
  simp only [armorClass, Calling.ofName?_respelled h, ne_eq, hnot hs, hnot ht]

private theorem ofInt_ne (dex : Int) : Int32.ofInt (11 + dex) ≠ Int32.ofInt (10 + dex) := by
  rw [show 11 + dex = 1 + (10 + dex) by omega, Int32.ofInt_add]
  intro heq
  cases Int32.add_eq_right.mp heq

/-- Armor classes differ between two spellings only for barbarians, and then exactly if there are
blanks around one of them alone. -/
private theorem armorClass_eq_iff (h : Respelled s t) (dex : Int) :
    Int32.ofInt (armorClass t dex) = Int32.ofInt (armorClass s dex) ↔
      (NamesBarbarian s → (Text.trim t = t ↔ Text.trim s = s)) := by
  by_cases hs : NamesBarbarian s
  · have ht : NamesBarbarian t := by rwa [NamesBarbarian, ← h.asciiLower_trim]
    rw [armorClass_of_barbarian hs, armorClass_of_barbarian ht]
    have hne := ofInt_ne dex
    by_cases hbare : Text.trim s = s <;> by_cases hbare' : Text.trim t = t <;> grind
  · simp [hs, armorClass_respelled h hs]

/-- If a recipe is valid, so is one that differs only in the spelling of the class, by the case of
ASCII letters and by blanks around the name, and the characters they make have the same maximum of
hit points. They have the same armor class too, unless they are barbarians and there are blanks
around one of the two spellings alone. -/
theorem make_respelled {r : Recipe} {calling : String} (h : r.validate = .ok ())
    (hspelled : Respelled r.calling calling) :
    ∃ c c', r.make = .ok c ∧ ({ r with calling } : Recipe).make = .ok c' ∧ c'.maxHp = c.maxHp ∧
      (c'.armorClass = c.armorClass ↔ (NamesBarbarian r.calling →
        (Text.trim calling = calling ↔ Text.trim r.calling = r.calling))) := by
  have h' : ({ r with calling } : Recipe).validate = .ok () := by
    obtain ⟨hrace, hcalling, hscores⟩ := validate_eq_ok_iff.mp h
    exact validate_eq_ok_iff.mpr ⟨hrace, hspelled.isAllBlank_eq ▸ hcalling, hscores⟩
  obtain ⟨c, hmake, hc⟩ := exists_make h
  obtain ⟨c', hmake', hc'⟩ := exists_make h'
  refine ⟨c, c', hmake, hmake', ?_, ?_⟩
  · rw [hc.maxHp, hc'.maxHp, hitPoints_respelled hspelled]
  · rw [hc.armorClass, hc'.armorClass]
    exact armorClass_eq_iff hspelled _

/-- Blanks around both spellings make no difference. -/
theorem make_respelled_barbarian :
    let r := ofIdentity "Bo" "Elf" " Barbarian" "male"
    r.validate = .ok () ∧ Respelled r.calling "BARBARIAN\t" ∧
      ∃ c c', r.make = .ok c ∧ ({ r with calling := "BARBARIAN\t" } : Recipe).make = .ok c' ∧
        c'.maxHp = c.maxHp ∧ c'.armorClass = c.armorClass := by
  intro r
  have hvalid : r.validate = .ok () := by decide
  have hspelled : Respelled r.calling "BARBARIAN\t" :=
    ⟨"Barbarian".toList, "BARBARIAN".toList,
      ⟨[' '], [], List.forall_mem_singleton.mpr rfl, List.forall_mem_nil _, by decide⟩,
      ⟨[], ['\t'], List.forall_mem_nil _, List.forall_mem_singleton.mpr rfl, by decide⟩, by decide⟩
  obtain ⟨c, c', hmake, hmake', hhp, harmor⟩ := make_respelled hvalid hspelled
  exact ⟨hvalid, hspelled, c, c', hmake, hmake', hhp, harmor.mpr fun _ => by decide⟩

/-- Blanks around the name of the barbarians raise the armor class of a member. -/
theorem armorClass_of_padded_barbarian :
    let r := ofIdentity "Bo" "Elf" "Barbarian" "male"
    let r' := { r with calling := " Barbarian " }
    r.validate = .ok () ∧ r'.validate = .ok () ∧ Respelled r.calling r'.calling ∧
      r.make.map Character.armorClass = .ok 10 ∧ r'.make.map Character.armorClass = .ok 11 := by
  refine ⟨by decide, by decide, ?_, by decide, by decide⟩
  exact ⟨"Barbarian".toList, "Barbarian".toList,
    ⟨[], [], List.forall_mem_nil _, List.forall_mem_nil _, by decide⟩,
    ⟨[' '], [' '], List.forall_mem_singleton.mpr rfl, List.forall_mem_singleton.mpr rfl,
      by decide⟩, rfl⟩

end Recipe

end Tabletop
