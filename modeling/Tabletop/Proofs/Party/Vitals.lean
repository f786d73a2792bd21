import Tabletop.Party.Recipe
import Tabletop.Proofs.Document.Accepting
import Tabletop.Proofs.Party.Changes
import Tabletop.Save.Game

/-!
# Vitals

Maximum, hit points and status of a character are kept apart and have to agree. Whatever changes hit
points derives the status from them; nothing else touches the three.
-/

namespace Tabletop

/-- A saved game that is read has the characters and the place that some documents hold. -/
theorem SavedGame.exists_of_read {text : String} {g : SavedGame} (h : read text = .ok g) :
    (∃ d, Document.listOf? Sheet.character? d = some g.characters) ∧
      ∃ d, Document.count? d = some g.main := by
  obtain ⟨d, hd⟩ : ∃ d, content? d = some g := by
    unfold read at h
    split at h
    · unfold ofDocument at h
      split at h
      · obtain ⟨_, -, h⟩ := exists_of_bind h
        dsimp only at h
        split at h
        · cases h
        · split at h
          · next hd =>
            cases h
            exact ⟨_, hd⟩
          · cases h
      · cases h
    · cases h
  unfold content? at hd
  obtain ⟨r, -, hd⟩ := Option.bind_eq_some_iff.mp hd
  obtain ⟨version, -, hd⟩ := Option.bind_eq_some_iff.mp hd
  obtain ⟨characters, hcharacters, hd⟩ := Option.bind_eq_some_iff.mp hd
  obtain ⟨log, -, hd⟩ := Option.bind_eq_some_iff.mp hd
  obtain ⟨main, hmain, hd⟩ := Option.bind_eq_some_iff.mp hd
  obtain ⟨campaign, -, hd⟩ := Option.bind_eq_some_iff.mp hd
  cases hd
  obtain ⟨d, -, hd⟩ := Option.bind_eq_some_iff.mp hcharacters
  obtain ⟨e, -, he⟩ := Option.bind_eq_some_iff.mp hmain
  exact ⟨⟨d, hd⟩, e, he⟩

namespace Character

/-- The vitals of a character agree: at least one hit point can be had, those left are between none
and the most, and the character is down exactly without any. -/
structure Vital (c : Character) : Prop where
  one_le_max : 1 ≤ c.maxHp.toInt
  hp_nonneg : 0 ≤ c.currentHp.toInt
  hp_le_max : c.currentHp.toInt ≤ c.maxHp.toInt
  downed_iff : c.status = .downed ↔ c.currentHp.toInt = 0

/-- Two characters have the same vitals. -/
structure SameVitals (c d : Character) : Prop where
  maxHp : d.maxHp = c.maxHp
  currentHp : d.currentHp = c.currentHp
  status : d.status = c.status

/-! ## Items -/

namespace SameVitals

variable {c d e : Character}

private theorem trans (h : c.SameVitals d) (h' : d.SameVitals e) : c.SameVitals e :=
  ⟨h'.maxHp.trans h.maxHp, h'.currentHp.trans h.currentHp, h'.status.trans h.status⟩

/-- What an inventory gains is no matter of vitals. -/
theorem gain (c : Character) (item : Item) : c.SameVitals (c.gain item) := ⟨rfl, rfl, rfl⟩

private theorem setSlot (c : Character) (item : Option Item) (slot : Slot) :
    c.SameVitals (c.setSlot item slot) := by
  cases slot <;> exact ⟨rfl, rfl, rfl⟩

/-- What is equipped is no matter of vitals. -/
theorem equip {index : Nat} {slot : Slot} (h : c.equip index slot = .ok d) : c.SameVitals d := by
  unfold Character.equip at h
  split at h
  · cases h
  · cases h
    refine .trans ?_ (setSlot _ _ slot)
    exact ⟨rfl, rfl, rfl⟩

/-- What is taken off is no matter of vitals. -/
theorem unequip {slot : Slot} (h : c.unequip slot = .ok d) : c.SameVitals d := by
  unfold Character.unequip at h
  split at h
  · cases h
  · cases h
    exact .trans (setSlot c none slot) (gain _ _)

/-- What is given away is no matter of vitals. -/
theorem takeItem {place : ItemPlace} {item : Item} (h : c.takeItem place = .ok (item, d)) :
    c.SameVitals d := by
  cases place with
  | inventory index =>
    simp only [Character.takeItem] at h
    split at h
    · cases h
    · cases h
      exact ⟨rfl, rfl, rfl⟩
  | equipped slot =>
    simp only [Character.takeItem] at h
    split at h
    · cases h
    · cases h
      exact setSlot c none slot

end SameVitals

/-! ## Hit points -/

/-- What one turn of rest does to a character. -/
inductive Rests (c : Character) (threshold : UInt32) : Character → Regeneration → Prop
  | ineligible : c.canRegenerate = false → Rests c threshold c .ineligible
  | counting {counter : UInt32} : c.canRegenerate = true → c.nextCounter? = some counter →
    counter < threshold → Rests c threshold { c with regenCounter := counter } (.counting counter)
  | healed {counter : UInt32} : c.canRegenerate = true → c.nextCounter? = some counter →
    threshold ≤ counter → Rests c threshold (({ c with regenCounter := 0 } : Character).heal 1)
      .healed

/-- A turn of rest that comes to something does one of these. -/
theorem rests_of_regenerate? {c d : Character} {threshold : UInt32} {done : Regeneration}
    (h : c.regenerate? threshold = some (d, done)) : c.Rests threshold d done := by
  unfold Character.regenerate? at h
  split at h
  · next hcan =>
    obtain ⟨counter, hcounter, h⟩ := Option.map_eq_some_iff.mp h
    split at h
    · next hle =>
      cases h
      exact .healed hcan hcounter hle
    · next hle =>
      cases h
      exact .counting hcan hcounter (UInt32.not_le.mp hle)
  · next hcan =>
    cases h
    exact .ineligible (Bool.eq_false_iff.mpr hcan)

/-- Rest heals one hit point or none. -/
theorem Rests.hp {c d : Character} {threshold : UInt32} {done : Regeneration}
    (h : c.Rests threshold d done) :
    done = .healed ∧ d.currentHp.toInt = c.currentHp.toInt + 1 ∨
      done ≠ .healed ∧ d.currentHp = c.currentHp := by
  cases h with
  | ineligible => exact .inr ⟨nofun, rfl⟩
  | counting => exact .inr ⟨nofun, rfl⟩
  | healed hcan =>
    simp only [Character.canRegenerate, Character.isDown, Bool.and_eq_true, Bool.not_eq_true',
      decide_eq_false_iff_not, decide_eq_true_eq] at hcan
    have hmax := c.maxHp.toInt_lt
    refine .inl ⟨rfl, (Int32.toInt_ofInt_of_le ?_ ?_).trans ?_⟩ <;> dsimp only <;> omega

namespace Vital

variable {c d : Character}

/-- Vitals agree where the three are the same. -/
theorem of_same (h : c.Vital) (hsame : c.SameVitals d) : d.Vital := by
  obtain ⟨h₁, h₂, h₃, h₄⟩ := h
  rw [← hsame.maxHp] at h₁ h₃
  rw [← hsame.currentHp] at h₂ h₃ h₄
  rw [← hsame.status] at h₄
  exact ⟨h₁, h₂, h₃, h₄⟩

theorem ofHp_eq_downed_iff {hp : Int} (h : 0 ≤ hp) : Status.ofHp hp = .downed ↔ hp = 0 := by
  unfold Status.ofHp
  by_cases hz : hp ≤ 0
  · rw [if_pos hz]
    simp only [true_iff]
    omega
  · rw [if_neg hz]
    simp only [reduceCtorEq, false_iff]
    omega

/-- Setting hit points makes vitals agree, whatever they were. -/
theorem setHp (hp : Int) (h : 1 ≤ c.maxHp.toInt) : (c.setHp hp).Vital := by
  have hmax := c.maxHp.toInt_lt
  have hclamped : (Int32.ofInt (max 0 (min hp c.maxHp.toInt))).toInt =
      max 0 (min hp c.maxHp.toInt) := Int32.toInt_ofInt_of_le (by omega) (by omega)
  refine ⟨h, ?_, ?_, ?_⟩ <;> simp only [Character.setHp, hclamped]
  · omega
  · omega
  · exact ofHp_eq_downed_iff (by omega)

/-- The status of a character whose vitals agree is that of its hit points. -/
theorem ofHp_eq (h : c.Vital) : Status.ofHp c.currentHp.toInt = c.status := by
  have hiff := (ofHp_eq_downed_iff h.hp_nonneg).trans h.downed_iff.symm
  cases hs : c.status <;> cases ho : Status.ofHp c.currentHp.toInt <;> simp_all

/-- Vitals that agree are in range already. -/
theorem normalize_eq (h : c.Vital) : c.normalize = c := by
  have hmax : max 1 c.maxHp.toInt = c.maxHp.toInt := Int.max_eq_right h.one_le_max
  have hhp : max 0 (min c.currentHp.toInt c.maxHp.toInt) = c.currentHp.toInt := by
    rw [Int.min_eq_left h.hp_le_max, Int.max_eq_right h.hp_nonneg]
  simp only [Character.normalize, Character.setHp, hmax, Int32.ofInt_toInt, hhp, h.ofHp_eq]

/-- Damage keeps vitals agreeing. -/
theorem takeDamage (h : c.Vital) (amount : Int) : (c.takeDamage amount).Vital :=
  setHp _ h.one_le_max

/-- Healing keeps vitals agreeing. -/
theorem heal (h : c.Vital) (amount : Int) : (c.heal amount).Vital := setHp _ h.one_le_max

/-- Vitals brought into range agree. -/
theorem normalize (c : Character) : c.normalize.Vital := by
  have hmax := c.maxHp.toInt_lt
  have hclamped : (Int32.ofInt (max 1 c.maxHp.toInt)).toInt = max 1 c.maxHp.toInt :=
    Int32.toInt_ofInt_of_le (by omega) (by omega)
  apply setHp
  simp only [hclamped]
  omega

/-- A turn of rest keeps vitals agreeing. -/
theorem rests {threshold : UInt32} {done : Regeneration} (h : c.Vital)
    (hrests : c.Rests threshold d done) : d.Vital := by
  cases hrests with
  | ineligible => exact h
  | counting => exact h.of_same ⟨rfl, rfl, rfl⟩
  | healed => exact setHp _ h.one_le_max

/-! ## New characters -/

/-- A bare character has vitals that agree, with a maximum that hit points can hold. -/
theorem bare (name race calling : String) {maxHp : Int} (h : maxHp < 2147483648) :
    (Character.bare name race calling maxHp).Vital := by
  have hmax : (Int32.ofInt (max 1 maxHp)).toInt = max 1 maxHp :=
    Int32.toInt_ofInt_of_le (by omega) (by omega)
  refine ⟨?_, ?_, Int.le_refl _, ?_⟩ <;> simp only [Character.bare, hmax]
  · omega
  · omega
  · simp only [reduceCtorEq, false_iff]
    omega

private theorem hitDie_le {name : String} {k : Calling} (h : Calling.ofName? name = some k) :
    k.hitDie ≤ 12 := by
  obtain ⟨before, after, ht, -⟩ := List.lookup_eq_some_iff.mp h
  have hall : ∀ p ∈ Calling.table, p.2.hitDie ≤ 12 := by decide
  exact hall (Text.lower (Text.trim name), k) (by rw [ht]; simp)

private theorem modifier_le (score : UInt8) : AbilityScores.modifier score ≤ 122 := by
  have hlt := score.toNat_lt
  unfold AbilityScores.modifier
  rw [Int.fdiv_eq_ediv_of_nonneg _ (by decide)]
  omega

private theorem hitPoints_lt (calling : String) (score : UInt8) :
    Recipe.hitPoints calling (AbilityScores.modifier score) < 2147483648 := by
  have hmod := modifier_le score
  unfold Recipe.hitPoints
  cases hk : Calling.ofName? calling with
  | none =>
    simp only
    omega
  | some k =>
    have hdie := hitDie_le hk
    simp only
    omega

/-- The character of a recipe has vitals that agree. -/
theorem make {r : Recipe} (h : r.make = .ok c) : c.Vital := by
  unfold Recipe.make at h
  cases hv : r.validate with
  | error e =>
    rw [hv] at h
    cases h
  | ok =>
    rw [hv] at h
    cases h
    exact (bare r.name r.race r.calling (hitPoints_lt r.calling _)).of_same ⟨rfl, rfl, rfl⟩

/-! ## Characters from documents -/

private theorem character? {d : Document} (h : Sheet.character? d = some c) : c.Vital := by
  obtain ⟨raw, -, rfl⟩ := Option.map_eq_some_iff.mp h
  exact normalize raw

/-- The character of a sheet has vitals that agree. -/
theorem ofSheet {text : String} (h : Sheet.read text = .ok c) : c.Vital := by
  unfold Sheet.read at h
  cases hp : Document.parseWhole? text with
  | none =>
    rw [hp] at h
    cases h
  | some d =>
    rw [hp] at h
    cases d with
    | object fields =>
      simp only [Sheet.ofDocument] at h
      split at h
      · cases h
      · split at h
        · next hc =>
          cases h
          exact character? hc
        · cases h
    | _ => cases h

private theorem forall_of_mapM {α β : Type} {p : β → Prop} {f : α → Option β}
    (hf : ∀ a b, f a = some b → p b) {as : List α} {bs : List β} (h : as.mapM f = some bs) :
    ∀ b ∈ bs, p b := by
  replace h := mapM_eq_some_iff.mp h
  induction h with
  | nil => simp
  | cons hb _ ih => exact List.forall_mem_cons.mpr ⟨hf _ _ hb, ih⟩

/-- The characters of a saved game have vitals that agree. -/
theorem ofSavedGame {text : String} {g : SavedGame} (h : SavedGame.read text = .ok g) :
    ∀ c ∈ g.characters, c.Vital := by
  obtain ⟨⟨d, hd⟩, -⟩ := SavedGame.exists_of_read h
  cases d with
  | array items => exact forall_of_mapM (fun _ _ => character?) hd
  | _ => cases hd

end Vital

/-- A property that depends on the vitals of a character alone, and that damage and rest do not
end. -/
structure Lasting (p : Character → Prop) : Prop where
  of_eq : ∀ {c d : Character}, p c → d.maxHp = c.maxHp → d.currentHp = c.currentHp →
    d.status = c.status → p d
  takeDamage : ∀ {c : Character} (amount : Int), p c → p (c.takeDamage amount)
  rests : ∀ {c d : Character} {threshold : UInt32} {done : Regeneration}, p c →
    c.Rests threshold d done → p d

/-- That vitals agree outlasts damage and rest. -/
theorem lasting_vital : Lasting Vital where
  of_eq h hmax hhp hstatus := h.of_same ⟨hmax, hhp, hstatus⟩
  takeDamage amount h := h.takeDamage amount
  rests h hrests := h.rests hrests

end Character

end Tabletop
