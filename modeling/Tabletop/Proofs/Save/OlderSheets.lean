import Tabletop.Proofs.Save.Games

/-!
# Older sheets

A sheet may lack fields, have null for some of them, or call items by their bare names. The fields
that it lacks have their usual values when it is read, and its hit points are the most that can be
had; the status goes by the hit points. A sheet that lacks nothing is read as it was written.
-/

namespace Tabletop

open Document (Conveys Record Sorted Sound fieldOf?)

/-- A character some of whose fields are lost, by their names in a sheet. -/
def Character.without (c : Character) (lost : List String) : Character :=
  let kept {α : Type} (key : String) (value usual : α) : α := if key ∈ lost then usual else value
  let hp := kept "currentHp" c.currentHp c.maxHp
  { c with
    name := kept "name" c.name ""
    gender := kept "gender" c.gender ""
    background := kept "background" c.background ""
    alignment := kept "alignment" c.alignment ""
    currentHp := hp
    armorClass := kept "armorClass" c.armorClass 10
    status := Status.ofHp hp.toInt
    wallet := kept "currency" c.wallet .empty
    inventory := kept "inventory" c.inventory []
    weapon := kept "mainWeapon" c.weapon none
    armor := kept "armor" c.armor none
    regenCounter := kept "regenTurnCounter" c.regenCounter 0
    notes := kept "notes" c.notes "" }

/-- Where nothing is lost, a character whose vitals agree is itself. -/
theorem Character.Vital.without_nil {c : Character} (h : c.Vital) : c.without [] = c := by
  simp only [Character.without, List.not_mem_nil, if_false, h.ofHp_eq]

/-- Vitals agree whatever is lost. -/
theorem Character.Vital.without {c : Character} (h : c.Vital) (lost : List String) :
    (c.without lost).Vital := by
  have hhp : 0 ≤ (c.without lost).currentHp.toInt ∧
      (c.without lost).currentHp.toInt ≤ c.maxHp.toInt := by
    have := h.one_le_max
    simp only [Character.without]
    split
    · exact ⟨by omega, Int.le_refl _⟩
    · exact ⟨h.hp_nonneg, h.hp_le_max⟩
  exact ⟨h.one_le_max, hhp.1, hhp.2, Character.Vital.ofHp_eq_downed_iff hhp.1⟩

namespace Sheet

/-- The fields that a sheet may lack. -/
def spareKeys : List String :=
  ["name", "gender", "background", "alignment", "armorClass", "status", "currency", "inventory",
   "mainWeapon", "armor", "regenTurnCounter", "notes", "currentHp"]

/-- The fields that may be null instead. -/
def nullableKeys : List String := ["currentHp", "inventory", "mainWeapon", "armor", "currency"]

/-- The form that an item has in a sheet: as it is written, or, without a tag, its bare name. -/
inductive ItemForm : Document → Document → Prop
  | same (d : Document) : ItemForm d d
  | bare (name : String) : ItemForm (ofItem (.plain name)) (.text name)

/-- The form that the value of a field has in a sheet. -/
inductive ValueForm (key : String) : Document → Document → Prop
  | same (d : Document) : ValueForm key d d
  | slot {d e : Document} : key ∈ ["mainWeapon", "armor"] → ItemForm d e → ValueForm key d e
  | inventory {ds es : List Document} :
    key = "inventory" → List.Forall₂ ItemForm ds es → ValueForm key (.array ds) (.array es)

/-- What a sheet has under the name of a field, where some fields are lost: a lost one is missing,
or null stands for it. -/
inductive FieldForm (lost : List String) (key : String) (d : Document) : Option Document → Prop
  | missing : key ∈ lost → FieldForm lost key d none
  | null : key ∈ lost → key ∈ nullableKeys → FieldForm lost key d (some .null)
  | kept {e : Document} : key ∉ lost → ValueForm key d e → FieldForm lost key d (some e)

/-- An older form of a sheet. Its fields are among those that are written, in any order. -/
inductive Older (lost : List String) : Document → Document → Prop
  | object {fields older : List (String × Document)} : (older.map Prod.fst).Nodup →
    (∀ f ∈ older, f.1 ∈ fields.map Prod.fst) →
    (∀ f ∈ fields, FieldForm lost f.1 f.2 (fieldOf? older f.1)) →
      Older lost (.object fields) (.object older)

/-- A sheet as it is written lacks nothing. -/
private theorem older_self (c : Character) : Older [] (ofCharacter c) (ofCharacter c) := by
  refine .object (by simp) (fun f hf => List.mem_map_of_mem hf) fun f hf => ?_
  rw [Document.fieldOf?_of_mem (by simp) hf]
  exact .kept List.not_mem_nil (.same f.2)

/-! ## Sheets brought to the present form -/

section

variable {fields : List (String × Document)}

/-- A field that is put in its place on some condition. -/
private theorem fieldOf?_insertField_if (p : Prop) [Decidable p] (name : String) (d : Document)
    (key : String) :
    fieldOf? (if p then Document.insertField name d fields else fields) key =
      if p ∧ key = name then some d else fieldOf? fields key := by
  split
  · next h => simp [Document.fieldOf?_insertField, h]
  · next h => simp [h]

private theorem sorted_insertField_if (h : Sorted fields) (p : Prop) [Decidable p] (name : String)
    (d : Document) : Sorted (if p then Document.insertField name d fields else fields) := by
  split
  · exact h.insertField name d
  · exact h

/-- The field counts as missing, because it is null. -/
private def isSpent (key : String) (d : Document) : Bool :=
  optionalKeys.contains key && SavedGame.lacks [(key, d)] key

private theorem isSpent_iff {key : String} {d : Document} :
    isSpent key d = true ↔ key ∈ optionalKeys ∧ d = .null := by
  have hlacks : SavedGame.lacks [(key, d)] key = true ↔ d = .null := by
    rw [SavedGame.lacks, Document.fieldOf?_cons, if_pos rfl]
    cases d <;> simp
  rw [isSpent, Bool.and_eq_true, hlacks, List.contains_iff_mem]

private theorem filter_not_isSpent {key : String} (h : key ∉ optionalKeys)
    (found : Option Document) : (found.filter fun d => !isSpent key d) = found := by
  have hspent (d : Document) : isSpent key d = false :=
    Bool.eq_false_iff.mpr fun hspent => h (isSpent_iff.mp hspent).1
  cases found <;> simp [hspent]

private theorem sorted_modernize (h : Sorted fields) : Sorted (modernize fields) :=
  (sorted_insertField_if (sorted_insertField_if h _ _ _) _ _ _).filter _

private theorem fieldOf?_modernize (h : Sorted fields) (key : String) :
    fieldOf? (modernize fields) key =
      (if SavedGame.lacks fields "currentHp" = true ∧ key = "currentHp" then
        some ((fieldOf? fields "maxHp").getD .null)
      else if (fieldOf? fields "name").isNone = true ∧ key = "name" then some (.text "")
      else fieldOf? fields key).filter fun d => !isSpent key d := by
  -- The hit points are looked for when the name is in its place already.
  have hother {name : String} (hne : name ≠ "name") :
      fieldOf? (if (fieldOf? fields "name").isNone then
        Document.insertField "name" (.text "") fields else fields) name = fieldOf? fields name := by
    rw [fieldOf?_insertField_if, if_neg fun hname => hne hname.2]
  simp only [modernize, SavedGame.lacks, hother (show "currentHp" ≠ "name" by decide),
    hother (show "maxHp" ≠ "name" by decide)]
  rw [Document.fieldOf?_filter, fieldOf?_insertField_if, fieldOf?_insertField_if]
  · rfl
  · exact (sorted_insertField_if (sorted_insertField_if h _ _ _) _ _ _).nodup

end

/-! ## Forms of values -/

section

variable {α : Type} {depth : Nat} {key : String} {d e : Document} {read : Document → Option α}
  {a : α}

/-- Whatever form the value of a field has, it conveys the same to a reader. -/
private def ConveysForms (depth : Nat) (key : String) (d : Document) (read : Document → Option α)
    (a : α) : Prop :=
  ∀ e, ValueForm key d e → Conveys depth e read a

/-- Fields in which there are no items have one form. -/
private theorem conveysForms_of_conveys (h : Conveys depth d read a)
    (hkey : key ∉ ["mainWeapon", "armor", "inventory"]) : ConveysForms depth key d read a := by
  intro e he
  cases he with
  | same => exact h
  | slot hslot => exact absurd (List.mem_append_left ["inventory"] hslot) hkey
  | inventory heq => simp [heq] at hkey

private theorem conveys_itemForm {i : Item} (h : ItemForm (ofItem i) e) :
    Conveys (depth + 1) e item? i := by
  generalize hd : ofItem i = d at h
  cases h with
  | same => exact hd ▸ conveys_ofItem depth i
  | bare name =>
    obtain ⟨_, _ | _⟩ := i
    · cases hd
      exact ⟨.text name, .text name, rfl, rfl⟩
    · cases hd

private theorem conveysForms_ofSlot (depth : Nat) (slot : Option Item) (hkey : key ≠ "inventory") :
    ConveysForms (depth + 1) key (ofSlot slot) (Document.orNull? item?) slot := by
  intro e he
  have hitem : ItemForm (ofSlot slot) e := by
    generalize ofSlot slot = d at he
    cases he with
    | same => exact .same _
    | slot _ h => exact h
    | inventory heq => exact absurd heq hkey
  cases slot with
  | none =>
    generalize hd : ofSlot none = d at hitem
    cases hitem with
    | same => exact hd ▸ .null _ _
    | bare => cases hd
  | some i => exact (conveys_itemForm hitem).orNull rfl

private theorem conveysForms_inventory (depth : Nat) (items : List Item) :
    ConveysForms (depth + 2) "inventory" (.array (items.map ofItem)) (Document.listOf? item?)
      items := by
  intro e he
  obtain ⟨es, rfl, hes⟩ : ∃ es, e = .array es ∧ List.Forall₂ ItemForm (items.map ofItem) es := by
    cases he with
    | same => exact ⟨_, rfl, List.forall₂_same.mpr fun d _ => .same d⟩
    | slot hslot => simp at hslot
    | inventory _ hes => exact ⟨_, rfl, hes⟩
  exact .array ((List.forall₂_map_left_iff.mp hes).imp fun _ _ h => conveys_itemForm h).flip

end

/-! ## Fields of older sheets -/

/-- What a settled sheet has under a name for a reader: the value, unless the field is lost. -/
private inductive Finds {α : Type} (lost : List String) (out : List (String × Document))
    (key : String) (read : Document → Option α) (a : α) : Prop
  | missing : key ∈ lost → fieldOf? out key = none → Finds lost out key read a
  | null : key ∈ lost → key ∈ nullableKeys → fieldOf? out key = some .null →
    Finds lost out key read a
  | kept {e : Document} : key ∉ lost → fieldOf? out key = some e → read e = some a →
    Finds lost out key read a

section

variable {α : Type} {lost : List String} {depth : Nat} {out older : List (String × Document)}
  {key : String} {d : Document} {read : Document → Option α} {a : α}

private theorem finds_of_fieldForm (hr : Record.Holds ⟨fieldOf? out⟩ depth older)
    (hform : FieldForm lost key d (fieldOf? older key))
    (h : ConveysForms depth key d read a) : Finds lost out key read a := by
  have hfield : fieldOf? out key = (fieldOf? older key).bind (Document.settle? depth) := hr key
  generalize fieldOf? older key = found at hform hfield
  cases hform with
  | missing hlost => exact .missing hlost hfield
  | null hlost hnull => exact .null hlost hnull hfield
  | kept hkept he =>
    obtain ⟨e, he, hread⟩ := (h _ he).reads
    exact .kept hkept (hfield.trans he) hread

namespace Finds

variable {usual : α}

/-- What is found once the sheet is brought to the present form: nothing, if the field is lost or
null stands for its value, and otherwise the value. -/
private theorem modernize (h : Finds lost out key read a) (hsorted : Sorted out)
    (hkey : key ∉ ["name", "currentHp"]) :
    fieldOf? (modernize out) key = none ∧ (key ∈ lost ∨ read .null = some a) ∨
      key ∉ lost ∧ ∃ e, fieldOf? (modernize out) key = some e ∧ read e = some a := by
  simp only [List.mem_cons, List.not_mem_nil, or_false, not_or] at hkey
  rw [fieldOf?_modernize hsorted, if_neg fun h => hkey.2 h.2, if_neg fun h => hkey.1 h.2]
  cases h with
  | missing hlost hnone => exact .inl ⟨by rw [hnone]; rfl, .inl hlost⟩
  | null hlost hnullable hfield =>
    have hoptional : key ∈ optionalKeys := (List.mem_cons.mp hnullable).resolve_left hkey.2
    have hspent : isSpent key .null = true := isSpent_iff.mpr ⟨hoptional, rfl⟩
    exact .inl ⟨by simp [hfield, hspent], .inl hlost⟩
  | @kept e hkept hfield hread =>
    -- An empty slot is written as null, which is taken for a missing field.
    by_cases hspent : isSpent key e = true
    · refine .inl ⟨by simp [hfield, hspent], .inr ?_⟩
      rw [← (isSpent_iff.mp hspent).2, hread]
    · exact .inr ⟨hkept, e, by simp [hfield, hspent], hread⟩

/-- A field that may be missing has its usual value if it is lost. -/
private theorem withDefault? (h : Finds lost out key read a) (hsorted : Sorted out)
    (hnull : ∀ b, read .null = some b → b = usual) (hkey : key ∉ ["name", "currentHp"]) :
    Record.withDefault? ⟨fieldOf? (Sheet.modernize out)⟩ key usual read =
      some (if key ∈ lost then usual else a) := by
  simp only [Record.withDefault?]
  rcases h.modernize hsorted hkey with ⟨hnone, hlost | hread⟩ | ⟨hkept, e, hfield, hread⟩
  · rw [hnone, if_pos hlost]
  · rw [hnone, hnull a hread, ite_self]
  · rw [hfield, if_neg hkept]
    exact hread

/-- A field that is not lost and cannot be null is there. -/
private theorem required? (h : Finds lost out key read a) (hsorted : Sorted out)
    (hlost : key ∉ lost) (hnull : read .null = none) (hkey : key ∉ ["name", "currentHp"]) :
    Record.required? ⟨fieldOf? (Sheet.modernize out)⟩ key read = some a := by
  simp only [Record.required?]
  rcases h.modernize hsorted hkey with ⟨-, hlost' | hread⟩ | ⟨-, e, hfield, hread⟩
  · exact absurd hlost' hlost
  · rw [hnull] at hread
    cases hread
  · rw [hfield]
    exact hread

private theorem exists_of_not_mem (h : Finds lost out key read a) (hlost : key ∉ lost) :
    ∃ e, fieldOf? out key = some e ∧ read e = some a := by
  cases h with
  | missing hgone => exact absurd hgone hlost
  | null hgone => exact absurd hgone hlost
  | kept _ hfield hread => exact ⟨_, hfield, hread⟩

private theorem not_lacks (h : Finds lost out key read a) (hlost : key ∉ lost)
    (hnull : read .null = none) : ¬ SavedGame.lacks out key = true := by
  obtain ⟨e, hfield, hread⟩ := h.exists_of_not_mem hlost
  exact SavedGame.not_lacks hfield hread hnull

/-- A name that is lost is empty. -/
private theorem required?_name {name : String} (h : Finds lost out "name" Document.text? name)
    (hsorted : Sorted out) :
    Record.required? ⟨fieldOf? (Sheet.modernize out)⟩ "name" Document.text? =
      some (if "name" ∈ lost then "" else name) := by
  simp only [Record.required?, fieldOf?_modernize hsorted,
    filter_not_isSpent (show "name" ∉ optionalKeys by decide),
    if_neg (show ¬ (SavedGame.lacks out "currentHp" = true ∧ "name" = "currentHp") by simp)]
  cases h with
  | missing hlost hnone =>
    rw [hnone, if_pos hlost]
    rfl
  | null _ hnullable => exact absurd hnullable (by decide)
  | kept hkept hfield hread =>
    rw [hfield, if_neg hkept]
    exact hread

/-- Hit points that are lost are the most that can be had. -/
private theorem required?_currentHp (h : Finds lost out "currentHp" read a) {most : α}
    (hmax : Finds lost out "maxHp" read most) (hsorted : Sorted out) (hlost : "maxHp" ∉ lost)
    (hnull : read .null = none) :
    Record.required? ⟨fieldOf? (Sheet.modernize out)⟩ "currentHp" read =
      some (if "currentHp" ∈ lost then most else a) := by
  simp only [Record.required?, fieldOf?_modernize hsorted,
    filter_not_isSpent (show "currentHp" ∉ optionalKeys by decide), and_true]
  obtain ⟨m, hfound, hmost⟩ := hmax.exists_of_not_mem hlost
  cases h with
  | missing hgone hnone =>
    rw [if_pos (by simp [SavedGame.lacks, hnone]), if_pos hgone, hfound]
    exact hmost
  | null hgone _ hfield =>
    rw [if_pos (by simp [SavedGame.lacks, hfield]), if_pos hgone, hfound]
    exact hmost
  | kept hkept hfield hread =>
    rw [if_neg (SavedGame.not_lacks hfield hread hnull), if_neg hkept]
    simp [hfield, hread]

end Finds

end

/-! ## Older sheets read -/

section

variable {depth : Nat} {key : String} {d e : Document} {lost : List String} {c : Character}

private theorem sound_itemForm (h : ItemForm d e) (hd : Sound depth d) : Sound depth e := by
  cases h with
  | same => exact hd
  | bare name => exact (Conveys.text depth name).sound

private theorem sound_itemForms {ds es : List Document} (h : List.Forall₂ ItemForm ds es)
    (hds : ∀ d ∈ ds, Sound depth d) : ∀ e ∈ es, Sound depth e := by
  induction h with
  | nil => exact hds
  | cons h _ ih =>
    obtain ⟨hd, hds⟩ := List.forall_mem_cons.mp hds
    exact List.forall_mem_cons.mpr ⟨sound_itemForm h hd, ih hds⟩

private theorem sound_valueForm (h : ValueForm key d e) (hd : Sound (depth + 1) d) :
    Sound (depth + 1) e := by
  cases h with
  | same => exact hd
  | slot _ h => exact sound_itemForm h hd
  | inventory _ h =>
    exact Document.sound_array_iff.mpr (sound_itemForms h (Document.sound_array_iff.mp hd))

private theorem sound_fieldForm (h : FieldForm lost key d (some e)) (hd : Sound (depth + 1) d) :
    Sound (depth + 1) e := by
  cases h with
  | null => exact (Conveys.null (depth + 1) Document.text?).sound
  | kept _ h => exact sound_valueForm h hd

/-- What a settled sheet has under the names of the fields of a character. -/
private structure Recalls (lost : List String) (out : List (String × Document)) (c : Character) :
    Prop where
  name : Finds lost out "name" Document.text? c.name
  race : Finds lost out "race" Document.text? c.race
  calling : Finds lost out "characterClass" Document.text? c.calling
  gender : Finds lost out "gender" Document.text? c.gender
  background : Finds lost out "background" Document.text? c.background
  alignment : Finds lost out "alignment" Document.text? c.alignment
  stats : Finds lost out "stats" scores? c.stats
  maxHp : Finds lost out "maxHp" Document.int32? c.maxHp
  currentHp : Finds lost out "currentHp" Document.int32? c.currentHp
  armorClass : Finds lost out "armorClass" Document.int32? c.armorClass
  status : Finds lost out "status" (Document.named? statusNames) c.status
  wallet : Finds lost out "currency" wallet? c.wallet
  inventory : Finds lost out "inventory" (Document.listOf? item?) c.inventory
  weapon : Finds lost out "mainWeapon" (Document.orNull? item?) c.weapon
  armor : Finds lost out "armor" (Document.orNull? item?) c.armor
  regenCounter : Finds lost out "regenTurnCounter" Document.word? c.regenCounter
  notes : Finds lost out "notes" Document.text? c.notes

private theorem recalls_of_finds {fields out : List (String × Document)}
    (hfields : ofCharacter c = .object fields)
    (hfinds : ∀ {α : Type} {key : String} {d : Document} {read : Document → Option α} {a : α},
      fieldOf? fields key = some d → ConveysForms 126 key d read a → Finds lost out key read a) :
    Recalls lost out c := by
  have htext (s : String) {key : String} (h : key ∉ ["mainWeapon", "armor", "inventory"]) :=
    conveysForms_of_conveys (Conveys.text 126 s) h
  have hint (i : Int32) {key : String} (h : key ∉ ["mainWeapon", "armor", "inventory"]) :=
    conveysForms_of_conveys (Conveys.int32 126 i) h
  obtain rfl := Document.object.inj hfields
  exact {
    name := hfinds rfl (htext c.name (by decide))
    race := hfinds rfl (htext c.race (by decide))
    calling := hfinds rfl (htext c.calling (by decide))
    gender := hfinds rfl (htext c.gender (by decide))
    background := hfinds rfl (htext c.background (by decide))
    alignment := hfinds rfl (htext c.alignment (by decide))
    stats := hfinds rfl (conveysForms_of_conveys (conveys_ofScores 125 c.stats) (by decide))
    maxHp := hfinds rfl (hint c.maxHp (by decide))
    currentHp := hfinds rfl (hint c.currentHp (by decide))
    armorClass := hfinds rfl (hint c.armorClass (by decide))
    status := hfinds rfl (conveysForms_of_conveys (conveys_ofStatus 126 c.status) (by decide))
    wallet := hfinds rfl (conveysForms_of_conveys (conveys_ofWallet 125 c.wallet) (by decide))
    inventory := hfinds rfl (conveysForms_inventory 124 c.inventory)
    weapon := hfinds rfl (conveysForms_ofSlot 125 c.weapon (by decide))
    armor := hfinds rfl (conveysForms_ofSlot 125 c.armor (by decide))
    regenCounter :=
      hfinds rfl (conveysForms_of_conveys (Conveys.word 126 c.regenCounter) (by decide))
    notes := hfinds rfl (htext c.notes (by decide)) }

namespace Recalls

variable {out : List (String × Document)}

/-- No field is lacking that a sheet needs. -/
private theorem firstLacking? (h : Recalls lost out c) (hlost : ∀ key ∈ lost, key ∈ spareKeys) :
    SavedGame.firstLacking? neededKeys out = none := by
  have hspare {key : String} (hkey : key ∉ spareKeys) : key ∉ lost := mt (hlost key) hkey
  rw [SavedGame.firstLacking?, List.find?_eq_none]
  simp only [neededKeys, List.forall_mem_cons]
  exact ⟨h.race.not_lacks (hspare (by decide)) rfl, h.calling.not_lacks (hspare (by decide)) rfl,
    h.stats.not_lacks (hspare (by decide)) rfl, h.maxHp.not_lacks (hspare (by decide)) rfl,
    List.forall_mem_nil _⟩

/-- The character is read without what is lost; its status need not go by its hit points yet. -/
private theorem rawCharacter? (h : Recalls lost out c) (hsorted : Sorted out)
    (hlost : ∀ key ∈ lost, key ∈ spareKeys) :
    rawCharacter? (.object (modernize out)) = some { c.without lost with
      status := if "status" ∈ lost then .alive else c.status } := by
  have hspare {key : String} (hkey : key ∉ spareKeys) : key ∉ lost := mt (hlost key) hkey
  change (Document.record? characterKeys (.object (modernize out))).bind _ = _
  rw [Document.record?_object _ (sorted_modernize hsorted), Option.bind_some,
    h.name.required?_name hsorted,
    h.race.required? hsorted (hspare (by decide)) rfl (by decide),
    h.calling.required? hsorted (hspare (by decide)) rfl (by decide),
    h.gender.withDefault? hsorted nofun (by decide),
    h.background.withDefault? hsorted nofun (by decide),
    h.alignment.withDefault? hsorted nofun (by decide),
    h.stats.required? hsorted (hspare (by decide)) rfl (by decide),
    h.maxHp.required? hsorted (hspare (by decide)) rfl (by decide),
    h.currentHp.required?_currentHp h.maxHp hsorted (hspare (by decide)) rfl,
    h.armorClass.withDefault? hsorted nofun (by decide),
    h.status.withDefault? hsorted nofun (by decide),
    h.wallet.withDefault? hsorted nofun (by decide),
    h.inventory.withDefault? hsorted nofun (by decide),
    h.weapon.withDefault? hsorted (fun _ h => (Option.some.inj h).symm) (by decide),
    h.armor.withDefault? hsorted (fun _ h => (Option.some.inj h).symm) (by decide),
    h.regenCounter.withDefault? hsorted nofun (by decide),
    h.notes.withDefault? hsorted nofun (by decide)]
  rfl

end Recalls

/-- An older form of a sheet conveys the character without what is lost. -/
private theorem conveys_older (h : c.Vital) (hlost : ∀ key ∈ lost, key ∈ spareKeys)
    (holder : Older lost (ofCharacter c) e) :
    Conveys (126 + 1) e (fun d => (ofDocument d).toOption) (c.without lost) := by
  generalize hd : ofCharacter c = d at holder
  cases holder with
  | @object fields older hnodup hnames hforms =>
    have hsound : ∀ f ∈ fields, Sound 126 f.2 :=
      Document.sound_object_iff.mp (hd ▸ (conveys_ofCharacter 124 h).sound)
    refine .object hnodup (fun f hf => ?_) fun out hsorted hr => ?_
    · obtain ⟨g, hg, hname⟩ := List.mem_map.mp (hnames f hf)
      have hform := hforms g hg
      rw [hname, Document.fieldOf?_of_mem hnodup hf] at hform
      exact sound_fieldForm hform (hsound g hg)
    · have hrecalls : Recalls lost out c :=
        recalls_of_finds hd fun hd => finds_of_fieldForm hr (hforms _ (Document.mem_of_fieldOf? hd))
      have hcharacter : character? (.object (modernize out)) = some (c.without lost) := by
        rw [character?, hrecalls.rawCharacter? hsorted hlost, Option.map_some]
        exact congrArg some (h.without lost).normalize_eq
      simp only [ofDocument, hrecalls.firstLacking? hlost, hcharacter]
      rfl

end

/-- A sheet of a character whose vitals agree is read as it was written, and in any older form, as
the character without what is lost. -/
theorem read_older {c : Character} (h : c.Vital) :
    read (write c) = .ok c ∧
    ∀ {lost : List String} {older : Document}, (∀ key ∈ lost, key ∈ spareKeys) →
      Older lost (ofCharacter c) older →
        Document.parse? older.indented = some older ∧
        ∀ text, Document.parse? text = some older → read text = .ok (c.without lost) := by
  have holder {lost : List String} {older : Document} (hlost : ∀ key ∈ lost, key ∈ spareKeys)
      (holder : Older lost (ofCharacter c) older) :
      Document.parse? older.indented = some older ∧
      ∀ text, Document.parse? text = some older → read text = .ok (c.without lost) := by
    have hconveys := conveys_older h hlost holder
    refine ⟨Document.parse?_indented hconveys.plain, fun text htext => ?_⟩
    obtain ⟨e, hparse, hread⟩ := hconveys.exists_parseWhole? htext
    rw [read, hparse]
    exact eq_ok_of_toOption hread
  refine ⟨?_, holder⟩
  obtain ⟨hparse, hread⟩ := holder (List.forall_mem_nil _) (older_self c)
  rw [hread (write c) hparse, h.without_nil]

/-- A fighter who is down, in an older sheet: without a name and many other fields, with null for
the hit points, and a bare name in the inventory. The fighter is read in full health. -/
theorem read_older_fighter :
    let tom := { Character.bare "Tom" "Human" "Fighter" 20 with
      currentHp := 0, status := .downed, armorClass := 16, notes := "Old."
      inventory := [.plain "Rope", .tagged "Lamp" "light"] }
    let older : Document := .object
      [("race", .text "Human"), ("characterClass", .text "Fighter"), ("stats", ofScores .average),
       ("maxHp", .int 20), ("currentHp", .null), ("mainWeapon", .null),
       ("inventory", .array [.text "Rope", ofItem (.tagged "Lamp" "light")])]
    tom.Vital ∧ read (write tom) = .ok tom ∧
      Document.parse? older.indented = some older ∧
      read older.indented = .ok { tom with
        name := "", currentHp := 20, status := .alive, armorClass := 10, notes := "" } := by
  intro tom older
  have hvital : tom.Vital := ⟨by decide, by decide, by decide, by decide⟩
  let lost := ["name", "gender", "background", "alignment", "armorClass", "status", "currency",
    "armor", "regenTurnCounter", "notes", "currentHp"]
  have hinventory : List.Forall₂ ItemForm (tom.inventory.map ofItem)
      [.text "Rope", ofItem (.tagged "Lamp" "light")] :=
    .cons (.bare "Rope") (.cons (.same _) .nil)
  have holder : Older lost (ofCharacter tom) older := by
    refine .object (by decide) (by decide) ?_
    simp only [List.forall_mem_cons]
    exact ⟨.missing (by decide), .kept (by decide) (.same _), .kept (by decide) (.same _),
      .missing (by decide), .missing (by decide), .missing (by decide),
      .kept (by decide) (.same _), .kept (by decide) (.same _), .null (by decide) (by decide),
      .missing (by decide), .missing (by decide), .missing (by decide),
      .kept (by decide) (.inventory rfl hinventory), .kept (by decide) (.same _),
      .missing (by decide), .missing (by decide), .missing (by decide), List.forall_mem_nil _⟩
  obtain ⟨hwritten, hread⟩ := read_older hvital
  obtain ⟨hparse, hread⟩ := hread (show ∀ key ∈ lost, key ∈ spareKeys by decide) holder
  exact ⟨hvital, hwritten, hparse, hread older.indented hparse⟩

end Sheet

end Tabletop
