import Tabletop.Proofs.Document.Conveying
import Tabletop.Proofs.Party.Vitals
import Tabletop.Save.Sheet

/-!
# Character sheets read back

The document of a character whose vitals agree conveys that character, with all its belongings.
-/

namespace Tabletop.Sheet

open Document (Conveys)

/-- Coins are read back. -/
theorem conveys_ofWallet (depth : Nat) (w : Wallet) :
    Conveys (depth + 1) (ofWallet w) wallet? w := by
  have hgold := Conveys.word depth w.gold
  have hsilver := Conveys.word depth w.silver
  have hcopper := Conveys.word depth w.copper
  refine .record (by simp) ?_ fun r hr => ?_
  · simp only [List.forall_mem_cons]
    exact ⟨hgold.sound, hsilver.sound, hcopper.sound, List.forall_mem_nil _⟩
  · rw [hr.withDefault? rfl hgold, hr.withDefault? rfl hsilver, hr.withDefault? rfl hcopper]
    rfl

theorem conveys_ofScores (depth : Nat) (s : AbilityScores) :
    Conveys (depth + 1) (ofScores s) scores? s := by
  have hscore := Conveys.byte depth
  refine .record (by simp) ?_ fun r hr => ?_
  · simp only [List.forall_mem_cons]
    exact ⟨(hscore _).sound, (hscore _).sound, (hscore _).sound, (hscore _).sound,
      (hscore _).sound, (hscore _).sound, List.forall_mem_nil _⟩
  · rw [hr.required? rfl (hscore s.strength), hr.required? rfl (hscore s.dexterity),
      hr.required? rfl (hscore s.constitution), hr.required? rfl (hscore s.intelligence),
      hr.required? rfl (hscore s.wisdom), hr.required? rfl (hscore s.charisma)]
    rfl

/-- The fields of an item. -/
private def keyedItem? (d : Document) : Option Item := do
  let r ← d.keyed? ["name", "tag"]
  return ⟨← r.required? "name" Document.text?,
    ← r.withDefault? "tag" none (Document.orNull? Document.text?)⟩

private theorem item?_of_keyedItem? {d : Document} {i : Item} (h : keyedItem? d = some i) :
    item? d = some i := by
  cases d with
  | text s => cases h
  | _ => exact h

theorem conveys_ofItem (depth : Nat) (i : Item) :
    Conveys (depth + 1) (ofItem i) item? i := by
  obtain ⟨name, tag⟩ := i
  have hname := Conveys.text depth name
  suffices h : Conveys (depth + 1) (ofItem ⟨name, tag⟩) keyedItem? ⟨name, tag⟩ from
    h.of_reads fun _ => item?_of_keyedItem?
  cases tag with
  | none =>
    refine .keyed (by simp) ?_ fun r hr => ?_
    · simp only [List.forall_mem_cons]
      exact ⟨hname.sound, List.forall_mem_nil _⟩
    · rw [hr.required? rfl hname, hr.withDefault?_absent rfl]
      rfl
  | some tag =>
    have htag := (Conveys.text depth tag).orNull rfl
    refine .keyed (by simp) ?_ fun r hr => ?_
    · simp only [List.forall_mem_cons]
      exact ⟨hname.sound, htag.sound, List.forall_mem_nil _⟩
    · rw [hr.required? rfl hname, hr.withDefault? rfl htag]
      rfl

theorem conveys_ofSlot (depth : Nat) (slot : Option Item) :
    Conveys (depth + 1) (ofSlot slot) (Document.orNull? item?) slot := by
  cases slot with
  | none => exact .null _ _
  | some i => exact (conveys_ofItem depth i).orNull rfl

theorem conveys_ofStatus (depth : Nat) (s : Status) :
    Conveys depth (ofStatus s) (Document.named? statusNames) s := by
  cases s <;> exact .named depth rfl

private theorem conveys_raw (depth : Nat) (c : Character) :
    Conveys (depth + 3) (ofCharacter c) rawCharacter? c := by
  have htext := Conveys.text (depth + 2)
  have hint := Conveys.int32 (depth + 2)
  have hstats := conveys_ofScores (depth + 1) c.stats
  have hstatus := conveys_ofStatus (depth + 2) c.status
  have hwallet := conveys_ofWallet (depth + 1) c.wallet
  have hinventory := Conveys.list fun i (_ : i ∈ c.inventory) => conveys_ofItem depth i
  have hslot := conveys_ofSlot (depth + 1)
  have hcounter := Conveys.word (depth + 2) c.regenCounter
  refine .record (by simp) ?_ fun r hr => ?_
  · simp only [List.forall_mem_cons]
    exact ⟨(htext _).sound, (htext _).sound, (htext _).sound, (htext _).sound, (htext _).sound,
      (htext _).sound, hstats.sound, (hint _).sound, (hint _).sound, (hint _).sound,
      hstatus.sound, hwallet.sound, hinventory.sound, (hslot _).sound, (hslot _).sound,
      hcounter.sound, (htext _).sound, List.forall_mem_nil _⟩
  · rw [hr.required? rfl (htext c.name), hr.required? rfl (htext c.race),
      hr.required? rfl (htext c.calling), hr.withDefault? rfl (htext c.gender),
      hr.withDefault? rfl (htext c.background), hr.withDefault? rfl (htext c.alignment),
      hr.required? rfl hstats, hr.required? rfl (hint c.maxHp),
      hr.required? rfl (hint c.currentHp), hr.withDefault? rfl (hint c.armorClass),
      hr.withDefault? rfl hstatus, hr.withDefault? rfl hwallet, hr.withDefault? rfl hinventory,
      hr.withDefault? rfl (hslot c.weapon), hr.withDefault? rfl (hslot c.armor),
      hr.withDefault? rfl hcounter, hr.withDefault? rfl (htext c.notes)]
    rfl

/-- A character whose vitals agree is read back as it is. -/
theorem conveys_ofCharacter (depth : Nat) {c : Character} (h : c.Vital) :
    Conveys (depth + 3) (ofCharacter c) character? c :=
  (conveys_raw depth c).of_reads fun e he => by
    rw [character?, he, Option.map_some, h.normalize_eq]

end Tabletop.Sheet
