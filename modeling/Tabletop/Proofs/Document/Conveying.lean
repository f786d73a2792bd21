import Mathlib.Data.List.Forall2
import Tabletop.Proofs.Document.Accepting
import Tabletop.Proofs.Document.Parsing
import Tabletop.Proofs.Document.Settling

/-!
# Documents that convey values

A document conveys a value to a reader if its text can be read back and the reader finds the value
in it once it is settled. What the parts of a list or a record convey, the whole conveys.
-/

namespace Tabletop.Document

/-- A document whose text is read back, and that settles. -/
structure Sound (depth : Nat) (d : Document) : Prop where
  plain : Plain d
  settles : ∃ e, settle? depth d = some e

/-- A document in which a reader finds a value once it is settled. -/
structure Conveys {α : Type} (depth : Nat) (d : Document) (read : Document → Option α) (a : α) :
    Prop where
  plain : Plain d
  reads : ∃ e, settle? depth d = some e ∧ read e = some a

variable {α β : Type} {depth : Nat} {d : Document} {read : Document → Option α} {a : α}

theorem sound_iff : Sound depth d ↔ Plain d ∧ Intact depth d := by
  rw [← isSome_settle?_iff, Option.isSome_iff_exists]
  exact ⟨fun h => ⟨h.plain, h.settles⟩, fun h => ⟨h.1, h.2⟩⟩

theorem sound_array_iff {items : List Document} :
    Sound (depth + 1) (.array items) ↔ ∀ d ∈ items, Sound depth d := by
  simp only [sound_iff, plain_array_iff]
  constructor
  · rintro ⟨hplain, hintact⟩ d hd
    cases hintact with
    | array hintact => exact ⟨hplain d hd, hintact d hd⟩
  · exact fun h => ⟨fun d hd => (h d hd).1, .array fun d hd => (h d hd).2⟩

theorem sound_object_iff {fields : List (String × Document)} :
    Sound (depth + 1) (.object fields) ↔ ∀ f ∈ fields, Sound depth f.2 := by
  simp only [sound_iff, plain_object_iff]
  constructor
  · rintro ⟨hplain, hintact⟩ f hf
    cases hintact with
    | object hintact => exact ⟨hplain f hf, hintact f hf⟩
  · exact fun h => ⟨fun f hf => (h f hf).1, .object fun f hf => (h f hf).2⟩

namespace Conveys

theorem sound (h : Conveys depth d read a) : Sound depth d := by
  obtain ⟨e, he, -⟩ := h.reads
  exact ⟨h.plain, e, he⟩

/-- A reader that finds what another one finds. -/
theorem of_reads {other : Document → Option α} (h : Conveys depth d read a)
    (hother : ∀ e, read e = some a → other e = some a) : Conveys depth d other a := by
  obtain ⟨e, he, hread⟩ := h.reads
  exact ⟨h.plain, e, he, hother e hread⟩

/-- A text that holds a document is taken as a whole for what the document conveys. -/
theorem exists_parseWhole? {s : String} (h : Conveys maxDepth d read a) (hs : parse? s = some d) :
    ∃ e, parseWhole? s = some e ∧ read e = some a := by
  obtain ⟨e, he, hread⟩ := h.reads
  refine ⟨e, ?_, hread⟩
  rw [parseWhole?, hs]
  exact he

/-! ## Values -/

theorem text (depth : Nat) (s : String) : Conveys depth (.text s) text? s :=
  ⟨.text s, .text s, rfl, rfl⟩

/-- A count below a bound of at most 64 bits. -/
private theorem natBelow {n bound : Nat} (depth : Nat) (hn : n < bound)
    (hbound : bound ≤ UInt64.size) : Conveys depth (.nat n) (natBelow? bound) n := by
  have hreads : natBelow? bound (.nat n) = some n := by
    have hlt : (n : Int) < bound := by omega
    simp [natBelow?, intWithin?, nat, hlt]
  exact ⟨.int (by omega) (by omega), .nat n, rfl, hreads⟩

/-- What is made of what is read. -/
private theorem map {f : α → β} (h : Conveys depth d read a) :
    Conveys depth d (fun d => (read d).map f) (f a) := by
  obtain ⟨e, he, hread⟩ := h.reads
  exact ⟨h.plain, e, he, by rw [hread, Option.map_some]⟩

theorem count {n : Nat} (depth : Nat) (h : n < UInt64.size) : Conveys depth (.nat n) count? n :=
  natBelow depth h (Nat.le_refl _)

theorem byte (depth : Nat) (n : UInt8) : Conveys depth (.nat n.toNat) byte? n := by
  have h := (natBelow depth n.toNat_lt (by decide)).map (f := UInt8.ofNat)
  rwa [UInt8.ofNat_toNat] at h

theorem word (depth : Nat) (n : UInt32) : Conveys depth (.nat n.toNat) word? n := by
  have h := (natBelow depth n.toNat_lt (by decide)).map (f := UInt32.ofNat)
  rwa [UInt32.ofNat_toNat] at h

theorem int32 (depth : Nat) (i : Int32) : Conveys depth (.int i.toInt) int32? i := by
  have hlow := i.le_toInt
  have hhigh := i.toInt_lt
  have hrange : -2147483648 ≤ i.toInt ∧ i.toInt < 2147483648 := by omega
  have hsize : (UInt64.size : Int) = 18446744073709551616 := rfl
  have hreads : int32? (.int i.toInt) = some i := by
    simp [int32?, intWithin?, int, hrange]
  exact ⟨.int (by omega) (by omega), .int i.toInt, rfl, hreads⟩

theorem named {names : List (String × α)} {s : String} (depth : Nat) (h : names.lookup s = some a) :
    Conveys depth (.text s) (named? names) a :=
  ⟨.text s, .text s, rfl, h⟩

theorem null (depth : Nat) (read : Document → Option α) :
    Conveys depth .null (orNull? read) none :=
  ⟨.null, .null, rfl, rfl⟩

/-- A value that may be null and is not, to a reader that reads no null. -/
theorem orNull (h : Conveys depth d read a) (hnull : read .null = none) :
    Conveys depth d (orNull? read) (some a) := by
  obtain ⟨e, he, hread⟩ := h.reads
  refine ⟨h.plain, e, he, ?_⟩
  unfold orNull?
  split
  · rw [hnull] at hread
    cases hread
  · rw [hread, Option.map_some]

/-! ## Lists -/

private theorem exists_settleItems? {read : Document → Option β} {ds : List Document} {xs : List β}
    (h : List.Forall₂ (fun d x => Conveys depth d read x) ds xs) :
    (∀ d ∈ ds, Plain d) ∧ ∃ es, settleItems? depth ds = some es ∧ es.mapM read = some xs := by
  induction h with
  | nil => exact ⟨List.forall_mem_nil _, [], rfl, rfl⟩
  | cons hx _ ih =>
    obtain ⟨e, he, hread⟩ := hx.reads
    obtain ⟨hplain, es, hes, hreads⟩ := ih
    refine ⟨List.forall_mem_cons.mpr ⟨hx.plain, hplain⟩, e :: es, ?_, ?_⟩
    · simp [settleItems?, he, hes]
    · simp [List.mapM_cons, hread, hreads]

/-- An array conveys the list of what its items convey. -/
theorem array {read : Document → Option β} {ds : List Document} {xs : List β}
    (h : List.Forall₂ (fun d x => Conveys depth d read x) ds xs) :
    Conveys (depth + 1) (.array ds) (listOf? read) xs := by
  obtain ⟨hplain, es, hes, hreads⟩ := exists_settleItems? h
  refine ⟨.array hplain, .array es, ?_, hreads⟩
  rw [settle?, if_neg (Nat.succ_ne_zero depth), Nat.add_sub_cancel, hes, Option.map_some]

theorem list {write : β → Document} {read : Document → Option β} {xs : List β}
    (h : ∀ x ∈ xs, Conveys depth (write x) read x) :
    Conveys (depth + 1) (.array (xs.map write)) (listOf? read) xs :=
  .array (List.forall₂_map_left_iff.mpr (List.forall₂_same.mpr h))

end Conveys

/-! ## Records -/

/-- An object whose names stand once each is a record. -/
theorem keyed?_object (keys : List String) {fields : List (String × Document)}
    (h : Sorted fields) : keyed? keys (.object fields) = some ⟨fieldOf? fields⟩ := by
  have honce (key : String) : occurrences key fields ≤ 1 := by
    have hone := List.nodup_iff_count_le_one.mp h.nodup key
    rwa [List.count, List.countP_map] at hone
  simp [keyed?, honce]

/-- It is one too where arrays would do. -/
theorem record?_object (keys : List String) {fields : List (String × Document)}
    (h : Sorted fields) : record? keys (.object fields) = some ⟨fieldOf? fields⟩ :=
  keyed?_object keys h

/-- A record that has the settled values of fields. -/
def Record.Holds (r : Record) (depth : Nat) (fields : List (String × Document)) : Prop :=
  ∀ key, r.get? key = (fieldOf? fields key).bind (settle? depth)

namespace Record

variable {r : Record} {fields : List (String × Document)} {key : String}

/-- What a field conveys is found in the record. -/
theorem Holds.exists_get? (hr : r.Holds depth fields) (hd : fieldOf? fields key = some d)
    (h : Conveys depth d read a) : ∃ e, r.get? key = some e ∧ read e = some a := by
  obtain ⟨e, he, hread⟩ := h.reads
  exact ⟨e, by rw [hr key, hd, Option.bind_some, he], hread⟩

theorem Holds.required? (hr : r.Holds depth fields) (hd : fieldOf? fields key = some d)
    (h : Conveys depth d read a) : r.required? key read = some a := by
  obtain ⟨e, he, hread⟩ := hr.exists_get? hd h
  rw [Record.required?, he, Option.bind_some, hread]

theorem Holds.withDefault? (hr : r.Holds depth fields) (hd : fieldOf? fields key = some d)
    (h : Conveys depth d read a) (fallback : α) : r.withDefault? key fallback read = some a := by
  obtain ⟨e, he, hread⟩ := hr.exists_get? hd h
  rw [Record.withDefault?, he]
  exact hread

theorem Holds.withDefault?_absent (hr : r.Holds depth fields) (hd : fieldOf? fields key = none)
    (read : Document → Option α) (fallback : α) :
    r.withDefault? key fallback read = some fallback := by
  rw [Record.withDefault?, hr key, hd]
  rfl

end Record

namespace Conveys

variable {fields : List (String × Document)} {keys : List String} {build : Record → Option α}

/-- Fields with different names convey what a reader finds in any sorted fields that have the same
settled values. -/
theorem object (hkeys : (fields.map Prod.fst).Nodup) (h : ∀ f ∈ fields, Sound depth f.2)
    (hread : ∀ out, Sorted out → Record.Holds ⟨fieldOf? out⟩ depth fields →
      read (.object out) = some a) :
    Conveys (depth + 1) (.object fields) read a := by
  obtain ⟨out, hout, hsorted, hfind⟩ := exists_settle?_object hkeys fun f hf => (h f hf).settles
  exact ⟨.object fun f hf => (h f hf).plain, .object out, hout, hread out hsorted hfind⟩

/-- A record that is read from objects alone. -/
theorem keyed (hkeys : (fields.map Prod.fst).Nodup) (h : ∀ f ∈ fields, Sound depth f.2)
    (hbuild : ∀ r : Record, r.Holds depth fields → build r = some a) :
    Conveys (depth + 1) (.object fields) (fun d => (keyed? keys d).bind build) a :=
  .object hkeys h fun out hsorted hr => by
    rw [keyed?_object keys hsorted]
    exact hbuild _ hr

/-- A record that is read from objects and arrays. -/
theorem record (hkeys : (fields.map Prod.fst).Nodup) (h : ∀ f ∈ fields, Sound depth f.2)
    (hbuild : ∀ r : Record, r.Holds depth fields → build r = some a) :
    Conveys (depth + 1) (.object fields) (fun d => (record? keys d).bind build) a :=
  .object hkeys h fun out hsorted hr => by
    rw [record?_object keys hsorted]
    exact hbuild _ hr

end Conveys

end Tabletop.Document
