import Mathlib.Data.List.Forall2
import Tabletop.Document.Reader
import Tabletop.Document.Record

/-!
# What readers accept

Which documents the readers accept, said of the documents alone: a declared name stands once among
the fields or not at all, and a document that is taken as a whole has no broken part and is nested
no deeper than allowed.
-/

namespace Tabletop

/-- A list is taken over as a whole when each of its items is. -/
theorem mapM_eq_some_iff {α β : Type} {f : α → Option β} {as : List α} {bs : List β} :
    as.mapM f = some bs ↔ List.Forall₂ (fun a b => f a = some b) as bs := by
  induction as generalizing bs with
  | nil =>
    rw [List.mapM_nil, List.forall₂_nil_left_iff]
    exact ⟨fun h => (Option.some.inj h).symm, fun h => congrArg some h.symm⟩
  | cons a as ih =>
    simp only [List.mapM_cons, Option.bind_eq_bind, Option.bind_eq_some_iff]
    constructor
    · rintro ⟨b, hb, bs, hbs, h⟩
      cases h
      exact .cons hb (ih.mp hbs)
    · rintro (_ | ⟨ha, has⟩)
      exact ⟨_, ha, _, ih.mpr has, rfl⟩

/-- A list is not taken over when one of its items is not. -/
theorem mapM_eq_none_iff {α β : Type} {f : α → Option β} {as : List α} :
    as.mapM f = none ↔ ∃ a ∈ as, f a = none := by
  induction as with
  | nil => simp
  | cons a as ih =>
    rw [List.exists_mem_cons_iff, ← ih]
    cases ha : f a with
    | none => simp [ha]
    | some b => cases has : as.mapM f <;> simp [ha, has]

namespace Document

/-! ## Fields -/

/-- One field alone has the name, and it has the value. -/
def Only (fields : List (String × Document)) (key : String) (d : Document) : Prop :=
  (fields.filter fun f => f.1 == key) = [(key, d)]

/-- No field has the name. -/
def Lacks (fields : List (String × Document)) (key : String) : Prop := ∀ f ∈ fields, f.1 ≠ key

section

variable {fields : List (String × Document)} {key : String} {d : Document}

private theorem occurrences_eq_length (fields : List (String × Document)) (key : String) :
    occurrences key fields = (fields.filter fun f => f.1 == key).length :=
  List.countP_eq_length_filter

theorem Only.occurrences_eq (h : Only fields key d) : occurrences key fields = 1 := by
  rw [occurrences_eq_length, h, List.length_singleton]

theorem Lacks.occurrences_eq (h : Lacks fields key) : occurrences key fields = 0 := by
  rw [occurrences, List.countP_eq_zero]
  exact fun f hf => by simpa using h f hf

/-- The value of a name is that of the first field with the name. -/
private theorem fieldOf?_eq_head? (fields : List (String × Document)) (key : String) :
    fieldOf? fields key = (fields.filter fun f => f.1 == key).head?.map Prod.snd := by
  induction fields with
  | nil => rfl
  | cons f fields ih =>
    obtain ⟨name, e⟩ := f
    rw [fieldOf?, List.lookup_cons, List.filter_cons]
    by_cases h : name = key
    · simp [h]
    · have hne : (key == name) = false := beq_eq_false_iff_ne.mpr (Ne.symm h)
      rw [hne, beq_eq_false_iff_ne.mpr h]
      exact ih

theorem fieldOf?_eq_none_iff : fieldOf? fields key = none ↔ Lacks fields key := by
  simp [fieldOf?_eq_head?, Lacks]

/-- A name that does not stand twice has a value exactly when it stands once. -/
theorem fieldOf?_eq_some_iff (honce : occurrences key fields ≤ 1) :
    fieldOf? fields key = some d ↔ Only fields key d := by
  rw [occurrences_eq_length] at honce
  rw [fieldOf?_eq_head?, Only]
  cases hfilter : fields.filter fun f => f.1 == key with
  | nil => simp
  | cons f rest =>
    have hrest : rest = [] := by
      rw [hfilter, List.length_cons] at honce
      exact List.length_eq_zero_iff.mp (by omega)
    have hkey : f.1 = key := by
      have hf : f ∈ fields.filter fun f => f.1 == key := hfilter ▸ List.mem_cons_self
      simpa using (List.mem_filter.mp hf).2
    subst hrest hkey
    simp [Prod.ext_iff]

/-- An object is a record if no declared name stands twice. -/
theorem keyed?_object_eq_some_iff {keys : List String} {r : Record} :
    keyed? keys (.object fields) = some r ↔
      (∀ key ∈ keys, occurrences key fields ≤ 1) ∧ r = ⟨fieldOf? fields⟩ := by
  have hall : (keys.all fun key => occurrences key fields ≤ 1) = true ↔
      ∀ key ∈ keys, occurrences key fields ≤ 1 := by simp
  rw [keyed?, ← hall]
  split
  · next h => exact ⟨fun hr => ⟨h, (Option.some.inj hr).symm⟩, fun hr => congrArg some hr.2.symm⟩
  · next h => exact ⟨nofun, fun hr => absurd hr.1 h⟩

/-- An array is a record if it has no more items than there are names. -/
private theorem record?_array_eq_some_iff {keys : List String} {items : List Document}
    {r : Record} :
    record? keys (.array items) = some r ↔
      items.length ≤ keys.length ∧ r = ⟨fun key => items[keys.idxOf key]?⟩ := by
  rw [record?]
  split
  · next h => exact ⟨fun hr => ⟨h, (Option.some.inj hr).symm⟩, fun hr => congrArg some hr.2.symm⟩
  · next h => exact ⟨nofun, fun hr => absurd hr.1 h⟩

/-- What a document has under a declared name: in an object the value of the only field with the
name, or nothing where there is no such field; in an array that is not longer than the list of names
the item at the place of the name. -/
inductive Has (keys : List String) : Document → String → Option Document → Prop
  | only {fields : List (String × Document)} {key : String} {d : Document} :
    Only fields key d → Has keys (.object fields) key (some d)
  | missing {fields : List (String × Document)} {key : String} :
    Lacks fields key → Has keys (.object fields) key none
  | item {items : List Document} (key : String) : items.length ≤ keys.length →
    Has keys (.array items) key items[keys.idxOf key]?

variable {keys : List String} {r : Record}

/-- A record has what its document has under the declared names. -/
theorem get?_eq_iff (hr : record? keys d = some r) (hkey : key ∈ keys) {v : Option Document} :
    r.get? key = v ↔ Has keys d key v := by
  cases d with
  | object fields =>
    obtain ⟨honce, rfl⟩ := keyed?_object_eq_some_iff.mp hr
    cases v with
    | none => exact fieldOf?_eq_none_iff.trans ⟨.missing, fun | .missing h => h⟩
    | some e => exact (fieldOf?_eq_some_iff (honce key hkey)).trans ⟨.only, fun | .only h => h⟩
  | array items =>
    obtain ⟨hlength, rfl⟩ := record?_array_eq_some_iff.mp hr
    exact ⟨fun h => h ▸ .item key hlength, fun | .item _ _ => rfl⟩
  | _ => cases hr

/-- A document is a record if it has something, or nothing, under every declared name. -/
theorem exists_record? (hkeys : keys ≠ []) (h : ∀ key ∈ keys, ∃ v, Has keys d key v) :
    ∃ r, record? keys d = some r := by
  obtain ⟨key, hkey⟩ := List.exists_mem_of_ne_nil keys hkeys
  obtain ⟨v, hv⟩ := h key hkey
  cases d with
  | object fields =>
    refine ⟨_, keyed?_object_eq_some_iff.mpr ⟨fun name hname => ?_, rfl⟩⟩
    obtain ⟨w, hw⟩ := h name hname
    cases hw with
    | only hw => exact Nat.le_of_eq hw.occurrences_eq
    | missing hw => exact hw.occurrences_eq ▸ Nat.zero_le 1
  | array items =>
    cases hv with
    | item _ hlength => exact ⟨_, record?_array_eq_some_iff.mpr ⟨hlength, rfl⟩⟩
  | _ => cases hv

variable {α : Type} {f : Document → Option α} {a : α}

/-- A field that has to be there has a value that is accepted. -/
theorem required?_eq_some_iff (hr : record? keys d = some r) (hkey : key ∈ keys) :
    r.required? key f = some a ↔ ∃ e, Has keys d key (some e) ∧ f e = some a := by
  simp only [Record.required?, Option.bind_eq_some_iff, get?_eq_iff hr hkey]

/-- A field that may be missing has a value that is accepted, or is missing. -/
theorem withDefault?_eq_some_iff (hr : record? keys d = some r) (hkey : key ∈ keys)
    {fallback : α} :
    r.withDefault? key fallback f = some a ↔
      (∃ e, Has keys d key (some e) ∧ f e = some a) ∨ Has keys d key none ∧ fallback = a := by
  simp only [← get?_eq_iff hr hkey, Record.withDefault?]
  cases r.get? key with
  | none => simp
  | some e => simp

end

/-! ## Values -/

section

variable {α : Type} {d : Document}

theorem text?_eq_some_iff {s : String} : text? d = some s ↔ d = .text s := by
  cases d <;> simp [text?]

theorem orNull?_text?_eq_some_iff {s : Option String} :
    orNull? text? d = some s ↔ d = .textOrNull s := by
  cases d <;> cases s <;> simp [orNull?, text?, textOrNull]

/-- A count is a natural number of at most 64 bits. -/
theorem count?_eq_some_iff {n : Nat} : count? d = some n ↔ d = .nat n ∧ n < UInt64.size := by
  unfold count? natBelow? intWithin? nat
  constructor
  · intro h
    obtain ⟨i, hi, rfl⟩ := Option.map_eq_some_iff.mp h
    split at hi
    · split at hi
      · next hrange =>
        cases hi
        refine ⟨?_, by omega⟩
        rw [Int.toNat_of_nonneg hrange.1]
      · cases hi
    · cases hi
  · rintro ⟨rfl, hn⟩
    have hrange : 0 ≤ (n : Int) ∧ (n : Int) < UInt64.size := by omega
    simp only [if_pos hrange, Option.map_some, Int.toNat_natCast]

/-- A list is an array of items that are accepted one by one. -/
theorem listOf?_eq_some_iff {f : Document → Option α} {as : List α} :
    listOf? f d = some as ↔
      ∃ items, d = .array items ∧ List.Forall₂ (fun e a => f e = some a) items as := by
  cases d with
  | array items =>
    rw [listOf?, mapM_eq_some_iff]
    exact ⟨fun h => ⟨items, rfl, h⟩, fun ⟨_, rfl, h⟩ => h⟩
  | _ => exact ⟨nofun, nofun⟩

end

/-! ## Documents taken as a whole -/

/-- A document without broken parts, nested no deeper than allowed. -/
inductive Intact : Nat → Document → Prop
  | null {depth : Nat} : Intact depth .null
  | bool {depth : Nat} (b : Bool) : Intact depth (.bool b)
  | number {depth : Nat} (n : Numeric) : Intact depth (.number n)
  | text {depth : Nat} (s : String) : Intact depth (.text s)
  | array {depth : Nat} {items : List Document} :
    (∀ d ∈ items, Intact depth d) → Intact (depth + 1) (.array items)
  | object {depth : Nat} {fields : List (String × Document)} :
    (∀ f ∈ fields, Intact depth f.2) → Intact (depth + 1) (.object fields)

mutual

/-- A document settles exactly when it is intact. -/
theorem isSome_settle?_iff (depth : Nat) (d : Document) :
    (settle? depth d).isSome = true ↔ Intact depth d := by
  cases d with
  | null => exact ⟨fun _ => .null, fun _ => rfl⟩
  | bool b => exact ⟨fun _ => .bool b, fun _ => rfl⟩
  | number n => exact ⟨fun _ => .number n, fun _ => rfl⟩
  | text s => exact ⟨fun _ => .text s, fun _ => rfl⟩
  | broken => exact ⟨nofun, nofun⟩
  | array items =>
    cases depth with
    | zero => exact ⟨nofun, nofun⟩
    | succ depth =>
      rw [settle?, if_neg (Nat.succ_ne_zero depth), Option.isSome_map, Nat.add_sub_cancel,
        isSome_settleItems?_iff depth items]
      exact ⟨.array, fun | .array h => h⟩
  | object fields =>
    cases depth with
    | zero => exact ⟨nofun, nofun⟩
    | succ depth =>
      rw [settle?, if_neg (Nat.succ_ne_zero depth), Option.isSome_map, Nat.add_sub_cancel,
        isSome_settleFields?_iff depth [] fields]
      exact ⟨.object, fun | .object h => h⟩

private theorem isSome_settleItems?_iff (depth : Nat) (items : List Document) :
    (settleItems? depth items).isSome = true ↔ ∀ d ∈ items, Intact depth d := by
  cases items with
  | nil => simp [settleItems?]
  | cons d items =>
    rw [List.forall_mem_cons, ← isSome_settle?_iff depth d, ← isSome_settleItems?_iff depth items]
    cases hd : settle? depth d with
    | none => simp [settleItems?, hd]
    | some e => cases hitems : settleItems? depth items <;> simp [settleItems?, hd, hitems]

private theorem isSome_settleFields?_iff (depth : Nat) (done fields : List (String × Document)) :
    (settleFields? depth done fields).isSome = true ↔ ∀ f ∈ fields, Intact depth f.2 := by
  cases fields with
  | nil => simp [settleFields?]
  | cons f fields =>
    obtain ⟨key, d⟩ := f
    rw [List.forall_mem_cons, ← isSome_settle?_iff depth d]
    cases hd : settle? depth d with
    | none => simp [settleFields?, hd]
    | some e =>
      rw [settleFields?, hd]
      simpa using isSome_settleFields?_iff depth (insertField key e done) fields

end

end Document

end Tabletop
