import Mathlib.Data.List.Nodup
import Tabletop.Document.Reader
import Tabletop.Document.Record

/-!
# Objects settled

Settling an object whose fields have different names sorts the fields and settles their values: each
name still stands once, and with its value. Among sorted fields a field can be replaced.
-/

namespace Tabletop.Document

variable {fields done : List (String × Document)} {depth : Nat}

/-! ## Fields put in their places -/

theorem fieldOf?_cons (f : String × Document) (fields : List (String × Document)) (key : String) :
    fieldOf? (f :: fields) key = if key = f.1 then some f.2 else fieldOf? fields key := by
  rw [fieldOf?, List.lookup_cons]
  by_cases h : key = f.1
  · simp [h]
  · rw [beq_false_of_ne h, if_neg h, fieldOf?]

/-- A name is not found where all fields have others. -/
private theorem fieldOf?_eq_none {name : String} (h : name ∉ fields.map Prod.fst) :
    fieldOf? fields name = none := by
  rw [fieldOf?, List.lookup_eq_none_iff]
  exact fun f hf => by simpa using fun heq => h (List.mem_map.mpr ⟨f, hf, heq.symm⟩)

/-- What is found is a field. -/
theorem mem_of_fieldOf? {key : String} {d : Document} (h : fieldOf? fields key = some d) :
    (key, d) ∈ fields := by
  obtain ⟨before, after, rfl, -⟩ := List.lookup_eq_some_iff.mp h
  exact List.mem_append_right before List.mem_cons_self

/-- Of fields with different names each is found. -/
theorem fieldOf?_of_mem (h : (fields.map Prod.fst).Nodup) {f : String × Document}
    (hf : f ∈ fields) : fieldOf? fields f.1 = some f.2 := by
  induction fields with
  | nil => cases hf
  | cons g fields ih =>
    obtain ⟨hg, hfields⟩ := List.nodup_cons.mp h
    rw [fieldOf?_cons]
    rcases List.mem_cons.mp hf with rfl | hf
    · rw [if_pos rfl]
    · rw [if_neg fun heq => hg (List.mem_map.mpr ⟨f, hf, heq⟩)]
      exact ih hfields hf

/-- A field put in its place is found there, and all others where they were. -/
theorem fieldOf?_insertField (name : String) (d : Document) (fields : List (String × Document))
    (key : String) :
    fieldOf? (insertField name d fields) key =
      if key = name then some d else fieldOf? fields key := by
  induction fields with
  | nil => rw [insertField, fieldOf?_cons]
  | cons f fields ih =>
    obtain ⟨k, e⟩ := f
    rw [insertField]
    split
    · rw [fieldOf?_cons]
    · split
      · next hk =>
        subst hk
        rw [fieldOf?_cons, fieldOf?_cons]
        by_cases h : key = name <;> simp [h]
      · next hk =>
        rw [fieldOf?_cons, ih, fieldOf?_cons]
        by_cases h : key = k
        · have hne : key ≠ name := fun he => hk (he.symm.trans h)
          simp [h, h ▸ hne]
        · simp [h]

private theorem mem_insertField {name : String} {d : Document} {f : String × Document}
    (h : f ∈ insertField name d fields) : f = (name, d) ∨ f ∈ fields := by
  induction fields with
  | nil => exact .inl (List.mem_singleton.mp h)
  | cons g fields ih =>
    obtain ⟨k, e⟩ := g
    rw [insertField] at h
    split at h
    · exact (List.mem_cons.mp h)
    · split at h
      · exact (List.mem_cons.mp h).imp_right (List.mem_cons_of_mem _)
      · rcases List.mem_cons.mp h with rfl | h
        · exact .inr List.mem_cons_self
        · exact (ih h).imp_right (List.mem_cons_of_mem _)

/-- Of fields with different names those are found that are kept. -/
theorem fieldOf?_filter (h : (fields.map Prod.fst).Nodup) (p : String × Document → Bool)
    (key : String) :
    fieldOf? (fields.filter p) key = (fieldOf? fields key).filter fun d => p (key, d) := by
  induction fields with
  | nil => rfl
  | cons f fields ih =>
    obtain ⟨name, d⟩ := f
    obtain ⟨hname, hfields⟩ := List.nodup_cons.mp h
    have hfind := ih hfields
    rw [List.filter_cons, fieldOf?_cons]
    by_cases hkey : key = name
    · subst hkey
      rw [fieldOf?_eq_none hname] at hfind
      rw [if_pos rfl, Option.filter_some]
      split
      · rw [fieldOf?_cons, if_pos rfl]
      · exact hfind
    · rw [if_neg hkey, ← hfind]
      split
      · rw [fieldOf?_cons, if_neg hkey]
      · rfl

/-! ## Sorted fields -/

/-- The fields stand in the order of their names, no name twice. -/
def Sorted (fields : List (String × Document)) : Prop := fields.Pairwise fun f g => f.1 < g.1

namespace Sorted

theorem nodup (h : Sorted fields) : (fields.map Prod.fst).Nodup :=
  List.pairwise_map.mpr (h.imp String.ne_of_lt)

theorem filter (h : Sorted fields) (p : String × Document → Bool) : Sorted (fields.filter p) :=
  List.Pairwise.filter p h

/-- A field put in its place among sorted fields leaves them sorted. -/
theorem insertField (h : Sorted fields) (name : String) (d : Document) :
    Sorted (insertField name d fields) := by
  induction fields with
  | nil => exact List.pairwise_singleton _ _
  | cons f fields ih =>
    obtain ⟨k, e⟩ := f
    obtain ⟨hk, hfields⟩ := List.pairwise_cons.mp h
    rw [Document.insertField]
    split
    · next hlt =>
      refine List.pairwise_cons.mpr ⟨List.forall_mem_cons.mpr ⟨hlt, fun g hg => ?_⟩, h⟩
      exact String.lt_trans hlt (hk g hg)
    · next hlt =>
      split
      · next heq => exact List.pairwise_cons.mpr ⟨fun g hg => heq ▸ hk g hg, hfields⟩
      · next hne =>
        have hgt : k < name := Std.lt_of_le_of_ne (String.not_lt.mp hlt) (Ne.symm hne)
        refine List.pairwise_cons.mpr ⟨fun g hg => ?_, ih hfields⟩
        rcases mem_insertField hg with rfl | hg
        · exact hgt
        · exact hk g hg

end Sorted

/-! ## Settling -/

-- By induction on the fields still to come, whose names differ from each other. One that is among
-- those in their places already would replace it.
private theorem exists_settleFields? (hkeys : (fields.map Prod.fst).Nodup) (hdone : Sorted done)
    (h : ∀ f ∈ fields, ∃ e, settle? depth f.2 = some e) :
    ∃ out, settleFields? depth done fields = some out ∧ Sorted out ∧
      ∀ key, fieldOf? out key =
        ((fieldOf? fields key).bind (settle? depth)).or (fieldOf? done key) := by
  induction fields generalizing done with
  | nil => exact ⟨done, rfl, hdone, fun _ => rfl⟩
  | cons f fields ih =>
    obtain ⟨name, d⟩ := f
    obtain ⟨hname, hfields⟩ := List.nodup_cons.mp hkeys
    obtain ⟨⟨e, he⟩, hsettles⟩ := List.forall_mem_cons.mp h
    obtain ⟨out, hout, hsorted, hfind⟩ := ih hfields (hdone.insertField name e) hsettles
    refine ⟨out, ?_, hsorted, fun key => ?_⟩
    · simp only [settleFields?, he, Option.bind_eq_bind, Option.bind_some, hout]
    · rw [hfind, fieldOf?_insertField, fieldOf?_cons]
      by_cases hkey : key = name
      · subst hkey
        simp [fieldOf?_eq_none hname, he]
      · simp [hkey]

/-- An object whose fields have different names and values that settle has them all when it is
settled, sorted. -/
theorem exists_settle?_object (hkeys : (fields.map Prod.fst).Nodup)
    (h : ∀ f ∈ fields, ∃ e, settle? depth f.2 = some e) :
    ∃ out, settle? (depth + 1) (.object fields) = some (.object out) ∧ Sorted out ∧
      ∀ key, fieldOf? out key = (fieldOf? fields key).bind (settle? depth) := by
  have hnone : Sorted [] := .nil
  obtain ⟨out, hout, hsorted, hfind⟩ := exists_settleFields? hkeys hnone h
  refine ⟨out, ?_, hsorted, fun key => ?_⟩
  · rw [settle?, if_neg (Nat.succ_ne_zero depth), Nat.add_sub_cancel, hout, Option.map_some]
  · rw [hfind]
    exact Option.or_none

end Tabletop.Document
