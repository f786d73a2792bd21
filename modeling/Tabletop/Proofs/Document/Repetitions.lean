import Tabletop.Proofs.Document.Accepting
import Tabletop.Proofs.Document.Settling

/-!
# Repeated fields

Where a name stands several times among the fields of an object, the last of them is found once the
object is settled.
-/

namespace Tabletop.Document

/-- The last field with the name has the value. -/
def Last (fields : List (String × Document)) (key : String) (d : Document) : Prop :=
  ∃ before after, fields = before ++ (key, d) :: after ∧ Lacks after key

variable {fields done out : List (String × Document)} {f : String × Document} {key : String}
  {d : Document} {depth : Nat}

theorem lacks_cons_iff : Lacks (f :: fields) key ↔ f.1 ≠ key ∧ Lacks fields key :=
  List.forall_mem_cons

/-- A name stands among fields, and then one of them is the last, or it does not. -/
theorem lacks_or_last (fields : List (String × Document)) (key : String) :
    Lacks fields key ∨ ∃ d, Last fields key d := by
  induction fields with
  | nil => exact .inl (List.forall_mem_nil _)
  | cons f fields ih =>
    rcases ih with hlacks | ⟨d, before, after, rfl, hafter⟩
    · by_cases hkey : f.1 = key
      · subst hkey
        exact .inr ⟨f.2, [], fields, rfl, hlacks⟩
      · exact .inl (lacks_cons_iff.mpr ⟨hkey, hlacks⟩)
    · exact .inr ⟨d, f :: before, after, rfl, hafter⟩

/-- The last field with a name is the only one exactly if the name stands once. -/
theorem Last.only_iff (h : Last fields key d) :
    Only fields key d ↔ occurrences key fields = 1 := by
  constructor
  · intro honly
    exact honly.occurrences_eq
  · intro honce
    obtain ⟨before, after, rfl, hafter⟩ := h
    have hbefore : before.filter (fun f => f.1 == key) = [] := by
      rw [← List.length_eq_zero_iff, ← List.countP_eq_length_filter]
      simp only [occurrences, List.countP_append, List.countP_cons, beq_self_eq_true,
        if_true] at honce
      omega
    have hafter' : after.filter (fun f => f.1 == key) = [] := by
      rw [List.filter_eq_nil_iff]
      intro f hf
      simpa using hafter f hf
    rw [Only, List.filter_append, hbefore, List.filter_cons, hafter']
    simp

/-- The only field with a name is the last. -/
theorem Only.last (h : Only fields key d) : Last fields key d := by
  rcases lacks_or_last fields key with hlacks | ⟨e, hlast⟩
  · have hone := h.occurrences_eq
    rw [hlacks.occurrences_eq] at hone
    cases hone
  · have honly := hlast.only_iff.mpr h.occurrences_eq
    rw [Only, h] at honly
    cases honly
    exact hlast

/-- What is found among settled fields: the last field with the name, or what was found before. -/
private theorem fieldOf?_settleFields? (h : settleFields? depth done fields = some out) :
    (Lacks fields key → fieldOf? out key = fieldOf? done key) ∧
      ∀ d, Last fields key d → ∃ e, settle? depth d = some e ∧ fieldOf? out key = some e := by
  induction fields generalizing done with
  | nil =>
    cases h
    refine ⟨fun _ => rfl, ?_⟩
    rintro d ⟨before, after, hnil, -⟩
    exact absurd hnil.symm (List.append_ne_nil_of_right_ne_nil _ (List.cons_ne_nil _ _))
  | cons f fields ih =>
    obtain ⟨name, value⟩ := f
    simp only [settleFields?, Option.bind_eq_bind, Option.bind_eq_some_iff] at h
    obtain ⟨e, he, hrest⟩ := h
    obtain ⟨hlacks, hlast⟩ := ih hrest
    constructor
    · intro hcons
      obtain ⟨hname, hfields⟩ := lacks_cons_iff.mp hcons
      rw [hlacks hfields, fieldOf?_insertField, if_neg (Ne.symm hname)]
    · rintro d ⟨before, after, heq, hafter⟩
      cases before with
      | nil =>
        cases heq
        refine ⟨e, he, ?_⟩
        rw [hlacks hafter, fieldOf?_insertField, if_pos rfl]
      | cons g before =>
        cases heq
        exact hlast d ⟨before, after, rfl, hafter⟩

/-- In a settled object the last field with a name is found. -/
theorem fieldOf?_of_settle? {e : Document} (h : settle? (depth + 1) (.object fields) = some e) :
    ∃ out, e = .object out ∧ (Lacks fields key → fieldOf? out key = none) ∧
      ∀ d, Last fields key d → ∃ e, settle? depth d = some e ∧ fieldOf? out key = some e := by
  rw [settle?, if_neg (Nat.succ_ne_zero depth), Nat.add_sub_cancel] at h
  obtain ⟨out, hout, rfl⟩ := Option.map_eq_some_iff.mp h
  exact ⟨out, rfl, fieldOf?_settleFields? hout⟩

/-- Only a text is a text once it is settled. -/
theorem settle?_eq_text_iff {s : String} : settle? depth d = some (.text s) ↔ d = .text s := by
  cases d with
  | array items | object fields =>
    rw [settle?]
    split
    · exact ⟨nofun, nofun⟩
    · simp
  | _ => simp [settle?]

end Tabletop.Document
