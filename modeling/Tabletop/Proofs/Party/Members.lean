import Tabletop.Proofs.Party.Changes

/-!
# Properties of all members

A property that every member of a party has is kept by what changes the party, if those who join
have it and changes to a single member keep it.
-/

namespace Tabletop.Roster

/-- Every member of a party has a property. -/
def All (p : Character → Prop) (r : Roster) : Prop := ∀ c ∈ r.members, p c

namespace All

variable {p : Character → Prop} {r r' : Roster} {c : Character} {index : Nat}

/-- The member at a place has the property. -/
theorem get? (h : r.All p) (hc : r.get? index = some c) : p c := h c (List.mem_of_getElem? hc)

/-- A member with the property may take a place. -/
theorem set (h : r.All p) (hc : p c) :
    ({ r with members := r.members.set index c } : Roster).All p := by
  intro d hd
  rcases List.mem_or_eq_of_mem_set hd with hd | rfl
  · exact h d hd
  · exact hc

/-- A party without members has every property. -/
theorem empty (cap : Nat) : (Roster.empty cap).All p := by
  intro c hc
  cases hc

/-- A member with the property may stand last. -/
theorem concat (h : r.All p) (hc : p c) :
    ({ r with members := r.members ++ [c] } : Roster).All p := by
  intro d hd
  rcases List.mem_append.mp hd with hd | hd
  · exact h d hd
  · rw [List.mem_singleton.mp hd]
    exact hc

/-- A member with the property may join. -/
theorem push (h : r.All p) (hc : p c) (hr : r.push c = .ok r') : r'.All p := by
  obtain ⟨-, rfl⟩ := push_eq_ok hr
  exact h.concat hc

/-- A member may leave. -/
theorem remove (h : r.All p) (hr : r.remove index = .ok (c, r')) : r'.All p := by
  obtain ⟨-, rfl⟩ := remove_eq_ok hr
  exact fun d hd => h d (List.mem_of_mem_eraseIdx hd)

/-- A member may move to the front. -/
theorem confirmProtagonist (h : r.All p) (hr : r.confirmProtagonist index = .ok r') : r'.All p := by
  obtain ⟨d, hd, rfl⟩ := confirmProtagonist_eq_ok hr
  exact List.forall_mem_cons.mpr ⟨h.get? hd, fun e he => h e (List.mem_of_mem_eraseIdx he)⟩

/-- A member may be changed in a way that keeps the property. -/
theorem modify {f : Character → Character} (h : r.All p) (hf : ∀ c, p c → p (f c))
    (hr : r.modify index f = .ok r') : r'.All p := by
  obtain ⟨d, hd, rfl⟩ := modify_eq_ok hr
  exact h.set (hf d (h.get? hd))

/-- A member may be changed by an operation that keeps the property when it does not fail. -/
theorem update {α : Type} {a : α} {f : Character → Except RosterError (α × Character)}
    (h : r.All p) (hf : ∀ c b d, p c → f c = .ok (b, d) → p d)
    (hr : r.update index f = .ok (a, r')) : r'.All p := by
  obtain ⟨d, e, hd, he, rfl⟩ := update_eq_ok hr
  exact h.set (hf d _ _ (h.get? hd) he)

/-- A party of members with the property has it. -/
theorem ofMembers {members : List Character} {main cap : Nat} (h : ∀ c ∈ members, p c)
    (hr : Roster.ofMembers members main cap = .ok r) : r.All p := by
  obtain ⟨-, -, rfl⟩ := ofMembers_eq_ok_iff.mp hr
  exact h

/-- An item may change hands. -/
theorem transfer {giver taker : Nat} {place : ItemPlace} {item : Item} (h : r.All p)
    (htake : ∀ c i d, p c → c.takeItem place = .ok (i, d) → p d) (hgain : ∀ c i, p c → p (c.gain i))
    (hr : r.transfer giver place taker = .ok (item, r')) : r'.All p := by
  obtain ⟨given, hgive, htaken⟩ := transfer_eq_ok hr
  have hgiven : given.All p :=
    h.update (fun c i d hc hd => htake c i d hc (mapError_eq_ok_iff.mp hd)) hgive
  exact hgiven.modify (fun c hc => hgain c item hc) htaken

end All

/-! ## Names -/

section

variable {r : Roster}

/-- The names of the members in order. -/
def names (r : Roster) : List String := r.members.map Character.name

/-- Members with the names of a party are as many as the party has. -/
theorem length_eq_of_names {members : List Character}
    (h : members.map Character.name = r.names) : members.length = r.size := by
  simpa [names, size] using congrArg List.length h

/-- Another version of a member that keeps the name leaves the names as they are. -/
theorem names_set {index : Nat} {c d : Character} (h : r.get? index = some c)
    (hd : d.name = c.name) : (r.members.set index d).map Character.name = r.names := by
  obtain ⟨hlt, rfl⟩ := List.getElem?_eq_some_iff.mp h
  rw [names, List.map_set, hd, ← List.getElem_map Character.name, List.set_getElem_self]
  simpa using hlt

/-- Who is meant by a name depends on the names of the members alone. -/
theorem findByFirstName?_eq_of_names {r' : Roster} (h : r'.names = r.names) (name : String) :
    r'.findByFirstName? name = r.findByFirstName? name := by
  have hnames (r : Roster) : r.findByFirstName? name = r.names.findIdx? fun full =>
      Text.lower ((Text.words full).headD "") == Text.lower (Text.trim name) := by
    rw [names, List.findIdx?_map]
    rfl
  rw [hnames, hnames, h]

end

end Tabletop.Roster
