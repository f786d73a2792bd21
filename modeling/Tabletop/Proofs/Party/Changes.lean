import Tabletop.Party.Roster

/-!
# Changes of a party

What each change of a party does when it succeeds: which members it is about, and the party that
comes of it.
-/

namespace Tabletop

/-! ## Operations that succeed -/

/-- What is made of something that comes about is made of what came about. -/
theorem exists_of_map {ε α β : Type} {x : Except ε α} {f : α → β} {b : β} (h : x.map f = .ok b) :
    ∃ a, x = .ok a ∧ f a = b := by
  cases x with
  | error e => cases h
  | ok a => cases h; exact ⟨a, rfl, rfl⟩

/-- An operation that succeeds in two parts succeeds in each. -/
theorem exists_of_bind {ε α β : Type} {x : Except ε α} {f : α → Except ε β} {b : β}
    (h : x >>= f = .ok b) : ∃ a, x = .ok a ∧ f a = .ok b := by
  cases x with
  | error e => cases h
  | ok a => exact ⟨a, rfl, h⟩

/-- What an operation leaves behind when its error is dropped is what it succeeded with. -/
theorem eq_ok_of_toOption {ε α : Type} {x : Except ε α} {a : α} (h : x.toOption = some a) :
    x = .ok a := by
  cases x with
  | error e => cases h
  | ok b =>
    cases h
    rfl

/-- How errors are told is no matter of success. -/
theorem mapError_eq_ok_iff {ε ε' α : Type} {x : Except ε α} {f : ε → ε'} {a : α} :
    x.mapError f = .ok a ↔ x = .ok a := by
  cases x with
  | error e =>
    constructor <;>
    · intro h
      cases h
  | ok b =>
    constructor <;>
    · intro h
      cases h
      rfl

namespace Roster

variable {r r' : Roster} {c : Character} {index : Nat}

/-! ## Changes that succeed -/

/-- Whoever joins finds room and stands last. -/
theorem push_eq_ok (h : r.push c = .ok r') :
    r.size < r.cap ∧ r' = { r with members := r.members ++ [c] } := by
  unfold push at h
  split at h
  · cases h
  · next hroom =>
    cases h
    exact ⟨by simpa [isFull] using hroom, rfl⟩

/-- Whoever leaves was there; the protagonist's place moves down with those behind, or where it
would be none. -/
theorem remove_eq_ok (h : r.remove index = .ok (c, r')) :
    r.get? index = some c ∧ r' = { r with
      members := r.members.eraseIdx index
      main := if index < r.main ∨ (r.members.eraseIdx index).length ≤ r.main then r.main - 1
        else r.main } := by
  unfold remove at h
  split at h
  · cases h
  · next hc =>
    cases h
    exact ⟨hc, rfl⟩

/-- The old version of a member gives way to the new one. -/
theorem replace_eq_ok {old : Character} (h : r.replace index c = .ok (old, r')) :
    r.get? index = some old ∧ r' = { r with members := r.members.set index c } := by
  unfold replace at h
  split at h
  · cases h
  · next hc =>
    cases h
    exact ⟨hc, rfl⟩

/-- An operation on a member puts what it makes of the member in the member's place. -/
theorem update_eq_ok {α : Type} {f : Character → Except RosterError (α × Character)} {a : α}
    (h : r.update index f = .ok (a, r')) :
    ∃ c d, r.get? index = some c ∧ f c = .ok (a, d) ∧
      r' = { r with members := r.members.set index d } := by
  unfold update at h
  cases hc : r.get? index with
  | none =>
    rw [hc] at h
    cases h
  | some c =>
    rw [hc] at h
    obtain ⟨⟨_, d⟩, hf, hr⟩ := exists_of_bind h
    cases hr
    exact ⟨c, d, rfl, hf, rfl⟩

/-- A change of a member that cannot fail. -/
theorem modify_eq_ok {f : Character → Character} (h : r.modify index f = .ok r') :
    ∃ c, r.get? index = some c ∧ r' = { r with members := r.members.set index (f c) } := by
  unfold modify at h
  split at h
  · cases h
  · next c hc =>
    cases h
    exact ⟨c, hc, rfl⟩

/-- The protagonist goes first. -/
theorem confirmProtagonist_eq_ok (h : r.confirmProtagonist index = .ok r') :
    ∃ c, r.get? index = some c ∧
      r' = { r with members := c :: r.members.eraseIdx index, main := 0 } := by
  unfold confirmProtagonist at h
  split at h
  · cases h
  · next c hc =>
    cases h
    exact ⟨c, hc, rfl⟩

/-- An item that changes hands is taken from one member and given to another. -/
theorem transfer_eq_ok {giver taker : Nat} {place : ItemPlace} {item : Item}
    (h : r.transfer giver place taker = .ok (item, r')) :
    ∃ given, (r.update giver fun c => (c.takeItem place).mapError .item) = .ok (item, given) ∧
      given.modify taker (·.gain item) = .ok r' := by
  unfold transfer at h
  dsimp only at h
  split at h
  · cases h
  · split at h
    · cases h
    · obtain ⟨⟨i, given⟩, hgive, h⟩ := exists_of_bind h
      obtain ⟨taken, htake, h⟩ := exists_of_bind h
      cases h
      exact ⟨given, hgive, htake⟩

/-- An item changes hands among as many members as before. -/
theorem size_of_transfer {giver taker : Nat} {place : ItemPlace} {item : Item}
    (h : r.transfer giver place taker = .ok (item, r')) : r'.size = r.size := by
  obtain ⟨given, hgive, htake⟩ := transfer_eq_ok h
  obtain ⟨c, d, -, -, rfl⟩ := update_eq_ok hgive
  obtain ⟨e, -, rfl⟩ := modify_eq_ok htake
  simp [size]

/-- A party of given members is one if it keeps within its cap and the protagonist is a member,
unless there are no members. -/
theorem ofMembers_eq_ok_iff {members : List Character} {main cap : Nat} :
    ofMembers members main cap = .ok r ↔
      members.length ≤ max 1 cap ∧ (members ≠ [] → main < members.length) ∧
        r = ⟨members, main, max 1 cap⟩ := by
  unfold ofMembers
  dsimp only
  by_cases hcap : max 1 cap < members.length
  · rw [if_pos hcap]
    simp [Nat.not_le.mpr hcap]
  · have hle : members.length ≤ max 1 cap := Nat.le_of_not_lt hcap
    rw [if_neg hcap]
    cases members with
    | nil => simp [eq_comm]
    | cons c members =>
      rw [List.length_cons] at hle
      by_cases hmain : main < members.length + 1
      · simp [hle, hmain, Nat.not_le.mpr hmain, eq_comm]
      · simp [hmain, Nat.not_lt.mp hmain]

end Roster

end Tabletop
