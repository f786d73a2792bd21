import Tabletop.Proofs.Party.Changes

/-!
# The protagonist's place

A party never has more members than its cap, whatever is done to it, and a party with members keeps
the protagonist's place among them. A party without members has no place for a protagonist; if one
other than the first is written down for it all the same, the first member who joins does not stand
there.
-/

namespace Tabletop.Roster

/-- A change of a party. -/
inductive Change : Type 1 where
  | push (c : Character)
  | remove (index : Nat)
  | replace (index : Nat) (c : Character)
  | update {α : Type} (index : Nat) (f : Character → Except RosterError (α × Character))
  | confirmProtagonist (index : Nat)
  | transfer (giver : Nat) (place : ItemPlace) (taker : Nat)

/-- The party after a change, unless the change fails. -/
def attempt (r : Roster) : Change → Except RosterError Roster
  | .push c => r.push c
  | .remove index => (r.remove index).map Prod.snd
  | .replace index c => (r.replace index c).map Prod.snd
  | .update index f => (r.update index f).map Prod.snd
  | .confirmProtagonist index => r.confirmProtagonist index
  | .transfer giver place taker => (r.transfer giver place taker).map Prod.snd

/-- The party after changes; one that fails leaves it as it is. -/
def changed (r : Roster) (changes : List Change) : Roster :=
  changes.foldl (fun r change => (r.attempt change).toOption.getD r) r

/-- A party as it comes into being: empty, or of given members if that does not fail. -/
inductive Founded : Roster → Prop
  | empty (cap : Nat) : Founded (.empty cap)
  | ofMembers {members : List Character} {main cap : Nat} {r : Roster} :
    Roster.ofMembers members main cap = .ok r → Founded r

/-- The party keeps within its cap. -/
def Fits (r : Roster) : Prop := r.size ≤ r.cap

/-- The protagonist's place is that of a member, and the first one in a party without members. -/
def Seated (r : Roster) : Prop := r.main ≤ r.size - 1

variable {r r' : Roster} {change : Change}

/-! ## One change -/

/-- The party after a change that succeeds has the same cap, and as many members and the same place
for the protagonist as before, unless somebody joins, leaves or goes first. -/
private theorem counts_of_attempt (h : r.attempt change = .ok r') :
    r'.cap = r.cap ∧
      ((r'.size = r.size ∧ (r'.main = r.main ∨ r'.main = 0)) ∨
        (r.size < r.cap ∧ r'.size = r.size + 1 ∧ r'.main = r.main) ∨
          (r'.size = r.size - 1 ∧ ∃ index < r.size,
            r'.main = if index < r.main ∨ r.size - 1 ≤ r.main then r.main - 1 else r.main)) := by
  have hset (r : Roster) (index : Nat) (c : Character) :
      ({ r with members := r.members.set index c } : Roster).size = r.size := List.length_set
  have herase {index : Nat} {c : Character} (hc : r.get? index = some c) :
      index < r.size ∧ (r.members.eraseIdx index).length = r.size - 1 := by
    have hlt : index < r.members.length := (List.getElem?_eq_some_iff.mp hc).1
    exact ⟨hlt, List.length_eraseIdx_of_lt hlt⟩
  cases change with
  | push c =>
    obtain ⟨hroom, rfl⟩ := push_eq_ok h
    exact ⟨rfl, .inr (.inl ⟨hroom, List.length_append, rfl⟩)⟩
  | remove index =>
    obtain ⟨⟨c, left⟩, hr, rfl⟩ := exists_of_map h
    obtain ⟨hc, rfl⟩ := remove_eq_ok hr
    obtain ⟨hlt, hlength⟩ := herase hc
    exact ⟨rfl, .inr (.inr ⟨hlength, index, hlt, by rw [← hlength]⟩)⟩
  | replace index c =>
    obtain ⟨⟨old, replaced⟩, hr, rfl⟩ := exists_of_map h
    obtain ⟨-, rfl⟩ := replace_eq_ok hr
    exact ⟨rfl, .inl ⟨hset r index c, .inl rfl⟩⟩
  | update index f =>
    obtain ⟨⟨result, updated⟩, hr, rfl⟩ := exists_of_map h
    obtain ⟨c, d, -, -, rfl⟩ := update_eq_ok hr
    exact ⟨rfl, .inl ⟨hset r index d, .inl rfl⟩⟩
  | confirmProtagonist index =>
    obtain ⟨c, hc, rfl⟩ := confirmProtagonist_eq_ok h
    obtain ⟨hlt, hlength⟩ := herase hc
    refine ⟨rfl, .inl ⟨?_, .inr rfl⟩⟩
    rw [size, List.length_cons, hlength]
    omega
  | transfer giver place taker =>
    obtain ⟨⟨item, taken⟩, hr, rfl⟩ := exists_of_map h
    obtain ⟨given, hgive, htake⟩ := transfer_eq_ok hr
    obtain ⟨c, d, -, -, rfl⟩ := update_eq_ok hgive
    obtain ⟨e, -, rfl⟩ := modify_eq_ok htake
    exact ⟨rfl, .inl ⟨(hset _ taker _).trans (hset r giver d), .inl rfl⟩⟩

private theorem fits_of_attempt (hr : r.Fits) (h : r.attempt change = .ok r') : r'.Fits := by
  obtain ⟨hcap, hcounts⟩ := counts_of_attempt h
  rw [Fits] at hr ⊢
  rcases hcounts with ⟨hsize, -⟩ | ⟨hroom, hsize, -⟩ | ⟨hsize, -⟩ <;> omega

/-- A change that succeeds keeps the protagonist's place. -/
theorem seated_of_attempt (hr : r.Seated) (h : r.attempt change = .ok r') : r'.Seated := by
  obtain ⟨-, hcounts⟩ := counts_of_attempt h
  rw [Seated] at hr ⊢
  rcases hcounts with ⟨hsize, hmain | hmain⟩ | ⟨-, hsize, hmain⟩ | ⟨hsize, index, hlt, hmain⟩
  · omega
  · omega
  · omega
  · rw [hsize, hmain]
    split <;> omega

/-! ## Any changes -/

/-- What every change that succeeds keeps, any changes keep. -/
private theorem changed_induction {p : Roster → Prop}
    (hstep : ∀ r r' change, p r → r.attempt change = .ok r' → p r') (h : p r)
    (changes : List Change) : p (r.changed changes) := by
  induction changes generalizing r with
  | nil => exact h
  | cons change changes ih =>
    apply ih
    cases hr : r.attempt change with
    | error e => simpa [hr, Except.toOption] using h
    | ok r' => simpa [hr, Except.toOption] using hstep r r' change h hr

private theorem cap_changed (r : Roster) (changes : List Change) :
    (r.changed changes).cap = r.cap :=
  changed_induction (p := fun r' => r'.cap = r.cap)
    (fun _ _ _ h hr => (counts_of_attempt hr).1.trans h) rfl changes

private theorem seated_iff (h : r.isEmpty = false) : r.Seated ↔ r.protagonist?.isSome = true := by
  have hpos : r.size ≠ 0 := by
    simpa [isEmpty, size] using h
  have hsome : r.protagonist?.isSome = true ↔ r.main < r.size := by
    simp [protagonist?, get?, size]
  rw [hsome, Seated]
  omega

private theorem Founded.counts (h : r.Founded) :
    r.Fits ∧ 0 < r.cap ∧ (r.isEmpty = false → r.Seated) := by
  cases h with
  | empty cap =>
    refine ⟨Nat.zero_le _, ?_, fun _ => Nat.zero_le _⟩
    exact Nat.lt_of_lt_of_le Nat.one_pos (Nat.le_max_left 1 cap)
  | ofMembers h =>
    obtain ⟨hfits, hmain, rfl⟩ := ofMembers_eq_ok_iff.mp h
    refine ⟨hfits, Nat.lt_of_lt_of_le Nat.one_pos (Nat.le_max_left ..), fun hne => ?_⟩
    have hlt := hmain (by simpa [isEmpty] using hne)
    exact Nat.le_sub_one_of_lt hlt

/-- Whatever is done to a party, its cap stays and it keeps within it. Whenever it has members, one
of them is the protagonist, exactly if it did not start without members and with another place for
the protagonist than the first. -/
theorem protagonist?_changed_iff (h : r.Founded) :
    (∀ changes, (r.changed changes).cap = r.cap ∧ (r.changed changes).size ≤ r.cap) ∧
      ((∀ changes, (r.changed changes).isEmpty = false →
          (r.changed changes).protagonist?.isSome = true) ↔
        (r.isEmpty = true → r.main = 0)) := by
  obtain ⟨hfits, hcap, hseated⟩ := h.counts
  refine ⟨fun changes => ⟨cap_changed r changes, ?_⟩, fun hall hempty => ?_, fun hmain => ?_⟩
  · have hkept : (r.changed changes).Fits :=
      changed_induction (fun _ _ _ => fits_of_attempt) hfits changes
    rwa [Fits, cap_changed] at hkept
  · -- the first member to join shows where the protagonist's place is
    have hsize : r.size = 0 := by simpa [isEmpty, size] using hempty
    let c := Character.bare "" "" "" 1
    have hpush : r.push c = .ok { r with members := r.members ++ [c] } := by
      rw [push, if_neg (by simpa [isFull, hsize] using Nat.ne_of_gt hcap)]
    have hjoined : r.changed [.push c] = { r with members := r.members ++ [c] } := by
      simp [changed, attempt, hpush, Except.toOption]
    have hnonempty : (r.changed [.push c]).isEmpty = false := by
      simp [hjoined, isEmpty]
    have hplace := (seated_iff hnonempty).mpr (hall [.push c] hnonempty)
    rw [hjoined, Seated, size, List.length_append] at hplace
    rw [size] at hsize
    dsimp only [List.length_singleton] at hplace
    omega
  · intro changes hne
    have hstart : r.Seated := by
      cases he : r.isEmpty with
      | false => exact hseated he
      | true => exact Nat.le_trans (Nat.le_of_eq (hmain he)) (Nat.zero_le _)
    exact (seated_iff hne).mp (changed_induction (fun _ _ _ => seated_of_attempt) hstart changes)

/-- A party of two is left by both, and a third joins it. -/
theorem protagonist?_changed_three :
    let r : Roster := ⟨[.bare "Bo" "Elf" "Bard" 9, .bare "Ann" "Elf" "Bard" 9], 1, 5⟩
    let changes := [.remove 0, .remove 0, .push (.bare "Cy" "Elf" "Bard" 9)]
    r.Founded ∧ (r.changed changes).size ≤ 5 ∧ (r.changed changes).protagonist?.isSome = true := by
  intro r changes
  have hr : r.Founded := .ofMembers (show Roster.ofMembers r.members 1 5 = .ok r from rfl)
  obtain ⟨hcap, hplace⟩ := protagonist?_changed_iff hr
  exact ⟨hr, (hcap changes).2, hplace.mpr (fun h => by cases h) changes rfl⟩

/-- A party without members whose protagonist has the last of eight places: whoever joins first is
no protagonist. -/
theorem protagonist?_of_first_joined :
    ∃ r, ofMembers [] 7 5 = .ok r ∧
      (r.changed [.push (.bare "Bo" "Elf" "Bard" 9)]).isEmpty = false ∧
        (r.changed [.push (.bare "Bo" "Elf" "Bard" 9)]).protagonist? = none :=
  ⟨_, rfl, rfl, rfl⟩

end Tabletop.Roster
