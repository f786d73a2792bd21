import Tabletop.Story.Log

/-!
# Open invitations

A log is orderly if at most one of its invitations is open and that one waits for an answer. `Calm`
says that between two states of a log no invitation comes in and none opens again. An orderly log
stays so while it goes on calmly, and when the narrator makes an offer at its end and none is open.
-/

namespace Tabletop

/-- An entry of the narrator with an invitation that waits for its answer. -/
def Event.IsOffer (e : Event) : Prop :=
  e.voice = .narrator ∧ ∃ i, e.invitation = some i ∧ i.status = .pending

namespace Log

/-- The invitation of an entry is open. -/
def OpenAt (log : Log) (index : Nat) : Prop :=
  ∃ e, log[index]? = some e ∧ e.hasOpenInvitation = true

/-- At most one invitation is open, and the narrator has offered it and waits for its answer. -/
structure Orderly (log : Log) : Prop where
  single : ∀ {j k : Nat}, log.OpenAt j → log.OpenAt k → j = k
  offer : ∀ {k : Nat} {e : Event}, log[k]? = some e → e.hasOpenInvitation = true → e.IsOffer

/-- No invitation has come to a log and none has opened again; entries may have. -/
structure Calm (before after : Log) : Prop where
  length : before.length ≤ after.length
  opens : ∀ {k : Nat} {e : Event}, after[k]? = some e → e.hasOpenInvitation = true →
    before[k]? = some e
  closed : ∀ {k : Nat} {i : Invitation}, before.invitation? k = some i → i.status.isOpen = false →
    after.invitation? k = some i
  absent : ∀ {k : Nat}, before.invitation? k = none → after.invitation? k = none

variable {log before middle after : Log} {e : Event} {k : Nat}

/-! ## The open invitation -/

/-- An entry without an invitation has none that is open. -/
private theorem not_hasOpenInvitation (h : e.invitation = none) : e.hasOpenInvitation = false := by
  simp [Event.hasOpenInvitation, h]

/-- No invitation is open where there is none. -/
theorem any_hasOpenInvitation_eq_false (h : ∀ e ∈ log, e.invitation = none) :
    log.any Event.hasOpenInvitation = false :=
  List.any_eq_false.mpr fun e he => by simp [not_hasOpenInvitation (h e he)]

/-- An invitation that is answered is not open. -/
private theorem not_hasOpenInvitation_setStatus {status : InvitationStatus}
    (h : status.isOpen = false) : (e.setStatus status).hasOpenInvitation = false := by
  cases hi : e.invitation <;> simp [Event.hasOpenInvitation, Event.setStatus, hi, h]

/-- The invitation that counts as the open one is open. -/
theorem openAt_of_openInvitation? (h : log.openInvitation? = some k) : log.OpenAt k := by
  obtain ⟨j, hj, rfl⟩ := Option.map_eq_some_iff.mp h
  obtain ⟨hlt, hopen, -⟩ := List.findIdx?_eq_some_iff_getElem.mp hj
  rw [List.getElem_reverse] at hopen
  exact ⟨_, List.getElem?_eq_getElem _, hopen⟩

/-- No invitation counts as the open one if none is open. -/
theorem openInvitation?_eq_none_iff : log.openInvitation? = none ↔ ∀ k, ¬ log.OpenAt k := by
  rw [openInvitation?, Option.map_eq_none_iff, List.findIdx?_eq_none_iff]
  constructor
  · rintro h k ⟨e, he, hopen⟩
    rw [h e (List.mem_reverse.mpr (List.mem_of_getElem? he))] at hopen
    cases hopen
  · intro h e he
    obtain ⟨k, hk⟩ := List.mem_iff_getElem?.mp (List.mem_reverse.mp he)
    exact Bool.eq_false_iff.mpr fun hopen => h k ⟨e, hk, hopen⟩

/-- Some invitation counts as the open one if any is open. -/
theorem isSome_openInvitation? : log.openInvitation?.isSome = log.any Event.hasOpenInvitation := by
  rw [openInvitation?, Option.isSome_map, List.findIdx?_isSome, List.any_reverse]

/-- Entries without invitations bring none that is open. -/
theorem isSome_openInvitation?_append {more : Log} (h : ∀ e ∈ more, e.invitation = none) :
    (openInvitation? (log ++ more)).isSome = (openInvitation? log).isSome := by
  rw [isSome_openInvitation?, isSome_openInvitation?, List.any_append,
    any_hasOpenInvitation_eq_false h, Bool.or_false]

/-- In an orderly log the one that is open counts as the open one. -/
theorem Orderly.openInvitation?_eq_some_iff (h : log.Orderly) :
    log.openInvitation? = some k ↔ log.OpenAt k := by
  refine ⟨openAt_of_openInvitation?, fun hk => ?_⟩
  cases ho : log.openInvitation? with
  | none => exact absurd hk (openInvitation?_eq_none_iff.mp ho k)
  | some j => rw [h.single (openAt_of_openInvitation? ho) hk]

/-- The log of a new session. -/
theorem Orderly.nil : Orderly [] where
  single h := by
    obtain ⟨e, he, -⟩ := h
    cases he
  offer h := by cases h

/-! ## Logs that go on calmly -/

theorem Calm.refl (log : Log) : Calm log log where
  length := Nat.le_refl _
  opens h _ := h
  closed h _ := h
  absent h := h

theorem Calm.trans (h : Calm before middle) (h' : Calm middle after) : Calm before after where
  length := Nat.le_trans h.length h'.length
  opens he hopen := h.opens (h'.opens he hopen) hopen
  closed hi hclosed := h'.closed (h.closed hi hclosed) hclosed
  absent hk := h'.absent (h.absent hk)

/-- What is open now was open before. -/
theorem Calm.openAt (h : Calm before after) (hk : after.OpenAt k) : before.OpenAt k := by
  obtain ⟨e, he, hopen⟩ := hk
  exact ⟨e, h.opens he hopen, hopen⟩

/-- Where none was open none is. -/
theorem Calm.openInvitation?_eq_none (h : Calm before after)
    (hnone : before.openInvitation? = none) : after.openInvitation? = none :=
  openInvitation?_eq_none_iff.mpr fun k hk => openInvitation?_eq_none_iff.mp hnone k (h.openAt hk)

/-- Entries without invitations come in at the end. -/
theorem Calm.append {entries : List Event} (h : ∀ e ∈ entries, e.invitation = none) (log : Log) :
    Calm log (log ++ entries) where
  length := by simp
  opens {k e} he hopen := by
    rw [List.getElem?_append] at he
    split at he
    · exact he
    · rw [not_hasOpenInvitation (h e (List.mem_of_getElem? he))] at hopen
      cases hopen
  closed {k i} hi _ := by
    obtain ⟨e, he, hinv⟩ := Option.bind_eq_some_iff.mp hi
    have hlt := (List.getElem?_eq_some_iff.mp he).1
    rw [invitation?, List.getElem?_append_left hlt, he]
    exact hinv
  absent {k} hk := by
    rw [invitation?, Option.bind_eq_none_iff] at hk ⊢
    intro e he
    rw [List.getElem?_append] at he
    split at he
    · exact hk e he
    · exact h e (List.mem_of_getElem? he)

/-- An entry of a log in which the status of one invitation has been changed. -/
private theorem getElem?_setStatus {index : Nat} {i : Invitation} {status : InvitationStatus}
    (h : log.invitation? index = some i) :
    (log.setStatus index status).1[k]? =
      (log[k]?).map fun e => if index = k then e.setStatus status else e := by
  simp only [setStatus, h, List.getElem?_modify]
  by_cases hk : index = k <;> simp [hk]

/-- An invitation that is answered has its answer. -/
theorem invitation?_setStatus {index : Nat} {i : Invitation} (h : log.invitation? index = some i)
    (status : InvitationStatus) :
    (log.setStatus index status).1.invitation? index = some { i with status } := by
  obtain ⟨e, he, hinv⟩ := Option.bind_eq_some_iff.mp h
  rw [invitation?, getElem?_setStatus h, he]
  simp [Event.setStatus, hinv]

/-- An open invitation is answered. -/
theorem Calm.setStatus {index : Nat} {i : Invitation} {status : InvitationStatus}
    (h : log.invitation? index = some i) (hopen : i.status.isOpen = true)
    (hclosed : status.isOpen = false) : Calm log (log.setStatus index status).1 where
  length := by simp [Log.setStatus, h]
  opens {k e} he ho := by
    rw [getElem?_setStatus h, Option.map_eq_some_iff] at he
    obtain ⟨d, hd, rfl⟩ := he
    by_cases hk : index = k
    · rw [if_pos hk, not_hasOpenInvitation_setStatus hclosed] at ho
      cases ho
    · rw [if_neg hk, hd]
  closed {k j} hj hclosed' := by
    by_cases hk : index = k
    · rw [← hk, h] at hj
      cases hj
      rw [hopen] at hclosed'
      cases hclosed'
    · rw [invitation?, getElem?_setStatus h]
      simpa [hk, invitation?] using hj
  absent {k} hk := by
    have hne : index ≠ k := by
      rintro rfl
      rw [h] at hk
      cases hk
    rw [invitation?, getElem?_setStatus h]
    simpa [hne, invitation?] using hk

/-! ## Orderly logs -/

/-- An orderly log that goes on calmly stays so. -/
theorem Orderly.calm (h : before.Orderly) (hcalm : Calm before after) : after.Orderly where
  single hj hk := h.single (hcalm.openAt hj) (hcalm.openAt hk)
  offer he hopen := h.offer (hcalm.opens he hopen) hopen

/-- Only an entry at the end has come to a log with one more entry. -/
private theorem getElem?_concat {d : Event} (h : (log ++ [e])[k]? = some d) :
    log[k]? = some d ∨ k = log.length ∧ d = e := by
  rw [List.getElem?_append] at h
  split at h
  · exact .inl h
  · next hlt =>
    rw [List.getElem?_singleton] at h
    split at h
    · cases h
      exact .inr ⟨by omega, rfl⟩
    · cases h

/-- Where none is open the narrator may make an offer. -/
theorem Orderly.concat (h : log.Orderly) (hnone : log.openInvitation? = none) (he : e.IsOffer) :
    Orderly (log ++ [e]) where
  single {j k} hj hk := by
    have hlast {m : Nat} (hm : OpenAt (log ++ [e]) m) : m = log.length := by
      obtain ⟨d, hd, hopen⟩ := hm
      rcases getElem?_concat hd with hd | ⟨hm, -⟩
      · exact absurd ⟨d, hd, hopen⟩ (openInvitation?_eq_none_iff.mp hnone m)
      · exact hm
    rw [hlast hj, hlast hk]
  offer hd hopen := by
    rcases getElem?_concat hd with hd | ⟨-, rfl⟩
    · exact h.offer hd hopen
    · exact he

/-- An offer takes no answer back. -/
theorem invitation?_concat {i : Invitation} (h : log.invitation? k = some i) (e : Event) :
    Log.invitation? (log ++ [e]) k = some i := by
  obtain ⟨d, hd, hinv⟩ := Option.bind_eq_some_iff.mp h
  have hlt := (List.getElem?_eq_some_iff.mp hd).1
  rw [invitation?, List.getElem?_append_left hlt, hd]
  exact hinv

/-- An invitation that has come with one more entry stands there. -/
theorem eq_length_of_invitation?_concat (hnone : log.invitation? k = none)
    (h : (Log.invitation? (log ++ [e]) k).isSome = true) : k = log.length := by
  obtain ⟨i, hi⟩ := Option.isSome_iff_exists.mp h
  obtain ⟨d, hd, hinv⟩ := Option.bind_eq_some_iff.mp hi
  rcases getElem?_concat hd with hd | ⟨hk, -⟩
  · rw [invitation?, hd] at hnone
    rw [show d.invitation = none from hnone] at hinv
    cases hinv
  · exact hk

end Log

end Tabletop
