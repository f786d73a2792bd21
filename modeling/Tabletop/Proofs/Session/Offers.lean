import Tabletop.Proofs.Marker.Scan
import Tabletop.Proofs.Session.Start
import Tabletop.Proofs.Session.Turn
import Tabletop.Proofs.Story.Invitations

/-!
# Offers in a turn

The narrator may name several characters in one reply. One of them at most is offered to the
players, and none if an invitation was open when the turn started or the party was full.
-/

namespace Tabletop

open Session (offer?)

/-! ## Markers of invitations -/

/-- An invitation that is read is an offer of the four texts that are kept, and none is empty. -/
theorem Grammar.offer_of_read? {k : Keyword} {caps : Pattern.Captures} {i : Invitation}
    (h : read? k caps = some (.invite i)) :
    i = .offer (kept caps 1) (kept caps 2) (kept caps 3) (kept caps 4) ∧
      ∀ j ∈ [1, 2, 3, 4], kept caps j ≠ "" := by
  cases k with
  | invite =>
    simp only [read?] at h
    split at h
    · cases h
    · next hempty =>
      cases h
      exact ⟨rfl, by simpa using hempty⟩
  | item | ambiance =>
    simp only [read?] at h
    split at h <;> cases h
  | _ => cases h

namespace Reply

private theorem mem_directives {d : Directive} {ps : List Piece} (h : d ∈ directives ps) :
    ∃ m, .marker m ∈ ps ∧ m.directive = d := by
  induction ps with
  | nil => cases h
  | cons p ps ih =>
    cases p with
    | prose c =>
      obtain ⟨m, hm, he⟩ := ih h
      exact ⟨m, List.mem_cons_of_mem _ hm, he⟩
    | marker m =>
      rcases List.mem_cons.mp h with rfl | h
      · exact ⟨m, List.mem_cons_self, rfl⟩
      · obtain ⟨m, hm, he⟩ := ih h
        exact ⟨m, List.mem_cons_of_mem _ hm, he⟩

/-- The directives of a reply are read from what a pattern keeps. -/
theorem exists_read?_of_mem {cs : List Char} {d : Directive} (h : d ∈ directives (pieces cs)) :
    ∃ k caps, Grammar.read? k caps = some d := by
  obtain ⟨m, hm, rfl⟩ := mem_directives h
  obtain ⟨k, rest, hk⟩ := exists_markerOf?_of_mem_pieces hm
  obtain ⟨r, -, hk⟩ := Option.bind_eq_some_iff.mp hk
  obtain ⟨d, hd, hk⟩ := Option.bind_eq_some_iff.mp hk
  cases hk
  exact ⟨k, r.captures, hd⟩

/-- The invitations of a reply wait for their answers. -/
theorem status_of_invite_mem {cs : List Char} {i : Invitation}
    (h : .invite i ∈ directives (pieces cs)) : i.status = .pending := by
  obtain ⟨k, caps, hread⟩ := exists_read?_of_mem h
  rw [(Grammar.offer_of_read? hread).1]
  rfl

end Reply

/-! ## Directives -/

namespace Situation

variable {s : Situation}

/-- Nothing is offered, and whether an invitation is open stays as it was. -/
private structure Silent (s : Situation) (result : Situation × Option Effect) : Prop where
  isOpen : result.1.invitationOpen = s.invitationOpen
  none : result.2.bind offer? = none

/-- A directive offers an invitation only to a party with room and without another one open, and
that invitation is open then. -/
private theorem silent_or_offers (d : Directive) :
    s.Silent (s.apply d) ∨
      ∃ i, d = .invite i ∧ s.invitationOpen = false ∧ s.roster.isFull = false ∧
        s.apply d = ({ s with invitationOpen := true }, some (.invitationOffered i)) := by
  have hopens : (s.apply d).1.invitationOpen = (s.invitationOpen || s.welcomes d) := by
    rw [apply_eq]
  have hsilent {effect : Option Effect} (heffect : (s.apply d).2 = effect)
      (hnone : effect.bind offer? = none) (hquiet : (s.invitationOpen || s.welcomes d) =
        s.invitationOpen) : s.Silent (s.apply d) :=
    ⟨hopens.trans hquiet, heffect ▸ hnone⟩
  have hyields := s.yields_apply d
  generalize heffect : (s.apply d).2 = effect at hyields
  cases hyields with
  | offered hroom hopen =>
    exact .inr ⟨_, rfl, hopen, hroom, by simp [apply, invite, hroom, hopen]⟩
  | dropped hroom hopen => exact .inl (hsilent heffect rfl (by rw [hopen, Bool.true_or]))
  | full hfull =>
    exact .inl (hsilent heffect rfl (by rw [welcomes, hfull, Bool.not_true, Bool.or_false]))
  | nobody _ hsubject =>
    have hquiet : s.welcomes d = false := by
      cases d with
      | invite => cases hsubject
      | _ => rfl
    exact .inl (hsilent heffect rfl (by rw [hquiet, Bool.or_false]))
  | _ => exact .inl (hsilent heffect rfl (Bool.or_false _))

private theorem offers_cons (d : Directive) (ds : List Directive) :
    (s.applyAll (d :: ds)).2.filterMap offer? =
      ((s.apply d).2.bind offer?).toList ++ ((s.apply d).1.applyAll ds).2.filterMap offer? := by
  rw [applyAll, List.filterMap_append]
  cases (s.apply d).2 with
  | none => rfl
  | some e => cases he : offer? e <;> simp [he]

/-- Directives offer one invitation at most, and that one only to a party with room and without
another one open. -/
theorem offers_applyAll (ds : List Directive) :
    (s.applyAll ds).2.filterMap offer? = [] ∨
      ∃ i, (s.applyAll ds).2.filterMap offer? = [i] ∧ .invite i ∈ ds ∧
        s.invitationOpen = false ∧ s.roster.isFull = false := by
  induction ds generalizing s with
  | nil => exact .inl rfl
  | cons d ds ih =>
    rw [offers_cons]
    rcases silent_or_offers (s := s) d with ⟨hopen, hnone⟩ | ⟨i, rfl, hopen, hroom, happly⟩
    · rw [hnone]
      rcases ih (s := (s.apply d).1) with hrest | ⟨i, hrest, hi, hopen', hroom⟩
      · exact .inl hrest
      · exact .inr ⟨i, hrest, List.mem_cons_of_mem _ hi, hopen ▸ hopen', isFull_apply d ▸ hroom⟩
    · rcases ih (s := (s.apply (.invite i)).1) with hrest | ⟨-, -, -, hopen', -⟩
      · exact .inr ⟨i, by rw [hrest, happly]; rfl, List.mem_cons_self, hopen, hroom⟩
      · rw [happly] at hopen'
        cases hopen'

/-- After directives an invitation is open if one was before or one has been offered. -/
theorem invitationOpen_applyAll (ds : List Directive) :
    (s.applyAll ds).1.invitationOpen =
      (s.invitationOpen || !((s.applyAll ds).2.filterMap offer?).isEmpty) := by
  induction ds generalizing s with
  | nil => simp [applyAll]
  | cons d ds ih =>
    rw [offers_cons]
    refine (ih (s := (s.apply d).1)).trans ?_
    rcases silent_or_offers (s := s) d with ⟨hopen, hnone⟩ | ⟨i, rfl, hopen, hroom, happly⟩
    · rw [hopen, hnone]
      rfl
    · rw [happly]
      simp [offer?]

end Situation

/-! ## Entries of a turn -/

namespace Session

open Log (Calm)

variable {s start : Session} {turn : Turn}

private theorem invitation_of_logEntry? {effect : Effect} {e : Event}
    (h : effect.logEntry? = some e) : e.invitation = none := by
  cases effect with
  | rewarded character coins =>
    simp only [Effect.logEntry?] at h
    split at h
    · cases h
    · cases h
      rfl
  | _ => cases h <;> rfl

theorem invitation_of_mem_playerLine {text : String} {isPlayers : Bool} {e : Event}
    (h : e ∈ playerLine text isPlayers) : e.invitation = none := by
  unfold playerLine at h
  split at h
  · rw [List.mem_singleton.mp h]
    rfl
  · cases h

private theorem invitation_of_mem_rested {isPlayers : Bool} {r : Roster} {rested : List Event}
    {e : Event} (hready : s.readied? isPlayers = some (r, rested)) (h : e ∈ rested) :
    e.invitation = none := by
  cases isPlayers with
  | false =>
    cases hready
    cases h
  | true =>
    obtain ⟨results, -, heq⟩ := Option.map_eq_some_iff.mp hready
    cases heq
    obtain ⟨⟨c, done⟩, -, hdone⟩ := List.mem_filterMap.mp h
    cases done <;> cases hdone
    rfl

/-- The entries that a turn opens with invite nobody. -/
theorem invitation_of_mem_events {m : Move} {line : List Event} (h : Asks m start line turn) :
    ∀ e ∈ turn.events, e.invitation = none := by
  intro e he
  obtain ⟨rested, hready, hevents⟩ := h.readied
  rw [hevents, ← h.playerLine] at he
  rcases List.mem_append.mp he with he | he
  · exact invitation_of_mem_playerLine he
  · exact invitation_of_mem_rested hready he

/-! ## Closing -/

/-- An offer has come to the log at the end of a turn that started with none open and with room in
the party. -/
structure Offers (start : Session) (log : Log) : Prop where
  offer : ∃ before e, Calm start.log before ∧ Event.IsOffer e ∧ log = before ++ [e]
  noneOpen : Log.openInvitation? start.log = none
  room : start.roster.isFull = false

private theorem invitation_of_mem_entries (hevents : ∀ e ∈ turn.events, e.invitation = none)
    (effects : List Effect) :
    ∀ e ∈ turn.events ++ effects.filterMap Effect.logEntry?, e.invitation = none := by
  intro e he
  rcases List.mem_append.mp he with he | he
  · exact hevents e he
  · obtain ⟨effect, -, heffect⟩ := List.mem_filterMap.mp he
    exact invitation_of_logEntry? heffect

private theorem invitation_of_mem_narratorEntry {narration : String} {e : Event}
    (h : e ∈ narratorEntry narration none) : e.invitation = none := by
  rw [narratorEntry] at h
  split at h
  · cases h
  · rw [List.mem_singleton.mp h]

private theorem narratorEntry_some (narration : String) (i : Invitation) :
    narratorEntry narration (some i) = [{ Event.narrator narration with invitation := some i }] :=
  if_neg (by simp)

/-- What a turn closed with the narrator's text brings to the log invites nobody but whom the text
does. -/
theorem invite_mem_of_mem_completeTurn (start : Session)
    (hevents : ∀ e ∈ turn.events, e.invitation = none) {raw : String} {e : Event}
    (h : e ∈ (start.completeTurn turn raw).1.log) :
    e ∈ start.log ∨
      ∀ i, e.invitation = some i → .invite i ∈ Reply.directives (Reply.pieces raw.toList) := by
  let ds := Reply.directives (Reply.pieces raw.toList)
  let effects := ((start.situation turn).applyAll ds).2
  have hnone (hnone : e.invitation = none) (i : Invitation) (hi : e.invitation = some i) :
      .invite i ∈ ds := by
    rw [hnone] at hi
    cases hi
  rcases List.mem_append.mp h with h | h
  · exact .inl h
  · rcases List.mem_append.mp h with h | h
    · exact .inr (hnone (invitation_of_mem_entries hevents effects e h))
    · rcases Situation.offers_applyAll (s := start.situation turn) ds with
        hoffers | ⟨i, hoffers, hmem, -, -⟩
      · rw [show effects.filterMap offer? = [] from hoffers] at h
        exact .inr (hnone (invitation_of_mem_narratorEntry h))
      · rw [show effects.filterMap offer? = [i] from hoffers, List.getLast?_singleton,
          narratorEntry_some, List.mem_singleton] at h
        refine .inr fun j hj => ?_
        rw [h] at hj
        cases hj
        exact hmem

/-- A turn closed with the narrator's text brings no invitation, or one at its end. -/
theorem calm_or_offers_completeTurn (start : Session)
    (hevents : ∀ e ∈ turn.events, e.invitation = none)
    (hroom : turn.roster.isFull = start.roster.isFull) (raw : String) :
    Calm start.log (start.completeTurn turn raw).1.log ∨
      start.Offers (start.completeTurn turn raw).1.log := by
  let ds := Reply.directives (Reply.pieces raw.toList)
  let narration := Reply.clean (Reply.pieces raw.toList)
  let effects := ((start.situation turn).applyAll ds).2
  let entries := turn.events ++ effects.filterMap Effect.logEntry?
  have hentries : ∀ e ∈ entries, e.invitation = none := invitation_of_mem_entries hevents effects
  have hlog : (start.completeTurn turn raw).1.log =
      start.log ++ (entries ++ narratorEntry narration (effects.filterMap offer?).getLast?) := rfl
  rw [hlog]
  rcases Situation.offers_applyAll (s := start.situation turn) ds with
    hnone | ⟨i, hi, hmem, hopen, hfull⟩
  · refine .inl (.append (fun e he => ?_) start.log)
    rw [show effects.filterMap offer? = [] from hnone, List.getLast?_nil] at he
    rcases List.mem_append.mp he with he | he
    · exact hentries e he
    · exact invitation_of_mem_narratorEntry he
  · let offer := { Event.narrator narration with invitation := some i }
    rw [show effects.filterMap offer? = [i] from hi, List.getLast?_singleton, narratorEntry_some]
    refine .inr ⟨⟨start.log ++ entries, offer, .append hentries start.log, ⟨rfl, i, rfl, ?_⟩, ?_⟩,
      ?_, hroom ▸ hfull⟩
    · exact Reply.status_of_invite_mem hmem
    · exact (List.append_assoc ..).symm
    · simpa [situation] using hopen

/-- After a turn closed with the narrator's text the log has an open invitation just where the
narrator's directives leave one open. -/
theorem isSome_openInvitation?_completeTurn (start : Session)
    (hevents : ∀ e ∈ turn.events, e.invitation = none) (raw : String) :
    (Log.openInvitation? (start.completeTurn turn raw).1.log).isSome =
      ((start.situation turn).applyAll
        (Reply.directives (Reply.pieces raw.toList))).1.invitationOpen := by
  let ds := Reply.directives (Reply.pieces raw.toList)
  let narration := Reply.clean (Reply.pieces raw.toList)
  let effects := ((start.situation turn).applyAll ds).2
  let entries := turn.events ++ effects.filterMap Effect.logEntry?
  have hentries : entries.any Event.hasOpenInvitation = false :=
    Log.any_hasOpenInvitation_eq_false (invitation_of_mem_entries hevents effects)
  have hlog : (start.completeTurn turn raw).1.log =
      start.log ++ (entries ++ narratorEntry narration (effects.filterMap offer?).getLast?) := rfl
  have hbefore : (start.situation turn).invitationOpen = start.log.any Event.hasOpenInvitation :=
    Log.isSome_openInvitation?
  have hoffered : (narratorEntry narration (effects.filterMap offer?).getLast?).any
      Event.hasOpenInvitation = !(effects.filterMap offer?).isEmpty := by
    rcases Situation.offers_applyAll (s := start.situation turn) ds with
      hnone | ⟨i, hi, hmem, -, -⟩
    · rw [show effects.filterMap offer? = [] from hnone]
      exact Log.any_hasOpenInvitation_eq_false fun e he => invitation_of_mem_narratorEntry he
    · rw [show effects.filterMap offer? = [i] from hi, List.getLast?_singleton, narratorEntry_some]
      simp [Event.hasOpenInvitation, Reply.status_of_invite_mem hmem, InvitationStatus.isOpen]
  rw [Log.isSome_openInvitation?, hlog, List.any_append, List.any_append, hentries, hoffered,
    Situation.invitationOpen_applyAll, hbefore]
  rfl

theorem calm_failTurn (start : Session) (turn : Turn) :
    Calm start.log (start.failTurn turn).log := by
  rw [failTurn, List.append_assoc]
  refine .append (fun e he => ?_) _
  rcases List.mem_append.mp he with he | he
  · exact invitation_of_mem_playerLine he
  · rw [List.mem_singleton.mp he]
    rfl

/-! ## Deeds -/

theorem isOpen_of_pendingInvitation? {index : Nat} {i : Invitation}
    (h : s.pendingInvitation? index = some i) :
    Log.invitation? s.log index = some i ∧ i.status.isOpen = true := by
  obtain ⟨hi, hstatus⟩ := Option.filter_eq_some_iff.mp h
  exact ⟨hi, by rw [beq_iff_eq.mp hstatus]; rfl⟩

theorem calm_mark {index : Nat} {i : Invitation} {status : InvitationStatus}
    (h : s.pendingInvitation? index = some i) (hclosed : status.isOpen = false) :
    Calm s.log (s.mark index status).log := by
  obtain ⟨hi, hopen⟩ := isOpen_of_pendingInvitation? h
  exact .setStatus hi hopen hclosed

/-- What a deed does before its turn starts brings no invitation. -/
theorem calm_of_starts {d : Deed} {line : List Event} (h : d.Starts s start line) :
    Calm s.log start.log := by
  cases h with
  | begin => exact .append (by simp [Event.system]) s.log
  | submit => exact .refl s.log
  | accept hi => exact calm_mark hi rfl
  | decline hi => exact calm_mark hi rfl
  | useItem => exact .append (by simp [Event.game]) s.log

end Session

end Tabletop
