import Tabletop.Proofs.Session.Actions

/-!
# Rejected actions

An action that comes back with an error other than the narrator's leaves the table as it is: every
check comes before the first effect. There is one exception. Whoever is invited and cannot join has
failed to, and the invitation tells so. An overflow is none of these errors, since it does not come
back.
-/

namespace Tabletop

/-- The error is the narrator's, who has failed or not answered in time. -/
def SessionError.isNarrators : SessionError → Bool
  | .narrator _ | .timeout _ => true
  | _ => false

/-- Only the narrator makes a turn fail that is under way. -/
private theorem isNarrators_of_closeTurn {s : Session} {turn : Turn} {answer : Answer}
    {e : SessionError} (h : (s.closeTurn turn answer).2.2 = .error e) : e.isNarrators = true := by
  cases answer with
  | said raw => cases h
  | failed reason =>
    cases h
    rfl
  | late =>
    cases h
    rfl

namespace Action

private theorem eq_play_of_deed? {a : Action} {index : Nat} (h : a.deed? = some (.accept index)) :
    a = .play (.accept index) := by
  cases a with
  | play d =>
    cases h
    rfl
  | trySubmit held input => cases held <;> cases h
  | _ => cases h

/-- An action that is refused is nothing but refused, or it accepts an invitation for somebody who
cannot join. -/
theorem refused_cases {a : Action} {s : Session} {e : SessionError}
    (h : (a.move s).opening = .refused e) :
    a.move s = s.refuse e ∨
      ∃ index i dice, a = .play (.accept index) ∧ s.pendingInvitation? index = some i ∧
        e.KeepsOut s.roster ∧
          a.move s = ⟨({ s with dice } : Session).mark index .error, [.hush], .refused e⟩ := by
  have hcomes := a.comes s
  generalize a.move s = m at h hcomes ⊢
  cases hcomes with
  | refused e' =>
    cases h
    exact .inl rfl
  | amended signals hs => cases h
  | deed hd hm =>
    cases hm with
    | refused e' =>
      cases h
      exact .inl rfl
    | unjoined hindex hi he =>
      cases h
      exact .inr ⟨_, _, _, eq_play_of_deed? (hd.trans (congrArg some hindex)), hi, he, rfl⟩
    | idle dice => cases h
    | asking hstart ha =>
      rw [ha.opening] at h
      cases h
    | overflow hstart hb =>
      rw [hb.opening] at h
      cases h

end Action

namespace Table

variable {σ : Type} (cast : Cast (StateM σ)) (t : Table) (a : Action) (w : σ) {e : SessionError}

/-- Where an error other than the narrator's comes back, no turn has been opened. -/
private theorem opening_of_rejected (hresult : ((t.play cast a.move).run w).1.2 = .error e)
    (he : e.isNarrators = false) (hback : e ≠ .overflow) :
    (a.move t.session).opening = .refused e := by
  have hsettled := congrArg Prod.snd (play_run cast t a.move w)
  rw [show ((t.play cast a.move).run w).1.2 = .error e from hresult, Move.settle] at hsettled
  cases ho : (a.move t.session).opening with
  | refused e' =>
    rw [ho] at hsettled
    cases hsettled
    rfl
  | idle =>
    rw [ho] at hsettled
    cases hsettled
  | overflow =>
    rw [ho] at hsettled
    cases hsettled
    exact absurd rfl hback
  | asking turn =>
    simp only [ho] at hsettled
    cases hclose : ((a.move t.session).session.closeTurn turn
        ((a.move t.session).answer fun question => ((cast.narrate question).run w).1)).2.2 with
    | ok outcome =>
      rw [hclose] at hsettled
      cases hsettled
    | error e' =>
      rw [hclose] at hsettled
      cases hsettled
      rw [isNarrators_of_closeTurn hclose] at he
      cases he

/-- What is refused is not put to anybody. -/
private theorem play_run_of_refused (move : Session → Move)
    (h : (move t.session).opening = .refused e) :
    (t.play cast move).run w = ((t.opened (move t.session), .error e), w) := by
  simp only [play, h]
  rfl

private theorem studio_heed_hush (t : Table) : (t.heed .hush).studio = t.studio := by
  rw [heed]
  split <;> rfl

/-- An action that comes back with an error other than the narrator's leaves the table as it is and
asks nobody, whoever the narrator and the painter are; nor is a call counted. The one exception is
an invitation that is accepted for somebody who cannot be made or finds no room: the dice have been
used, what is being spoken ends, and of the rest only the status of that invitation has changed. -/
theorem play_of_rejected (hresult : ((t.play cast a.move).run w).1.2 = .error e)
    (he : e.isNarrators = false) (hback : e ≠ .overflow) :
    let after := ((t.play cast a.move).run w).1.1
    ((t.play cast a.move).run w).2 = w ∧ after.studio = t.studio ∧
      (after = t ∨ ∃ index i dice, a = .play (.accept index) ∧
        t.session.pendingInvitation? index = some i ∧ e.KeepsOut t.session.roster ∧
          after = ({ t with session := ({ t.session with dice } : Session).mark index .error }
            : Table).heed .hush) := by
  have hrefused := opening_of_rejected cast t a w hresult he hback
  rw [play_run_of_refused cast t w a.move hrefused]
  rcases Action.refused_cases hrefused with hm | ⟨index, i, dice, ha, hi, hout, hm⟩
  · rw [hm]
    exact ⟨rfl, rfl, .inl rfl⟩
  · rw [hm]
    exact ⟨rfl, studio_heed_hush _, .inr ⟨index, i, dice, ha, hi, hout, rfl⟩⟩

/-- A companion is offered to a party with room for one more; somebody else joins first, and the
companion finds no room. -/
theorem play_of_rejected_late :
    let s := (Session.start { Settings.usual with partyCap := 2 } (.ofWords [7])).run
      [.create (.ofIdentity "Bo" "Elf" "Bard" "male"),
        .play (.submit "Hello") (.said "INVITE_CHARACTER:[Cy, Elf, Bard, male]"),
        .create (.ofIdentity "Ann" "Elf" "Bard" "female")]
    let t := ofSession s ⟨true, true, true⟩
    let patient : Cast (StateM Nat) :=
      ⟨fun _ asked => (some (0, .ok "Hm."), asked + 1), fun _ => pure (0, none)⟩
    let played := (t.play patient (Action.play (.accept 1)).move).run 0
    played.1.2 = .error (.roster (.full 2)) ∧ played.2 = 0 ∧ played.1.1.studio = t.studio ∧
      (played.1.1 = t ∨ ∃ index i dice, Action.play (.accept 1) = .play (.accept index) ∧
        t.session.pendingInvitation? index = some i ∧
          SessionError.KeepsOut t.session.roster (.roster (.full 2)) ∧
            played.1.1 =
              ({ t with session := ({ t.session with dice } : Session).mark index .error }
                : Table).heed .hush) := by
  intro s t patient
  have hfull : ((t.play patient (Action.play (.accept 1)).move).run 0).1.2 =
      .error (.roster (.full 2)) := by decide +kernel
  exact ⟨hfull, play_of_rejected patient t (.play (.accept 1)) 0 hfull rfl nofun⟩

end Table

end Tabletop
