import Tabletop.Proofs.Session.Finality
import Tabletop.Proofs.Session.Offers

/-!
# The life of an invitation

An invitation comes with the narrator's text to a party that has room and no other one open. It
waits until it is accepted or declined, or fails, and what has become of it stays so for as long as
no saved game is taken up.
-/

namespace Tabletop.Session

open Log (Calm Orderly OpenAt invitation? openInvitation?)

variable {s : Session} {index k : Nat} {i : Invitation}

/-- An invitation has come to an entry of the log. -/
def Attaches (s s' : Session) (index : Nat) : Prop :=
  invitation? s.log index = none ∧ (invitation? s'.log index).isSome = true

/-! ## Moves -/

private theorem accept_refused (h : s.ensurePlayable ≠ .ok () ∨ s.pendingInvitation? index = none) :
    ∃ e, s.accept index = s.refuse e := by
  unfold accept
  split
  · exact ⟨_, rfl⟩
  · next hplay =>
    rw [h.resolve_left fun hne => hne hplay]
    exact ⟨_, rfl⟩

/-- What a deed does before its turn brings no invitation. -/
private theorem calm_move (d : Deed) (s : Session) : Calm s.log (d.move s).session.log := by
  have hcomes := d.comes s
  generalize d.move s = m at hcomes
  cases hcomes with
  | refused e => exact .refl s.log
  | unjoined _ hi => exact calm_mark hi rfl
  | idle dice => exact .refl s.log
  | asking hstart ha =>
    have hcalm := calm_of_starts hstart
    rw [ha.session]
    exact hcalm
  | overflow hstart hb =>
    have hcalm := calm_of_starts hstart
    rw [hb.session]
    exact hcalm

/-! ## Deeds -/

/-- A deed brings no invitation, or one at the end of its turn. -/
private theorem calm_or_offers_settle (d : Deed) (s : Session) (answer : Answer) :
    let after := ((d.move s).settle answer).1
    Calm (d.move s).session.log after.log ∨ ∃ raw start line, answer = .said raw ∧
      d.Starts s start line ∧ (d.move s).session.log = start.log ∧ start.Offers after.log := by
  cases ho : (d.move s).opening with
  | refused e => simp [Move.settle, ho, Calm.refl]
  | idle => simp [Move.settle, ho, Calm.refl]
  | overflow => simp [Move.settle, ho, Calm.refl]
  | asking turn =>
    obtain ⟨start, line, hstart, ha⟩ := exists_starts d ho
    simp only [Move.settle, ho, ha.session]
    cases answer with
    | said raw =>
      obtain ⟨_, hready, -⟩ := ha.readied
      have hroom : turn.roster.isFull = start.roster.isFull := isFull_readied? hready
      rcases calm_or_offers_completeTurn { start with phase := .sending }
          (invitation_of_mem_events ha) hroom raw with hcalm | ⟨hoffer, hnone, hroom⟩
      · exact .inl hcalm
      · exact .inr ⟨raw, start, line, rfl, hstart, rfl, hoffer, hnone, hroom⟩
    | failed e => exact .inl (calm_failTurn { start with phase := .sending } turn)
    | late => exact .inl (calm_failTurn { start with phase := .sending } turn)

/-- An offer takes no answer back. -/
private theorem Offers.invitation?_eq {start : Session} {log : Log} (h : start.Offers log)
    (hi : invitation? start.log k = some i) (hclosed : i.status.isOpen = false) :
    invitation? log k = some i := by
  obtain ⟨before, e, hcalm, -, rfl⟩ := h.offer
  exact Log.invitation?_concat (hcalm.closed hi hclosed) e

/-- What has become of an invitation when its turn starts stays so at the end of the turn. -/
private theorem invitation?_settle {d : Deed} (h : invitation? (d.move s).session.log k = some i)
    (hclosed : i.status.isOpen = false) (answer : Answer) :
    invitation? ((d.move s).settle answer).1.log k = some i := by
  rcases calm_or_offers_settle d s answer with hcalm | ⟨_, start, _, -, -, hlog, hoffers⟩
  · exact hcalm.closed h hclosed
  · exact hoffers.invitation?_eq (hlog ▸ h) hclosed

/-- A turn brings nobody into the party and sends nobody away. -/
private theorem size_settle (d : Deed) (s : Session) (answer : Answer) :
    ((d.move s).settle answer).1.roster.size = (d.move s).session.roster.size := by
  cases ho : (d.move s).opening with
  | refused e => simp [Move.settle, ho]
  | idle => simp [Move.settle, ho]
  | overflow => simp [Move.settle, ho]
  | asking turn =>
    obtain ⟨start, line, -, ha⟩ := exists_starts d ho
    obtain ⟨members, hnames, hroster⟩ := ha.members_settle answer
    rw [hroster, ha.session]
    exact Roster.length_eq_of_names hnames

/-! ## Answers to an invitation -/

/-- In an orderly log the invitation that waits is the open one. -/
private theorem exists_pendingInvitation?_iff (h : Orderly s.log) :
    (∃ i, s.pendingInvitation? k = some i) ↔ openInvitation? s.log = some k := by
  rw [h.openInvitation?_eq_some_iff]
  constructor
  · rintro ⟨i, hi⟩
    obtain ⟨hinv, hopen⟩ := isOpen_of_pendingInvitation? hi
    obtain ⟨e, he, hei⟩ := Option.bind_eq_some_iff.mp hinv
    exact ⟨e, he, by simp [Event.hasOpenInvitation, hei, hopen]⟩
  · rintro ⟨e, he, hopen⟩
    obtain ⟨-, i, hei, hstatus⟩ := h.offer he hopen
    exact ⟨i, by simp [pendingInvitation?, invitation?, he, hei, hstatus]⟩

private theorem settle_ask_ne (s : Session) (text : String) (answer : Answer) (k : Nat) :
    (((s.ask text true).after [.hush]).settle answer).2 ≠ .error (.noInvitation k) := by
  cases hopen : s.openTurn? text true with
  | none => simp [Move.settle, Move.after, ask, hopen]
  | some turn =>
    cases answer <;> simp [Move.settle, Move.after, ask, hopen, closeTurn, Except.map]

/-- An invitation that is accepted ends as accepted, with the joiner in the party, or fails, with
the party as it was. -/
private theorem settle_accept (hplay : s.ensurePlayable = .ok ())
    (hi : s.pendingInvitation? k = some i) (answer : Answer) :
    let after := ((s.accept k).settle answer).1
    (∀ j, ((s.accept k).settle answer).2 ≠ .error (.noInvitation j)) ∧
      (invitation? after.log k = some { i with status := .accepted } ∧
          after.roster.size = s.roster.size + 1 ∨
        invitation? after.log k = some { i with status := .error } ∧ after.roster = s.roster) := by
  intro after
  obtain ⟨hinv, -⟩ := isOpen_of_pendingInvitation? hi
  rcases hr : i.recipe s.dice with ⟨recipe, dice⟩
  rcases accept_eq hplay hi hr with ⟨e, he, ha⟩ | ⟨c, -, -, ha⟩
  · have hsettle : (s.accept k).settle answer =
        (({ s with dice } : Session).mark k .error, .error e) := by
      rw [ha]
      rfl
    have hafter : after = ({ s with dice } : Session).mark k .error := congrArg Prod.fst hsettle
    rw [hsettle, hafter]
    refine ⟨fun j hj => ?_, .inr ⟨Log.invitation?_setStatus hinv .error, rfl⟩⟩
    cases hj
    cases he
  · have hlog : invitation? ((Deed.accept k).move s).session.log k =
        some { i with status := .accepted } := by
      rw [Deed.move, ha]
      exact Log.invitation?_setStatus hinv .accepted
    have hsize : ((Deed.accept k).move s).session.roster.size = s.roster.size + 1 := by
      rw [Deed.move, ha]
      exact List.length_append
    refine ⟨fun j => ?_, .inl ⟨invitation?_settle hlog rfl answer, ?_⟩⟩
    · rw [ha]
      exact settle_ask_ne _ _ answer j
    · exact (size_settle (.accept k) s answer).trans hsize

private theorem settle_decline_ne (hplay : s.ensurePlayable = .ok ())
    (hi : s.pendingInvitation? k = some i) (answer : Answer) (j : Nat) :
    ((s.decline k).settle answer).2 ≠ .error (.noInvitation j) := by
  rw [decline_eq hplay hi]
  exact settle_ask_ne _ _ answer j

/-! ## Steps -/

variable {step : Step} {steps : List Step}

/-- A step brings no invitation, or it is a deed whose turn ends with one. -/
private theorem calm_or_offers_perform (hload : step.restores s = false) :
    Calm s.log (s.perform step).log ∨ ∃ d raw start line, step = .play d (.said raw) ∧
      d.Starts s start line ∧ start.Offers (s.perform step).log := by
  cases step with
  | play d answer =>
    rcases calm_or_offers_settle d s answer with hcalm | ⟨raw, start, line, rfl, hstart, -, hoffers⟩
    · exact .inl ((calm_move d s).trans hcalm)
    · exact .inr ⟨d, raw, start, line, rfl, hstart, hoffers⟩
  | _ =>
    obtain ⟨-, entries, hentries, hlog⟩ := Keeps.of_not_deed hload (by simp)
    rw [hlog]
    exact .inl (.append hentries s.log)

private theorem orderly_perform (hload : step.restores s = false) (h : Orderly s.log) :
    Orderly (s.perform step).log := by
  rcases calm_or_offers_perform hload with hcalm | ⟨d, raw, start, line, -, hstart, hoffers⟩
  · exact h.calm hcalm
  · obtain ⟨before, e, hcalm, he, hlog⟩ := hoffers.offer
    rw [hlog]
    exact ((h.calm (calm_of_starts hstart)).calm hcalm).concat
      (hcalm.openInvitation?_eq_none hoffers.noneOpen) he

private theorem invitation?_perform (hload : step.restores s = false)
    (hclosed : i.status.isOpen = false) (h : invitation? s.log k = some i) :
    invitation? (s.perform step).log k = some i := by
  rcases calm_or_offers_perform hload with hcalm | ⟨d, raw, start, line, -, hstart, hoffers⟩
  · exact hcalm.closed h hclosed
  · exact hoffers.invitation?_eq ((calm_of_starts hstart).closed h hclosed) hclosed

/-- An invitation that a step brings stands at the end of the log, and comes with the turn of a deed
that started with none open and with room in the party. -/
private theorem exists_of_attaches (hload : step.restores s = false)
    (h : s.Attaches (s.perform step) k) :
    k + 1 = (s.perform step).log.length ∧ ∃ d raw start line, step = .play d (.said raw) ∧
      d.Starts s start line ∧ openInvitation? start.log = none ∧ start.roster.isFull = false := by
  obtain ⟨hnone, hsome⟩ := h
  rcases calm_or_offers_perform hload with hcalm | ⟨d, raw, start, line, hplay, hstart, hoffers⟩
  · rw [hcalm.absent hnone] at hsome
    cases hsome
  · refine ⟨?_, d, raw, start, line, hplay, hstart, hoffers.noneOpen, hoffers.room⟩
    obtain ⟨before, e, hcalm, -, hlog⟩ := hoffers.offer
    have habsent := ((calm_of_starts hstart).trans hcalm).absent hnone
    rw [hlog] at hsome ⊢
    have hk := Log.eq_length_of_invitation?_concat habsent hsome
    simp [hk]

/-! ## Runs -/

private theorem Throughout.run_induction {q : Session → Step → Prop} {p : Session → Prop}
    (hstep : ∀ s step, q s step → p s → p (s.perform step)) (hq : s.Throughout q steps) (h : p s) :
    p (s.run steps) := by
  induction steps generalizing s with
  | nil => exact h
  | cons step steps ih => exact ih hq.2 (hstep s step hq.1 h)

/-- The life of invitations, from a log in which at most one is open and waits, for as long as no
saved game is taken up: the log stays like that, and the one that is open counts as the open one. An
invitation comes only with a turn that started with none open and with room in the party, and only
one comes. Where there is a party and the game is not over, the open one can be accepted and
declined; accepted, it ends as accepted with one more member, or fails with the party as it was, and
nothing else can be accepted. What has become of an invitation stays so. -/
theorem invitations_run (horderly : Orderly s.log)
    (hload : s.Throughout (fun s step => step.restores s = false) steps) :
    let now := s.run steps
    (Orderly now.log ∧ ∀ k, openInvitation? now.log = some k ↔ OpenAt now.log k) ∧
    (∀ step k, step.restores now = false → now.Attaches (now.perform step) k →
      k + 1 = (now.perform step).log.length ∧ ∃ d raw start line, step = .play d (.said raw) ∧
        d.Starts now start line ∧ openInvitation? start.log = none ∧
          start.roster.isFull = false) ∧
    (∀ k answer, now.phase ≠ .gameOver → now.roster.isEmpty = false →
      openInvitation? now.log = some k →
        (∀ j, ((now.decline k).settle answer).2 ≠ .error (.noInvitation j)) ∧
        let after := ((now.accept k).settle answer).1
        (∀ j, ((now.accept k).settle answer).2 ≠ .error (.noInvitation j)) ∧
        ∃ i, now.pendingInvitation? k = some i ∧
          (invitation? after.log k = some { i with status := .accepted } ∧
              after.roster.size = now.roster.size + 1 ∨
            invitation? after.log k = some { i with status := .error } ∧
              after.roster = now.roster)) ∧
    (∀ k answer, now.phase = .gameOver ∨ now.roster.isEmpty = true ∨
      openInvitation? now.log ≠ some k → ((now.accept k).settle answer).1 = now) ∧
    (∀ later k i, now.Throughout (fun s step => step.restores s = false) later →
      invitation? now.log k = some i → i.status.isOpen = false →
        invitation? (now.run later).log k = some i) := by
  intro now
  have hnow : Orderly now.log :=
    hload.run_induction (p := fun s => Orderly s.log) (fun _ _ => orderly_perform) horderly
  refine ⟨⟨hnow, fun k => hnow.openInvitation?_eq_some_iff⟩, fun step k => exists_of_attaches,
    fun k answer hphase hparty hopen => ?_, fun k answer h => ?_,
    fun later k i hlater hi hclosed => ?_⟩
  · have hplay := ensurePlayable_eq_ok_iff.mpr ⟨hphase, hparty⟩
    obtain ⟨i, hi⟩ := (exists_pendingInvitation?_iff hnow).mpr hopen
    obtain ⟨hne, hends⟩ := settle_accept hplay hi answer
    exact ⟨settle_decline_ne hplay hi answer, hne, i, hi, hends⟩
  · obtain ⟨e, he⟩ : ∃ e, now.accept k = now.refuse e := by
      apply accept_refused
      rcases h with hover | hparty | hopen
      · exact .inl (by simp [ensurePlayable, hover])
      · refine .inl ?_
        unfold ensurePlayable
        split <;> simp
      · refine .inr (Option.eq_none_iff_forall_ne_some.mpr fun i hi => ?_)
        exact hopen ((exists_pendingInvitation?_iff hnow).mp ⟨i, hi⟩)
    rw [he]
    rfl
  · exact hlater.run_induction (p := fun s => invitation? s.log k = some i)
      (fun _ _ hload => invitation?_perform hload hclosed) hi

/-- The narrator offers a companion to a lone member. -/
theorem invitations_run_companion :
    let s := start .usual (.ofWords [7])
    let steps := [.create (.ofIdentity "Bo" "Elf" "Bard" "male"),
      .play (.submit "Hello") (.said "INVITE_CHARACTER:[Ann, Elf, Bard, female]")]
    let now := s.run steps
    Orderly s.log ∧ s.Throughout (fun s step => step.restores s = false) steps ∧
      now.phase ≠ .gameOver ∧ now.roster.isEmpty = false ∧ openInvitation? now.log = some 1 ∧
        ∀ answer : Answer,
          let after := ((now.accept 1).settle answer).1
          ∃ i, now.pendingInvitation? 1 = some i ∧
            (invitation? after.log 1 = some { i with status := .accepted } ∧
                after.roster.size = now.roster.size + 1 ∨
              invitation? after.log 1 = some { i with status := .error } ∧
                after.roster = now.roster) := by
  intro s steps now
  have hload : s.Throughout (fun s step => step.restores s = false) steps := ⟨rfl, rfl, trivial⟩
  have hphase : now.phase ≠ .gameOver := by decide +kernel
  have hparty : now.roster.isEmpty = false := by decide +kernel
  have hopen : openInvitation? now.log = some 1 := by decide +kernel
  refine ⟨.nil, hload, hphase, hparty, hopen, fun answer => ?_⟩
  obtain ⟨-, -, haccept, -⟩ := invitations_run (s := s) .nil hload
  unfold now
  exact (haccept 1 answer hphase hparty hopen).2.2

end Tabletop.Session
