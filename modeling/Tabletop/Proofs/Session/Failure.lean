import Tabletop.Proofs.Session.Start

/-!
# When the narrator fails

A turn that the narrator does not answer leaves the session as it stood when the turn started, but
for two lines in the log. `Deed.Starts` says where that is for each deed: some of them change the
session before they put it to the narrator.
-/

namespace Tabletop

open Session (playerLine connectionLost)

/-- The error that a turn ends with, if it is not answered within its limit. -/
def Answer.error? (limit : Nat) : Answer → Option SessionError
  | .said _ => none
  | .failed e => some (.narrator e)
  | .late => some (.timeout limit)

/-- A question is answered, or its turn ends with an error. -/
theorem Answer.said_or_unanswered (answer : Answer) (limit : Nat) :
    (∃ raw, answer = .said raw) ∨ ∃ e, answer.error? limit = some e := by
  cases answer with
  | said raw => exact .inl ⟨raw, rfl⟩
  | failed e => exact .inr ⟨_, rfl⟩
  | late => exact .inr ⟨_, rfl⟩

/-! ## Closing -/

private theorem closeTurn_of_error? {s : Session} {turn : Turn} {answer : Answer} {e : SessionError}
    (h : answer.error? s.settings.timeout = some e) :
    s.closeTurn turn answer = (s.failTurn turn, [], .error e) := by
  cases answer with
  | said text => cases h
  | failed e => cases h; rfl
  | late => cases h; rfl

private theorem failTurn_sending {start : Session} {turn : Turn} {line : List Event}
    (h : playerLine turn.text turn.isPlayers = line) :
    ({ start with phase := .sending } : Session).failTurn turn =
      { start with
        log := start.log ++ line ++ [.system connectionLost]
        phase := .awaitingInput } := by
  rw [Session.failTurn, h]

private theorem Asks.closeTurn_eq {m : Move} {start : Session} {line : List Event}
    {turn : Turn} {answer : Answer} {e : SessionError} (h : Asks m start line turn)
    (he : answer.error? start.settings.timeout = some e) :
    m.session.closeTurn turn answer =
      ({ start with log := start.log ++ line ++ [.system connectionLost], phase := .awaitingInput },
        [], .error e) := by
  rw [h.session, ← failTurn_sending h.playerLine]
  apply closeTurn_of_error?
  exact he

/-- A move that has opened a turn settles without an answer on the state that the turn started in,
but for two entries in the log. -/
theorem Asks.settle_of_error? {m : Move} {start : Session} {line : List Event} {turn : Turn}
    {answer : Answer} {e : SessionError} (h : Asks m start line turn)
    (he : answer.error? start.settings.timeout = some e) :
    m.settle answer =
      ({ start with log := start.log ++ line ++ [.system connectionLost], phase := .awaitingInput },
        .error e) := by
  simp only [Move.settle, h.opening, h.closeTurn_eq he]
  rfl

private theorem issued_heedAll {t : Table} {signals : List Signal}
    (h : ∀ signal ∈ signals, signal = .hush) :
    (t.heedAll signals).studio.board.issued = t.studio.board.issued := by
  induction signals generalizing t with
  | nil => rfl
  | cons signal signals ih =>
    rw [Table.heedAll, List.foldl_cons]
    refine (ih fun s hs => h s (List.mem_cons_of_mem _ hs)).trans ?_
    rw [h signal (by simp), Table.heed]
    split <;> rfl

namespace Table

variable {σ : Type} (cast : Cast (StateM σ)) (t : Table) (d : Deed) (w : σ)
  {start : Session} {line : List Event} {turn : Turn} {e : SessionError}

private theorem timeout_of_starts (h : d.Starts t.session start line) :
    start.settings.timeout = t.session.settings.timeout := by
  cases h <;> rfl

private theorem closeTurn_of_asks (hstart : d.Starts t.session start line)
    (ha : Asks (d.move t.session) start line turn) {answer : Answer}
    (h : answer.error? t.session.settings.timeout = some e) :
    (d.move t.session).session.closeTurn turn answer =
      ({ start with log := start.log ++ line ++ [.system connectionLost], phase := .awaitingInput },
        [], .error e) := by
  rw [← timeout_of_starts t d hstart] at h
  exact ha.closeTurn_eq h

/-- A turn that is not answered applies nothing: the session stands as it did when the turn started,
but for the player's line and the line for the lost connection; the error comes back, and no picture
has been asked for. -/
theorem play_of_unanswered (hturn : (d.move t.session).opening = .asking turn)
    (hfail : (heard t.session.settings.timeout ((cast.narrate turn.question).run w).1).error?
      t.session.settings.timeout = some e) :
    let result := ((t.play cast d.move).run w).1
    ∃ start line, d.Starts t.session start line ∧
      result.1.session =
        { start with
          log := start.log ++ line ++ [.system connectionLost]
          phase := .awaitingInput } ∧
      result.2 = .error e ∧ result.1.studio.board.issued = t.studio.board.issued := by
  obtain ⟨start, line, hstart, ha⟩ := exists_starts d hturn
  have hlimit : (d.move t.session).session.settings.timeout = t.session.settings.timeout := by
    have hstarts := timeout_of_starts t d hstart
    rw [ha.session]
    exact hstarts
  have hclose := closeTurn_of_asks t d hstart ha hfail
  have hsettled : (d.move t.session).settle
      ((d.move t.session).answer fun question => ((cast.narrate question).run w).1) =
        ({ start with
          log := start.log ++ line ++ [.system connectionLost]
          phase := .awaitingInput }, .error e) := by
    simp only [Move.settle, Move.answer, ha.opening, hlimit, hclose]
    rfl
  obtain ⟨hsession, hresult⟩ := Prod.mk.inj ((play_run cast t d.move w).trans hsettled)
  refine ⟨start, line, hstart, hsession, hresult, ?_⟩
  obtain ⟨hasked, hissued, hanswer⟩ :=
    consult_run cast (t.opened (d.move t.session)) turn.question w
  rw [opened, session_heedAll] at hasked hanswer
  rw [hlimit] at hanswer
  simp only [play_run_of_asking cast t d.move w hturn, closed, opened]
  rw [hasked, hanswer, hclose]
  exact hissued.trans (issued_heedAll ha.hushes)

/-- A narrator fails after a strong and hurt member has used up its remedy in a fight. It is healed
and the log tells of that, but nobody has had the rest that would have healed it once more. -/
theorem play_of_unanswered_remedy :
    let bo := { Character.bare "Bo" "Elf" "Bard" 16 with
      stats := { AbilityScores.average with strength := 14 }
      currentHp := 5
      regenCounter := 2
      inventory := [.plain "Rope", .plain "Healer's Kit"] }
    let cured := { bo with currentHp := 15, inventory := [.plain "Rope"] }
    let s := { Session.start .usual (.ofWords [7]) with
      roster := ⟨[bo], 0, 5⟩
      combat := ⟨true, some (.distance 30)⟩
      history := [.player "Hello", .narrator "A troll! DISTANCE_INFO:[30]"]
      log := [.player "Hello", .narrator "A troll!"] }
    let t := ofSession s ⟨true, true, true⟩
    let speechless : Cast (StateM Nat) :=
      ⟨fun _ calls => (some (5, .error .empty), calls + 1), fun _ => pure (1, none)⟩
    let played := (t.play speechless (Deed.useItem 0 1).move).run 0
    (∃ start line, (Deed.useItem 0 1).Starts s start line ∧
      played.1.1.session =
        { start with
          log := start.log ++ line ++ [.system connectionLost]
          phase := .awaitingInput } ∧
      played.1.2 = .error (.narrator .empty) ∧ played.1.1.studio.board.issued = 0) ∧
      played.1.1.session.roster.members = [cured] ∧
        (cured.regenerate? s.settings.regenThreshold).map Prod.snd = some .healed ∧
          played.1.1.session.combat = s.combat ∧ played.1.1.session.history = s.history ∧
            played.1.1.session.log = s.log ++
              [.game "Bo used Healer's Kit and recovered 10 HP.",
                .player "(I use a Healer's Kit and recover 10 HP.)", .system connectionLost] := by
  intro bo cured s t speechless played
  have hplay : s.ensurePlayable = .ok () := by decide
  have hkit : bo.inventory[1]? = some (.plain "Healer's Kit") := rfl
  have hroll : (Item.plain "Healer's Kit").rollHealing s.dice = (10, s.dice) := by decide +kernel
  have hgained : ((bo.heal 10).currentHp.toInt - bo.currentHp.toInt).toNat ≠ 0 := by decide
  obtain ⟨turn, hturn⟩ : ∃ turn, ((Deed.useItem 0 1).move t.session).opening = .asking turn := by
    cases puts_useItem hplay (show s.roster.get? 0 = some bo from rfl) hkit hroll hgained with
    | asks h => exact ⟨_, h.opening⟩
    | breaksOff h => exact absurd h.unready (by decide +kernel)
  refine ⟨?_, by decide +kernel⟩
  obtain ⟨start, line, hstart, hsession, hresult, hissued⟩ :=
    play_of_unanswered speechless t (.useItem 0 1) 0 hturn (e := .narrator .empty) rfl
  have hplayed : (t.play speechless (Deed.useItem 0 1).move).run 0 = played := rfl
  rw [hplayed] at hsession hresult hissued
  clear_value played
  exact ⟨start, line, hstart, hsession, hresult, hissued⟩

end Table

end Tabletop
