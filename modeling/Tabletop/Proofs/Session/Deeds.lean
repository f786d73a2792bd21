import Tabletop.Proofs.Scene.Requests
import Tabletop.Table

/-!
# Deeds

What becomes of a session when a deed is played depends on the world around the table only through
the answer that the session hears: `play_run` reduces a move that is played to `Move.settle`.
-/

namespace Tabletop

/-- The session after a move whose turn, if it opens one, is closed with an answer, and what the
move comes to. -/
def Move.settle (m : Move) (answer : Answer) : Session × Except SessionError (Option Outcome) :=
  match m.opening with
  | .refused e => (m.session, .error e)
  | .idle => (m.session, .ok none)
  | .overflow => (m.session, .error .overflow)
  | .asking turn =>
    let (session, _, result) := m.session.closeTurn turn answer
    (session, result.map some)

/-- The answer that the session hears to the question of a move, if the move asks one. -/
def Move.answer (m : Move) (reply : Narration → Option (Nat × Except NarratorError String)) :
    Answer :=
  match m.opening with
  | .asking turn => Table.heard m.session.settings.timeout (reply turn.question)
  | _ => .late

namespace Table

/-- Signals are none of the session's business. -/
@[simp]
theorem session_heed (t : Table) (signal : Signal) : (t.heed signal).session = t.session := by
  cases signal <;> simp only [heed] <;> split <;> rfl

@[simp]
theorem session_heedAll (t : Table) (signals : List Signal) :
    (t.heedAll signals).session = t.session := by
  induction signals generalizing t with
  | nil => rfl
  | cons signal signals ih =>
    rw [heedAll, List.foldl_cons]
    exact (ih _).trans (session_heed t signal)

@[simp]
theorem session_recordCall (t : Table) : t.recordCall.session = t.session := by
  unfold recordCall
  split <;> rfl

variable {σ : Type} (cast : Cast (StateM σ))

/-- While the narrator is asked, the session stays as it is and no picture is asked for; the session
hears the narrator's answer if it comes in time. -/
theorem consult_run (t : Table) (question : Narration) (w : σ) :
    let result := ((t.consult cast question).run w).1
    result.1.session = t.session ∧ result.1.studio.board.issued = t.studio.board.issued ∧
      result.2 = heard t.session.settings.timeout ((cast.narrate question).run w).1 := by
  have hissued : t.recordCall.studio.board.issued = t.studio.board.issued := by
    unfold recordCall
    split <;> rfl
  have htimeout : t.recordCall.session.settings.timeout = t.session.settings.timeout := by
    rw [session_recordCall]
  refine ⟨session_recordCall t, (Studio.issued_wait _ _ _).trans hissued, ?_⟩
  rw [← htimeout]
  rfl

/-- A move that is played without a question. -/
private theorem play_run_of_ne (t : Table) (move : Session → Move) (w : σ) (answer : Answer)
    (h : ∀ turn, (move t.session).opening ≠ .asking turn) :
    (((t.play cast move).run w).1.1.session, ((t.play cast move).run w).1.2) =
      (move t.session).settle answer := by
  cases ho : (move t.session).opening with
  | refused e =>
    simp only [play, ho, Move.settle]
    exact Prod.ext (session_heedAll _ _) rfl
  | idle =>
    simp only [play, ho, Move.settle]
    exact Prod.ext (session_heedAll _ _) rfl
  | overflow =>
    simp only [play, ho, Move.settle]
    exact Prod.ext (session_heedAll _ _) rfl
  | asking turn => exact absurd ho (h turn)

/-- The table at which the narrator is asked about a move. -/
def opened (t : Table) (m : Move) : Table := { t with session := m.session }.heedAll m.signals

private theorem session_opened (t : Table) (m : Move) : (t.opened m).session = m.session :=
  session_heedAll _ _

/-- The table after an answer has closed a turn. -/
def closed (t : Table) (turn : Turn) (answer : Answer) :
    Table × Except SessionError (Option Outcome) :=
  let (session, signals, result) := t.session.closeTurn turn answer
  ({ t with session }.heedAll signals, result.map some)

/-- A move that is played with a question. -/
theorem play_run_of_asking (t : Table) (move : Session → Move) (w : σ) {turn : Turn}
    (h : (move t.session).opening = .asking turn) :
    ((t.play cast move).run w).1 =
      let asked := (((t.opened (move t.session)).consult cast turn.question).run w).1
      asked.1.closed turn asked.2 := by
  simp only [play, h]
  rfl

/-- What a move that is played does to the session, and what it comes to, is what it settles to
under the answer that the session hears. -/
theorem play_run (t : Table) (move : Session → Move) (w : σ) :
    (((t.play cast move).run w).1.1.session, ((t.play cast move).run w).1.2) =
      (move t.session).settle
        ((move t.session).answer fun question => ((cast.narrate question).run w).1) := by
  cases ho : (move t.session).opening with
  | refused e => exact play_run_of_ne cast t move w _ (by simp [ho])
  | idle => exact play_run_of_ne cast t move w _ (by simp [ho])
  | overflow => exact play_run_of_ne cast t move w _ (by simp [ho])
  | asking turn =>
    obtain ⟨hsession, -, hanswer⟩ := consult_run cast (t.opened (move t.session)) turn.question w
    rw [session_opened] at hsession hanswer
    rw [play_run_of_asking cast t move w ho]
    simp only [closed, session_heedAll, hsession, hanswer, Move.settle, Move.answer, ho]

end Table

end Tabletop
