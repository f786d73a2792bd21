import Tabletop.Proofs.Session.Actions
import Tabletop.Proofs.Session.Turn

/-!
# Vitals throughout a session

The vitals of every member agree at any time in the course of a session.
-/

namespace Tabletop

open Character (Vital lasting_vital)

namespace Session

variable {s s' : Session} {a : Action} {d : Deed} {m : Move}

/-! ## Deeds -/

/-- The vitals of all members agree where a deed starts its turn if they agree before. -/
theorem vital_of_starts {start : Session} {line : List Event} (h : s.roster.All Vital)
    (hstart : d.Starts s start line) : start.roster.All Vital := by
  cases hstart with
  | begin => exact h
  | submit => exact h
  | accept _ _ hc => exact h.concat (.make hc)
  | decline => exact h
  | useItem hc => exact h.set (((h.get? hc).heal _).of_same ⟨rfl, rfl, rfl⟩)

/-- What a deed does before its turn leaves the vitals of all members in agreement. -/
theorem move_all (h : s.roster.All Vital) (d : Deed) : (d.move s).session.roster.All Vital := by
  have hcomes := d.comes s
  generalize d.move s = m at hcomes
  cases hcomes with
  | refused e => exact h
  | unjoined => exact h
  | idle dice => exact h
  | asking hstart ha =>
    have hstarted := vital_of_starts h hstart
    rw [ha.session]
    exact hstarted
  | overflow hstart hb =>
    have hstarted := vital_of_starts h hstart
    rw [hb.session]
    exact hstarted

private theorem settle_all (h : s.roster.All Vital) (hd : d.Comes s m) (answer : Answer) :
    (m.settle answer).1.roster.All Vital := by
  cases hd with
  | refused e => exact h
  | unjoined => exact h
  | idle dice => exact h
  | asking hstart ha => exact ha.settle_all lasting_vital (vital_of_starts h hstart) answer
  | overflow hstart hb =>
    have hstarted := vital_of_starts h hstart
    rw [hb.settle]
    exact hstarted

/-! ## Actions -/

private theorem amended_all (h : s.roster.All Vital) (hjoiner : ∀ c, a.joiner? = some c → c.Vital)
    (hsaved : ∀ game, a.saved? = some game → ∀ c ∈ game.characters, c.Vital)
    (hs : s.Amended a s') : s'.roster.All Vital := by
  cases hs with
  | joined hc hpush => exact h.push (hjoiner _ hc) hpush
  | changed hc hsame => exact h.set ((h.get? hc).of_same hsame)
  | left hremove => exact h.remove hremove
  | confirmed hconfirm => exact h.confirmProtagonist hconfirm
  | given htransfer =>
    exact h.transfer (fun _ _ _ hc hd => hc.of_same (.takeItem hd))
      (fun c item hc => hc.of_same (.gain c item)) htransfer
  | acting => exact h
  | speech => exact h
  | restored hgame hrestore =>
    intro c hc
    rw [(restore_eq_ok hrestore).1] at hc
    exact hsaved _ hgame c hc

/-- An action leaves the vitals of all members in agreement, if they agree of those who join by it
and of the members of the saved game that it takes up. -/
private theorem act_all (h : s.roster.All Vital) (hjoiner : ∀ c, a.joiner? = some c → c.Vital)
    (hsaved : ∀ game, a.saved? = some game → ∀ c ∈ game.characters, c.Vital) (answer : Answer) :
    ((a.move s).settle answer).1.roster.All Vital := by
  have hcomes := a.comes s
  generalize a.move s = m at hcomes
  cases hcomes with
  | refused e => exact h
  | amended signals hs => exact amended_all h hjoiner hsaved hs
  | deed _ hd => exact settle_all h hd answer

/-! ## Steps -/

private theorem character?_vital {n : Newcomer} {c : Character} (h : n.character? = some c) :
    c.Vital := by
  cases n with
  | sheet text => exact .ofSheet (eq_ok_of_toOption h)
  | recipe r => exact .make (eq_ok_of_toOption h)

private theorem joiner?_vital {step : Step} {answer : Answer} (h : step.action? = some (a, answer))
    {c : Character} (hc : a.joiner? = some c) : c.Vital := by
  cases step with
  | add newcomer =>
    obtain ⟨joiner, hjoiner, heq⟩ := Option.map_eq_some_iff.mp h
    cases heq
    cases hc
    exact character?_vital hjoiner
  | create recipe =>
    cases h
    exact .make (eq_ok_of_toOption hc)
  | _ =>
    cases h
    cases hc

private theorem saved?_vital {step : Step} {answer : Answer} (h : step.action? = some (a, answer))
    {game : SavedGame} (hgame : a.saved? = some game) : ∀ c ∈ game.characters, c.Vital := by
  cases step with
  | add newcomer =>
    obtain ⟨joiner, -, heq⟩ := Option.map_eq_some_iff.mp h
    cases heq
    cases hgame
  | load text =>
    cases h
    cases text with
    | error e => cases hgame
    | ok content => exact .ofSavedGame (eq_ok_of_toOption hgame)
  | _ =>
    cases h
    cases hgame

/-- A step leaves the vitals of all members in agreement. -/
theorem perform_all (h : s.roster.All Vital) (step : Step) : (s.perform step).roster.All Vital := by
  rw [perform_eq_follow]
  cases hstep : step.action? with
  | none => exact h
  | some x => exact act_all h (fun _ => joiner?_vital hstep) (fun _ => saved?_vital hstep) x.2

/-- At any time in the course of a session the vitals of every member agree: whoever has joined,
whatever the narrator has answered, and however the dice have fallen. -/
theorem vital_of_mem_run (settings : Settings) (dice : Dice) (steps : List Step) :
    ∀ c ∈ ((start settings dice).run steps).roster.members, c.Vital :=
  run_induction (p := fun s => s.roster.All Vital) (fun _ step h => perform_all h step)
    (Roster.All.empty _) steps

/-- A newcomer struck down by the first words of the narrator. -/
theorem vital_of_mem_run_struck :
    ∃ c ∈ ((start .usual (.ofWords [7])).run [.create (.ofIdentity "Bo" "Elf" "Bard" "male"),
      .play (.submit "Hello") (.said "DAMAGE:Bo,99")]).roster.members,
      c.currentHp = 0 ∧ c.Vital := by
  have hdown : ∃ c ∈ ((start .usual (.ofWords [7])).run
      [.create (.ofIdentity "Bo" "Elf" "Bard" "male"),
        .play (.submit "Hello") (.said "DAMAGE:Bo,99")]).roster.members, c.currentHp = 0 := by
    decide +kernel
  obtain ⟨c, hc, hhp⟩ := hdown
  exact ⟨c, hc, hhp, vital_of_mem_run _ _ _ c hc⟩

end Session

end Tabletop
