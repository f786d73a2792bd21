import Tabletop.Proofs.Session.Start
import Tabletop.Proofs.Session.Vitals

/-!
# When a game ends

A completed turn ends the game if it leaves nobody standing and somebody stood when it started. A
party that is down already, as when the last member who stood has left it, plays on: the end of the
game is noticed only when it comes about.
-/

namespace Tabletop

open Character (Lasting Vital)

/-! ## Members who are down -/

private theorem isDown_takeDamage {c : Character} (amount : Int) (h : c.isDown = true) :
    (c.takeDamage amount).isDown = true := by
  have hmax := c.maxHp.toInt_lt
  simp only [Character.isDown, decide_eq_true_eq] at h
  have hhp : max 0 (min (c.currentHp.toInt - max 0 amount) c.maxHp.toInt) = 0 := by omega
  simp only [Character.isDown, Character.takeDamage, Character.setHp, hhp]
  rfl

private theorem isDown_rests {c d : Character} {threshold : UInt32} {done : Regeneration}
    (h : c.isDown = true) (hrests : c.Rests threshold d done) : d.isDown = true := by
  have hcannot : c.canRegenerate = false := by simp [Character.canRegenerate, h]
  cases hrests with
  | ineligible => exact h
  | counting hcan => cases hcannot.symm.trans hcan
  | healed hcan => cases hcannot.symm.trans hcan

/-- Whoever is down stays down for the turn. -/
private theorem lasting_isDown : Lasting (fun c => c.isDown = true) where
  of_eq h _ hhp _ := by simpa [Character.isDown, hhp] using h
  takeDamage := isDown_takeDamage
  rests := isDown_rests

/-- Whose vitals agree is down when no hit points are left. -/
theorem isDown_iff {c : Character} (h : c.Vital) : c.isDown = true ↔ c.currentHp = 0 := by
  have hnonneg := h.hp_nonneg
  rw [← Int32.toInt_inj]
  simp only [Character.isDown, decide_eq_true_eq, Int32.toInt_zero]
  omega

private theorem allDown_iff {r : Roster} (hparty : r.isEmpty = false) (h : r.All Vital) :
    r.allDown = true ↔ ∀ c ∈ r.members, c.currentHp = 0 := by
  simp only [Roster.allDown, hparty, Bool.not_false, Bool.true_and, List.all_eq_true]
  exact forall₂_congr fun c hc => isDown_iff (h c hc)

private theorem exists_standing_iff {r : Roster} (hparty : r.isEmpty = false) (h : r.All Vital) :
    (∃ c ∈ r.members, c.currentHp ≠ 0) ↔ r.allDown = false := by
  rw [← Bool.not_eq_true, allDown_iff hparty h]
  simp

private theorem allSpent_hpList (r : Roster) : Notice.allSpent r.hpList = r.allDown := by
  simp only [Notice.allSpent, Roster.hpList, Roster.allDown, Roster.isEmpty, List.all_map,
    List.isEmpty_map]
  rfl

private theorem isEmpty_eq_of_size_eq {r r' : Roster} (h : r'.size = r.size) :
    r'.isEmpty = r.isEmpty := by
  have hzero := congrArg (· = 0) h
  rw [Bool.eq_iff_iff]
  simpa [Roster.isEmpty, Roster.size, ← List.length_eq_zero_iff] using iff_of_eq hzero

/-! ## Notices of the end -/

/-- Who has fallen or risen is not the end of the game. -/
theorem Notice.isGameOver_of_isCrossing {n : Notice} (h : n.isCrossing) :
    n.isGameOver = false := by
  cases n with
  | downed => rfl
  | revived => rfl
  | _ => cases h

private theorem Session.not_vital_of_mem {active : Bool} {ds : List Directive}
    {effects : List Effect} {n : Notice}
    (h : n ∈ combatNotices active ds ++ effects.filterMap victory?) :
    n.isCrossing = false ∧ n.isGameOver = false := by
  rcases List.mem_append.mp h with h | h
  · rcases mem_combatNotices h with rfl | rfl <;> exact ⟨rfl, rfl⟩
  · obtain ⟨quest, rfl⟩ := mem_victories h
    exact ⟨rfl, rfl⟩

private theorem any_isGameOver_eq_false {ns : List Notice}
    (h : ∀ n ∈ ns, n.isGameOver = false) : ns.any Notice.isGameOver = false := by
  rw [List.any_eq_false]
  intro n hn
  simp [h n hn]

private theorem any_isGameOver_ofVitals (before : List Int) (r : Roster) :
    (Notice.ofVitals before r).any Notice.isGameOver = (r.allDown && !Notice.allSpent before) := by
  have hcrossings : ∀ n ∈ Notice.crossings 0 before r.members, n.isGameOver = false :=
    fun n hn => Notice.isGameOver_of_isCrossing (Notice.isCrossing_of_mem_crossings hn)
  rw [Notice.ofVitals, List.any_append, any_isGameOver_eq_false hcrossings, Bool.false_or]
  cases r.allDown && !Notice.allSpent before <;> rfl

/-! ## Completed turns -/

namespace Session

variable {start : Session} {turn : Turn}

/-- The notices of a completed turn: those from before it, some of fights and of quests, and those
of the change of the party's hit points. -/
theorem notices_completeTurn (start : Session) (turn : Turn) (raw : String) :
    ∃ told : List Notice, (∀ n ∈ told, n.isCrossing = false ∧ n.isGameOver = false) ∧
      (start.completeTurn turn raw).2.2.notices =
        turn.notices ++ told ++
          Notice.ofVitals turn.hpBefore (start.completeTurn turn raw).1.roster := by
  let ds := Reply.directives (Reply.pieces raw.toList)
  let effects := ((start.situation turn).applyAll ds).2
  refine ⟨combatNotices start.combat.active ds ++ effects.filterMap victory?,
    fun n hn => not_vital_of_mem hn, ?_⟩
  rw [← List.append_assoc]
  rfl

private theorem isGameOver_completeTurn (h : ∀ n ∈ turn.notices, n.isCrossing) (raw : String) :
    (start.completeTurn turn raw).2.2.isGameOver =
      ((start.completeTurn turn raw).1.roster.allDown && !Notice.allSpent turn.hpBefore) := by
  obtain ⟨told, htold, hnotices⟩ := notices_completeTurn start turn raw
  rw [Outcome.isGameOver, hnotices, List.any_append, List.any_append,
    any_isGameOver_eq_false fun n hn => Notice.isGameOver_of_isCrossing (h n hn),
    any_isGameOver_eq_false fun n hn => (htold n hn).2, any_isGameOver_ofVitals, Bool.false_or,
    Bool.false_or]

private theorem phase_completeTurn (h : ∀ n ∈ turn.notices, n.isCrossing)
    (hhp : turn.hpBefore = start.roster.hpList) (raw : String) :
    (start.completeTurn turn raw).1.phase =
      if (start.completeTurn turn raw).1.roster.allDown && !start.roster.allDown then .gameOver
      else .awaitingInput := by
  rw [← allSpent_hpList start.roster, ← hhp, ← isGameOver_completeTurn h]
  rfl

/-- A completed turn leaves the members their names and their places. -/
theorem names_completeTurn {m : Move} {line : List Event} (h : Asks m start line turn)
    (raw : String) :
    (start.completeTurn turn raw).1.roster.names = start.roster.names ∧
      (start.completeTurn turn raw).1.roster.main = start.roster.main := by
  obtain ⟨members, hnames, hroster⟩ := h.members_settle (.said raw)
  rw [h.settle_said] at hroster
  dsimp only at hroster
  rw [hroster]
  exact ⟨hnames, rfl⟩

private theorem isEmpty_completeTurn {m : Move} {line : List Event} (h : Asks m start line turn)
    (raw : String) : (start.completeTurn turn raw).1.roster.isEmpty = false := by
  have hsize : (start.completeTurn turn raw).1.roster.size = start.roster.size :=
    Roster.length_eq_of_names (names_completeTurn h raw).1
  exact (isEmpty_eq_of_size_eq hsize).trans h.party

/-- Nobody gets up in a turn. -/
private theorem isDown_completeTurn {m : Move} {line : List Event} (h : Asks m start line turn)
    (hdown : start.roster.All fun c => c.isDown = true) (raw : String) :
    (start.completeTurn turn raw).1.roster.All fun c => c.isDown = true := by
  have hsettled := h.settle_all lasting_isDown hdown (.said raw)
  rw [h.settle_said] at hsettled
  exact hsettled

/-- A completed turn ends the game exactly when it leaves nobody with hit points though somebody had
some when it started; else the player is asked again. Where nobody had any, nobody gets any: the
party lies there and plays on. -/
theorem gameOver_iff_of_completed (settings : Settings) (dice : Dice) (steps : List Step) (d : Deed)
    (answer : Answer) {outcome : Outcome}
    (h : ((d.move ((Session.start settings dice).run steps)).settle answer).2 =
      .ok (some outcome)) :
    let before := (Session.start settings dice).run steps
    let after := before.perform (.play d answer)
    ∃ opened line, d.Starts before opened line ∧
      (after.phase = .gameOver ↔ (∀ c ∈ after.roster.members, c.currentHp = 0) ∧
        ∃ c ∈ opened.roster.members, c.currentHp ≠ 0) ∧
      (after.phase ≠ .gameOver → after.phase = .awaitingInput) ∧
      ((∀ c ∈ opened.roster.members, c.currentHp = 0) →
        ∀ c ∈ after.roster.members, c.currentHp = 0) := by
  intro before after
  have hvital : before.roster.All Vital :=
    run_induction (p := fun s => s.roster.All Vital) (fun _ step h => perform_all h step)
      (Roster.All.empty _) steps
  obtain ⟨opened, line, turn, raw, hstarts, ha, -, hafter, -⟩ := exists_completed h
  have hopened : opened.roster.All Vital := by
    have hmoved := move_all hvital d
    rw [ha.session] at hmoved
    exact hmoved
  have hafter : after = (opened.completeTurn turn raw).1 := hafter
  have hclosed : after.roster.All Vital := perform_all hvital (.play d answer)
  rw [hafter] at hclosed ⊢
  have hallAfter := allDown_iff (isEmpty_completeTurn ha raw) hclosed
  have hphase := phase_completeTurn ha.crossings ha.hpBefore raw
  refine ⟨opened, line, hstarts, ?_, fun hne => ?_, fun hspent c hc => ?_⟩
  · rw [hphase, ← hallAfter, exists_standing_iff ha.party hopened]
    cases (opened.completeTurn turn raw).1.roster.allDown <;> cases opened.roster.allDown <;> simp
  · rw [hphase] at hne ⊢
    split at hne
    · exact absurd rfl hne
    · next hgo => exact if_neg hgo
  · have hdown := isDown_completeTurn ha (fun c hc => (isDown_iff (hopened c hc)).mpr (hspent c hc))
    exact (isDown_iff (hclosed c hc)).mp (hdown raw c hc)

/-- The narrator's first words strike down a lone member, and the game is over. -/
theorem gameOver_iff_of_completed_struck :
    let before := (Session.start .usual (.ofWords [7])).run
      [.create (.ofIdentity "Bo" "Elf" "Bard" "male")]
    let after := before.perform (.play (.submit "Hello") (.said "DAMAGE:Bo,99"))
    after.phase = .gameOver ∧ ∃ outcome,
      (((Deed.submit "Hello").move before).settle (.said "DAMAGE:Bo,99")).2 = .ok (some outcome) ∧
      ∃ opened line, (Deed.submit "Hello").Starts before opened line ∧
        (after.phase = .gameOver ↔ (∀ c ∈ after.roster.members, c.currentHp = 0) ∧
          ∃ c ∈ opened.roster.members, c.currentHp ≠ 0) ∧
        (after.phase ≠ .gameOver → after.phase = .awaitingInput) ∧
        ((∀ c ∈ opened.roster.members, c.currentHp = 0) →
          ∀ c ∈ after.roster.members, c.currentHp = 0) := by
  obtain ⟨outcome, h⟩ := exists_outcome_of_isSome (by decide +kernel :
    (((Deed.submit "Hello").move ((Session.start .usual (.ofWords [7])).run
      [.create (.ofIdentity "Bo" "Elf" "Bard" "male")])).settle
        (.said "DAMAGE:Bo,99")).2.toOption.join.isSome)
  exact ⟨by decide +kernel, outcome, h, gameOver_iff_of_completed _ _ _ _ _ h⟩

/-- Where the last member who stood has left a party, a turn is completed and nobody has hit points
at its end, and still the player is asked again. -/
theorem phase_of_last_standing_removed :
    let before := (Session.start .usual (.ofWords [7])).run
      [.create (.ofIdentity "Bo" "Elf" "Bard" "male"),
        .create (.ofIdentity "Ann" "Elf" "Bard" "female"),
        .play (.submit "Hello") (.said "DAMAGE:Bo,99"), .remove 1]
    let after := before.perform (.play (.submit "Help") (.said "Silence."))
    (((Deed.submit "Help").move before).settle (.said "Silence.")).2.toOption.join.isSome ∧
      after.roster.members ≠ [] ∧ (∀ c ∈ after.roster.members, c.currentHp = 0) ∧
        after.phase = .awaitingInput := by
  decide +kernel

end Session

end Tabletop
