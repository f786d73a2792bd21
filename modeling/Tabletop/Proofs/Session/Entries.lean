import Tabletop.Proofs.Session.Finality
import Tabletop.Proofs.Session.Replay

/-!
# What comes to the log

Entries stay in the log as they are; only the invitation that an action answers gets another status.
A turn that is completed writes what its outcome tells, after the line that its deed may have
written before, and nothing else.
-/

namespace Tabletop

/-- A turn of rest brings a character hit points. -/
def Character.gainsAtRest (threshold : UInt32) (c : Character) : Bool :=
  (c.regenerate? threshold).any fun result => c.currentHp.toInt < result.1.currentHp.toInt

/-- The entries for members who gain a hit point at rest, in the order of the party. -/
def Roster.healed (r : Roster) (threshold : UInt32) : List Event :=
  (r.members.filter (Character.gainsAtRest threshold)).map
    fun c => .game (c.name ++ " regenerated 1 HP.")

/-- The entries of a log as they are but for the status of their invitations. -/
def Log.lasting (log : Log) : Log := log.map (Event.setStatus · .pending)

/-- What becomes of an invitation is not lasting. -/
theorem Log.lasting_setStatus (log : Log) (index : Nat) (status : InvitationStatus) :
    Log.lasting (log.setStatus index status).1 = log.lasting := by
  unfold Log.setStatus
  split
  · apply List.ext_getElem?
    intro k
    rw [lasting, lasting, List.getElem?_map, List.getElem?_map, List.getElem?_modify]
    cases log[k]? with
    | none => rfl
    | some e => by_cases h : index = k <;> simp [h, Event.setStatus, Function.comp_def]
  · rfl

/-- The invitation that a deed answers. -/
def Deed.answers? : Deed → Option Nat
  | .accept index | .decline index => some index
  | _ => none

/-- What a deed writes to the log before its turn: that the scene is set, or what an item has
healed. -/
def Deed.preface (s : Session) : Deed → List Event
  | .begin => [.system Session.settingTheScene]
  | .useItem member index =>
    let line? : Option Event := do
      let c ← s.roster.get? member
      let item ← c.inventory[index]?
      let gained := (c.heal (item.rollHealing s.dice).1).currentHp.toInt - c.currentHp.toInt
      return .game (c.name ++ " used " ++ item.name ++ " and recovered " ++
        Text.ofNat gained.toNat ++ " HP.")
    line?.toList
  | _ => []

namespace Session

/-- A log as it was, or with another status of the invitation that an action answers. -/
inductive Answered (s : Session) (a : Action) : Log → Prop
  | same : Answered s a s.log
  | marked {index : Nat} {i : Invitation} (status : InvitationStatus) :
    a.deed?.bind Deed.answers? = some index → s.pendingInvitation? index = some i →
      Answered s a (Log.setStatus s.log index status).1

/-- The outcome of a turn that started here accounts for an exchange. Its entries are the player's
line and those for members who healed at rest, none of both where the adventure begins; then those
for its effects; and last the narrator's, if there is something to tell or to offer. -/
structure Accounts (start : Session) (x : Exchange) (outcome : Outcome) : Prop where
  narration : outcome.narration = Reply.clean (Reply.pieces x.reply.toList)
  effects : (start.standing.hear? start.settings.regenThreshold x).map Prod.snd =
    some outcome.effects
  events : ∃ offered : Option Invitation,
    outcome.effects.filterMap offer? = offered.toList ∧ outcome.events =
      (if x.rests then .player x.sent :: start.roster.healed start.settings.regenThreshold
        else []) ++
      outcome.effects.filterMap Effect.logEntry? ++
      if outcome.narration = "" ∧ offered = none then []
      else [⟨.narrator, outcome.narration, offered⟩]

variable {s s' start : Session} {a : Action} {d : Deed} {m : Move} {line : List Event} {turn : Turn}

/-! ## Completed turns -/

/-- A character's own entry for rest tells of a hit point gained. -/
private theorem rested?_eq {c d : Character} {threshold : UInt32} {done : Regeneration}
    (h : c.regenerate? threshold = some (d, done)) :
    rested? (d, done) =
      if c.gainsAtRest threshold then some (.game (c.name ++ " regenerated 1 HP.")) else none := by
  have hrests := Character.rests_of_regenerate? h
  rw [Character.gainsAtRest, h, Option.any_some, ← hrests.name]
  rcases hrests.hp with ⟨rfl, hhp⟩ | ⟨hhealed, hhp⟩
  · rw [if_pos (decide_eq_true (by dsimp only; omega))]
    rfl
  · rw [hhp, if_neg (by simp)]
    cases done with
    | healed => exact absurd rfl hhealed
    | _ => rfl

private theorem RestsTo.filterMap_rested? {threshold : UInt32} {cs : List Character}
    {results : List (Character × Regeneration)} (h : RestsTo threshold cs results) :
    results.filterMap rested? = (cs.filter (Character.gainsAtRest threshold)).map
      fun c => .game (c.name ++ " regenerated 1 HP.") := by
  induction h with
  | nil => rfl
  | @cons c _ _ _ hturn _ ih =>
    rw [List.filterMap_cons, rested?_eq hturn, List.filter_cons]
    by_cases hgains : c.gainsAtRest threshold <;> simp [hgains, ih]

/-- The entries that a turn opens with are the player's line and those for rest. -/
private theorem events_of_asks (h : Asks m start line turn) :
    turn.events = if turn.isPlayers then
      .player turn.text :: start.roster.healed start.settings.regenThreshold else [] := by
  obtain ⟨rested, hready, hevents⟩ := h.readied
  rw [hevents, ← h.playerLine]
  cases hplayers : turn.isPlayers with
  | false =>
    rw [hplayers] at hready
    rw [← (Prod.mk.inj (Option.some.inj hready)).2]
    rfl
  | true =>
    rw [hplayers] at hready
    obtain ⟨results, hresults, -, rfl⟩ := rest?_eq_some_iff.mp hready
    exact congrArg (Event.player turn.text :: ·) hresults.filterMap_rested?

private theorem accounts_completeTurn (h : Asks m start line turn) (raw : String) :
    start.Accounts ⟨turn.question.input, raw, turn.isPlayers⟩
      (start.completeTurn turn raw).2.2 := by
  let ds := Reply.directives (Reply.pieces raw.toList)
  let effects := ((start.situation turn).applyAll ds).2
  have heffects : (start.standing.hear? start.settings.regenThreshold
      ⟨turn.question.input, raw, turn.isPlayers⟩).map Prod.snd = some effects :=
    congrArg (Option.map Prod.snd) (applyAll_situation h raw)
  have hoffered : effects.filterMap offer? = (effects.filterMap offer?).getLast?.toList := by
    rcases Situation.offers_applyAll (s := start.situation turn) ds with hnone | ⟨i, hi, -, -, -⟩
    · rw [show effects.filterMap offer? = [] from hnone]
      rfl
    · rw [show effects.filterMap offer? = [i] from hi]
      rfl
  refine ⟨rfl, heffects, _, hoffered, ?_⟩
  rw [h.input, ← events_of_asks h]
  rfl

/-! ## Answered turns -/

private theorem prefix_settle (h : Asks m start line turn) (answer : Answer) :
    start.log <+: (m.settle answer).1.log := by
  rcases answer.said_or_unanswered _ with ⟨raw, rfl⟩ | ⟨e, he⟩
  · rw [h.settle_said]
    exact List.prefix_append ..
  · rw [h.settle_of_error? he]
    exact ⟨line ++ [.system connectionLost], (List.append_assoc ..).symm⟩

private theorem accounts_settle {answer : Answer} {outcome : Outcome}
    (hstart : d.Starts s start line) (h : Asks m start line turn)
    (hresult : (m.settle answer).2 = .ok (some outcome)) :
    ∃ x, m.exchange? (some d != some .begin) answer = some x ∧ start.Accounts x outcome ∧
      (m.settle answer).1.log = start.log ++ outcome.events := by
  rcases answer.said_or_unanswered _ with ⟨raw, rfl⟩ | ⟨e, he⟩
  · rw [h.settle_said] at hresult
    have houtcome := Option.some.inj (Except.ok.inj hresult)
    refine ⟨⟨turn.question.input, raw, turn.isPlayers⟩, ?_, ?_, ?_⟩
    · simp only [Move.exchange?, h.opening, h.settle_said, isPlayers_of_starts hstart h]
    · rw [← houtcome]
      exact accounts_completeTurn h raw
    · rw [h.settle_said, ← houtcome]
      rfl
  · rw [h.settle_of_error? he] at hresult
    cases hresult

/-! ## Actions -/

private theorem log_of_starts (ha : a.deed? = some d) (h : d.Starts s start line) :
    ∃ answered, s.Answered a answered ∧ start.log = answered ++ d.preface s := by
  cases h with
  | begin => exact ⟨s.log, .same, rfl⟩
  | submit => exact ⟨s.log, .same, (List.append_nil _).symm⟩
  | accept hi => exact ⟨_, .marked .accepted (by rw [ha]; rfl) hi, (List.append_nil _).symm⟩
  | decline hi => exact ⟨_, .marked .declined (by rw [ha]; rfl) hi, (List.append_nil _).symm⟩
  | useItem hc hi hr hcount =>
    refine ⟨s.log, .same, ?_⟩
    simp [Deed.preface, hc, hi, hr, hcount]

/-- Unless it takes up a saved game, an action leaves all entries in the log, but for the status of
the invitation that it answers. -/
theorem exists_answered (hrestores : a.restores s = false) (answer : Answer) :
    ∃ answered, s.Answered a answered ∧ answered <+: ((a.move s).settle answer).1.log := by
  have hcomes := a.comes s
  generalize a.move s = m at hcomes
  cases hcomes with
  | refused e => exact ⟨s.log, .same, List.prefix_rfl⟩
  | amended signals h =>
    obtain ⟨entries, -, hlog⟩ := (Keeps.of_amended hrestores h).log
    exact ⟨s.log, .same, entries, hlog.symm⟩
  | deed ha h =>
    cases h with
    | refused e => exact ⟨s.log, .same, List.prefix_rfl⟩
    | unjoined hd hi => exact ⟨_, .marked .error (by rw [ha, hd]; rfl) hi, List.prefix_rfl⟩
    | idle dice => exact ⟨s.log, .same, List.prefix_rfl⟩
    | asking hstart hm =>
      obtain ⟨answered, hanswered, hlog⟩ := log_of_starts ha hstart
      have hbefore := hlog ▸ List.prefix_append answered _
      exact ⟨answered, hanswered, hbefore.trans (prefix_settle hm answer)⟩
    | overflow hstart hb =>
      obtain ⟨answered, hanswered, hlog⟩ := log_of_starts ha hstart
      rw [hb.settle, show _ = answered ++ _ from hlog]
      exact ⟨answered, hanswered, List.prefix_append answered _⟩

private theorem lasting_of_answered {answered : Log} (h : s.Answered a answered) :
    answered.lasting = s.log.lasting := by
  cases h with
  | same => rfl
  | marked status => exact Log.lasting_setStatus s.log _ status

/-- While no saved game is taken up, the log only grows. -/
theorem lasting_prefix_follow {actions : List (Action × Answer)}
    (h : ∀ x ∈ actions, x.1.saved? = none) : s.log.lasting <+: (s.follow actions).log.lasting := by
  refine follow_induction (p := fun now => s.log.lasting <+: now.log.lasting)
    (q := fun a => a.saved? = none) (fun now a answer ha hnow => ?_) h List.prefix_rfl
  have hrestores : a.restores now = false := by rw [Action.restores, ha, Option.any_none]
  obtain ⟨answered, hanswered, hkeeps⟩ := exists_answered hrestores answer
  rw [← lasting_of_answered hanswered] at hnow
  exact hnow.trans (hkeeps.map _)

private theorem exists_accounts {answer : Answer} {outcome : Outcome}
    (h : ((a.move s).settle answer).2 = .ok (some outcome)) :
    ∃ d x start line answered, a.deed? = some d ∧
      (a.move s).exchange? (some d != some .begin) answer = some x ∧ d.Starts s start line ∧
        s.Answered a answered ∧ start.log = answered ++ d.preface s ∧ start.Accounts x outcome ∧
          ((a.move s).settle answer).1.log = start.log ++ outcome.events := by
  have hcomes := a.comes s
  generalize a.move s = m at h hcomes ⊢
  cases hcomes with
  | refused e => cases h
  | amended signals hs => cases h
  | @deed d _ ha hd =>
    cases hd with
    | refused e => cases h
    | unjoined hd hi => cases h
    | idle dice => cases h
    | asking hstart hm =>
      obtain ⟨answered, hanswered, hlog⟩ := log_of_starts ha hstart
      obtain ⟨x, hx, haccounts, hafter⟩ := accounts_settle hstart hm h
      exact ⟨d, x, _, _, answered, ha, hx, hstart, hanswered, hlog, haccounts, hafter⟩
    | overflow hstart hb =>
      rw [hb.settle] at h
      cases h

/-- Unless it takes up a saved game, an action leaves all entries in the log, but for the status of
the invitation that it answers, and adds its own at the end. One that completes a turn adds the line
that its deed writes before the turn and what the outcome tells, and the outcome accounts for the
exchange with the narrator. -/
theorem log_settle (hrestores : a.restores s = false) (answer : Answer) :
    let result := (a.move s).settle answer
    (∃ answered, s.Answered a answered ∧ answered <+: result.1.log) ∧
      ∀ outcome, result.2 = .ok (some outcome) → ∃ d x start line answered,
        a.deed? = some d ∧ (a.move s).exchange? (some d != some .begin) answer = some x ∧
          d.Starts s start line ∧ s.Answered a answered ∧ start.log = answered ++ d.preface s ∧
            start.Accounts x outcome ∧ result.1.log = start.log ++ outcome.events :=
  ⟨exists_answered hrestores answer, fun _ h => exists_accounts h⟩

/-- A member drinks a potion and rests, is hurt again and meets a bard. -/
theorem log_settle_potion :
    let strong := { Recipe.ofIdentity "Bo" "Elf" "Bard" "male" with
      stats := { AbilityScores.average with strength := 14 } }
    let s := (Session.start { Settings.usual with regenThreshold := 1 } (.ofWords [7])).follow
      [(.create strong, .late), (.play (.submit "Hello"), .said "DAMAGE:Bo,12")]
    let a : Action := .play (.useItem 0 0)
    let answer : Answer :=
      .said "DAMAGE:Bo,1\nINVITE_CHARACTER:[Cy, Elf, Bard, male]\nA bard nods."
    let result := (a.move s).settle answer
    a.restores s = false ∧ (∃ answered, s.Answered a answered ∧ answered <+: result.1.log) ∧
      ∃ outcome x, ∃ start : Session, ∃ answered, result.2 = .ok (some outcome) ∧
        outcome.events.map Event.describe =
          ["> (I use a Potion of Healing and recover 4 HP.)", "* Bo regenerated 1 HP.",
            "* Bo took 1 damage.", "A bard nods."] ∧
          s.Answered a answered ∧ start.log = answered ++ (Deed.useItem 0 0).preface s ∧
            start.Accounts x outcome ∧ result.1.log = start.log ++ outcome.events := by
  intro strong s a answer result
  have hrestores : a.restores s = false := rfl
  have hoccurs : result.2.toOption.join.map (fun o => o.events.map Event.describe) =
      some ["> (I use a Potion of Healing and recover 4 HP.)", "* Bo regenerated 1 HP.",
        "* Bo took 1 damage.", "A bard nods."] := by decide +kernel
  have ha : a.deed? = some (.useItem 0 0) := rfl
  obtain ⟨hkept, haccounts⟩ := log_settle hrestores answer
  clear_value s
  obtain ⟨outcome, ho⟩ : ∃ outcome, result.2 = .ok (some outcome) :=
    exists_outcome_of_isSome (by simpa using congrArg Option.isSome hoccurs)
  rw [ho] at hoccurs
  obtain ⟨d, x, start, line, answered, hd, -, -, hanswered, hlog, hx, hafter⟩ :=
    haccounts outcome ho
  cases ha.symm.trans hd
  exact ⟨hrestores, hkept, outcome, x, start, answered, ho, Option.some.inj hoccurs, hanswered,
    hlog, hx, hafter⟩

end Session

end Tabletop
