import Tabletop.Proofs.Session.Actions

/-!
# A game that is over

Nothing that the player does in a game that is over reaches the narrator, and no change to the party
takes the game up again, with one exception: `begin` asks only whether anything has been told yet.
A saved game in which the whole party is down and the log is empty is over when it is taken up, and
can be begun.
-/

namespace Tabletop

/-- A deed is turned away: an error comes back, the table stays as it is, and none of its cast is
asked for anything. -/
def Session.Refuses (s : Session) (d : Deed) : Prop :=
  ∃ e, ∀ {m : Type → Type} [Monad m] (cast : Cast m) (t : Table), t.session = s →
    t.play cast d.move = pure (t, .error e)

namespace Step

/-- The step takes up a saved game. -/
def restores (s : Session) : Step → Bool
  | .load text => (s.load text).isOk
  | _ => false

/-- The step begins an adventure of which nothing has been told. -/
def begins (s : Session) : Step → Bool
  | .play .begin _ => s.log.isEmpty && !s.roster.isEmpty
  | _ => false

/-- The game is over after the step, and the step is no deed but one that is turned away. -/
def LeavesOver (s : Session) (step : Step) : Prop :=
  (s.perform step).phase = .gameOver ∧ ∀ d answer, step = .play d answer → s.Refuses d

end Step

namespace Session

variable {s : Session}

/-- Each of the steps, with the session that it is taken in, has a property. -/
def Throughout (p : Session → Step → Prop) : Session → List Step → Prop
  | _, [] => True
  | s, step :: steps => p s step ∧ Throughout p (s.perform step) steps

/-! ## Steps that are no deeds -/

/-- The phase stays, and entries without invitations may come to the log. -/
structure Keeps (s s' : Session) : Prop where
  phase : s'.phase = s.phase
  log : ∃ entries : List Event, (∀ e ∈ entries, e.invitation = none) ∧ s'.log = s.log ++ entries

private theorem Keeps.of_eq {s' : Session} (hphase : s'.phase = s.phase) (hlog : s'.log = s.log) :
    s.Keeps s' :=
  ⟨hphase, [], by simp, by simp [hlog]⟩

private theorem Keeps.refl (s : Session) : s.Keeps s := .of_eq rfl rfl

/-- What an action amends that takes up no saved game. -/
theorem Keeps.of_amended {s' : Session} {a : Action} (hrestores : a.restores s = false)
    (h : s.Amended a s') : s.Keeps s' := by
  cases h with
  | given => exact ⟨rfl, [_], by simp [transferred, Event.game], rfl⟩
  | restored hsaved hrestore =>
    simp [Action.restores, hsaved, hrestore, Except.isOk, Except.toBool] at hrestores
  | _ => exact .of_eq rfl rfl

/-- The action of a step is no deed if the step is none, and takes up a saved game only if the step
does. -/
private theorem action_of_not_deed {step : Step} {a : Action} {answer : Answer}
    (h : step.action? = some (a, answer)) (hload : step.restores s = false)
    (hdeed : ∀ d answer, step ≠ .play d answer) : a.deed? = none ∧ a.restores s = false := by
  cases step with
  | add newcomer =>
    obtain ⟨c, -, heq⟩ := Option.map_eq_some_iff.mp h
    cases heq
    exact ⟨rfl, rfl⟩
  | load text =>
    cases h
    refine ⟨rfl, ?_⟩
    rw [Step.restores, Session.load] at hload
    cases hread : text.bind SavedGame.read with
    | error e => simp [Action.restores, Action.saved?, hread, Except.toOption]
    | ok game =>
      rw [hread] at hload
      simpa [Action.restores, Action.saved?, hread, Except.toOption] using hload
  | play d answer => exact absurd rfl (hdeed d answer)
  | _ =>
    cases h
    exact ⟨rfl, rfl⟩

/-- A step that is no deed and takes up no saved game. -/
theorem Keeps.of_not_deed {step : Step} (hload : step.restores s = false)
    (hdeed : ∀ d answer, step ≠ .play d answer) : s.Keeps (s.perform step) := by
  rw [perform_eq_follow]
  cases hstep : step.action? with
  | none => exact .refl s
  | some x =>
    obtain ⟨hnone, hrestores⟩ := action_of_not_deed hstep hload hdeed
    show s.Keeps ((x.1.move s).settle x.2).1
    have hcomes := x.1.comes s
    generalize x.1.move s = m at hcomes
    cases hcomes with
    | refused e => exact .refl s
    | amended signals h => exact .of_amended hrestores h
    | deed hd =>
      rw [hnone] at hd
      cases hd

/-! ## Deeds -/

private theorem Refuses.of_move {d : Deed} {e : SessionError} (h : d.move s = s.refuse e) :
    s.Refuses d := by
  refine ⟨e, fun cast t ht => ?_⟩
  subst ht
  simp only [Table.play, h]
  rfl

private theorem ensurePlayable_of_over (h : s.phase = .gameOver) :
    s.ensurePlayable = .error .gameOver := if_pos h

/-- In a game that is over every deed is turned away, but for `begin` where nothing is told. -/
private theorem exists_refuse {d : Deed} {answer : Answer} (hover : s.phase = .gameOver)
    (h : Step.begins s (.play d answer) = false) : ∃ e, d.move s = s.refuse e := by
  have hplay := ensurePlayable_of_over hover
  cases d with
  | begin =>
    by_cases hlog : s.log.isEmpty = true
    · have hparty : s.roster.isEmpty = true := by simpa [Step.begins, hlog] using h
      exact ⟨.noParty, by simp [Deed.move, begin, hlog, hparty]⟩
    · exact ⟨.alreadyStarted, by simp [Deed.move, begin, hlog]⟩
  | submit input =>
    by_cases htext : Text.trim input = ""
    · exact ⟨.emptyInput, by simp [Deed.move, submit, htext]⟩
    · exact ⟨.gameOver, by simp [Deed.move, submit, htext, hplay]⟩
  | accept index => exact ⟨.gameOver, by simp [Deed.move, accept, hplay]⟩
  | decline index => exact ⟨.gameOver, by simp [Deed.move, decline, hplay]⟩
  | useItem member index => exact ⟨.gameOver, by simp [Deed.move, useItem, hplay]⟩

/-- A deed that opens a turn is not turned away: the narrator may answer it. -/
private theorem not_refuses_of_asking {d : Deed} {turn : Turn}
    (h : (d.move s).opening = .asking turn) : ¬ s.Refuses d := by
  rintro ⟨e, he⟩
  let terse : Cast (StateM Unit) := ⟨fun _ => pure (some (0, .ok "")), fun _ => pure (0, none)⟩
  have hplay := Table.play_run terse (Table.ofSession s ⟨false, false, false⟩) d.move ()
  rw [he terse _ rfl] at hplay
  have hresult : .error e = ((d.move s).settle ((d.move s).answer fun _ => some (0, .ok ""))).2 :=
    congrArg Prod.snd hplay
  simp [Move.settle, Move.answer, h, Table.heard, closeTurn, Except.map] at hresult

private theorem opening_begin (answer : Answer) (h : Step.begins s (.play .begin answer) = true) :
    ∃ turn, (Deed.begin.move s).opening = .asking turn := by
  obtain ⟨hlog, hparty⟩ : s.log.isEmpty = true ∧ s.roster.isEmpty = false := by
    simpa [Step.begins] using h
  exact ⟨_, by simp only [Deed.move, begin, hlog, hparty]; rfl⟩

/-! ## Steps of a game that is over -/

variable {step : Step} {steps : List Step}

private theorem keeps_of_over (hover : s.phase = .gameOver) (hload : step.restores s = false)
    (hbegin : step.begins s = false) :
    s.Keeps (s.perform step) ∧ ∀ d answer, step = .play d answer → s.Refuses d := by
  cases step with
  | play d answer =>
    obtain ⟨e, he⟩ := exists_refuse hover hbegin
    refine ⟨?_, fun _ _ hplay => ?_⟩
    · simp only [perform, he]
      exact .refl s
    · cases hplay
      exact .of_move he
  | _ => exact ⟨.of_not_deed hload (by simp), by simp⟩

/-- A step leaves a game over that is over exactly if it does not begin what is told of nowhere. -/
private theorem leavesOver_iff (hover : s.phase = .gameOver) (hload : step.restores s = false) :
    step.LeavesOver s ↔ step.begins s = false := by
  refine ⟨fun hleaves => ?_, fun hbegin => ?_⟩
  · unfold Step.begins
    split
    · next answer =>
      rw [Bool.eq_false_iff]
      intro hbegin
      obtain ⟨turn, hturn⟩ := opening_begin answer hbegin
      exact not_refuses_of_asking hturn (hleaves.2 .begin answer rfl)
    · rfl
  · obtain ⟨hkeeps, hrefuses⟩ := keeps_of_over hover hload hbegin
    exact ⟨hkeeps.phase.trans hover, hrefuses⟩

private theorem throughout_leavesOver_iff (hover : s.phase = .gameOver)
    (hload : s.Throughout (fun s step => step.restores s = false) steps) :
    s.Throughout (fun s step => step.LeavesOver s) steps ↔
      s.Throughout (fun s step => step.begins s = false) steps := by
  induction steps generalizing s with
  | nil => exact Iff.rfl
  | cons step steps ih =>
    have hstep := leavesOver_iff hover hload.1
    refine ⟨fun h => ⟨hstep.mp h.1, (ih h.1.1 hload.2).mp h.2⟩, fun h => ?_⟩
    have hleaves := hstep.mpr h.1
    exact ⟨hleaves, (ih hleaves.1 hload.2).mpr h.2⟩

/-- Where something has been told, something has been told ever after. -/
private theorem throughout_not_begins (hover : s.phase = .gameOver) (hlog : s.log ≠ [])
    (hload : s.Throughout (fun s step => step.restores s = false) steps) :
    s.Throughout (fun s step => step.begins s = false) steps := by
  induction steps generalizing s with
  | nil => trivial
  | cons step steps ih =>
    have hbegin : step.begins s = false := by
      unfold Step.begins
      split
      · simp [hlog]
      · rfl
    obtain ⟨hkeeps, -⟩ := keeps_of_over hover hload.1 hbegin
    refine ⟨hbegin, ih (hkeeps.phase.trans hover) ?_ hload.2⟩
    obtain ⟨entries, -, hentries⟩ := hkeeps.log
    simp [hentries, hlog]

/-- Unless a saved game is taken up, a game that is over stays over and every deed in it is turned
away as long as nobody begins the adventure while its log is empty; who begins it then is not turned
away. Where the log is not empty to start with, the game stays over. -/
theorem leavesOver_throughout_iff (hover : s.phase = .gameOver)
    (hload : s.Throughout (fun s step => step.restores s = false) steps) :
    (s.Throughout (fun s step => step.LeavesOver s) steps ↔
        s.Throughout (fun s step => step.begins s = false) steps) ∧
      (s.log ≠ [] → s.Throughout (fun s step => step.LeavesOver s) steps) := by
  have hiff := throughout_leavesOver_iff hover hload
  exact ⟨hiff, fun hlog => hiff.mpr (throughout_not_begins hover hlog hload)⟩

/-- A lone member is struck down; neither a new beginning nor a new member takes the game up. -/
theorem leavesOver_throughout_struck :
    let s := (start .usual (.ofWords [7])).run [.create (.ofIdentity "Bo" "Elf" "Bard" "male"),
      .play (.submit "Hello") (.said "DAMAGE:Bo,99")]
    let steps := [.play .begin (.said "Dawn."), .create (.ofIdentity "Ann" "Elf" "Bard" "female"),
      .play (.submit "Help") (.said "Silence.")]
    s.phase = .gameOver ∧ s.log ≠ [] ∧ s.Throughout (fun s step => step.restores s = false) steps ∧
      s.Throughout (fun s step => step.LeavesOver s) steps := by
  intro s steps
  have hover : s.phase = .gameOver := by decide +kernel
  have hlog : s.log ≠ [] := by decide +kernel
  have hload : s.Throughout (fun s step => step.restores s = false) steps :=
    ⟨rfl, rfl, rfl, trivial⟩
  exact ⟨hover, hlog, hload, (leavesOver_throughout_iff hover hload).2 hlog⟩

private theorem run_load {text : String} {g : SavedGame} (s : Session)
    (h : SavedGame.read text = .ok g) : s.run [.load (.ok text)] = s.orElse (s.restore g) := by
  rw [run, List.foldl_cons, List.foldl_nil, perform, load, Except.bind, h]

/-- A saved game whose only member is down, and of which nothing has been told. -/
private def lostGame : SavedGame :=
  ⟨[{ Character.bare "Bo" "Elf" "Bard" 8 with currentHp := 0, status := .downed }], [], 0, .usual⟩

/-- A saved game whose only member is down, and of which nothing has been told, is over when it is
taken up, and can still be begun: the narrator's answer completes a turn, and the player is asked
what to do. -/
theorem phase_of_begin_of_over :
    let down := (start .usual (.ofWords [7])).run [.load (.ok (
      "\x7b\"version\":\"1.0\",\"characters\":[\x7b\"name\":\"Bo\",\"race\":\"Elf\"," ++
      "\"characterClass\":\"Bard\",\"stats\":\x7b\"strength\":10,\"dexterity\":10," ++
      "\"constitution\":10,\"intelligence\":10,\"wisdom\":10,\"charisma\":10\x7d," ++
      "\"maxHp\":8,\"currentHp\":0\x7d],\"storyLog\":[],\"mainCharacterIndex\":0\x7d"))]
    down.phase = .gameOver ∧
      ((Deed.begin.move down).settle (.said "Dust.")).2.toOption.join.isSome ∧
        (down.perform (.play .begin (.said "Dust."))).phase = .awaitingInput := by
  rw [run_load _ (g := lostGame)]
  · decide +kernel
  · apply eq_ok_of_toOption
    -- The pieces are joined as characters, so that no text is taken apart byte by byte.
    repeat rw [← String.ofList_append]
    rw [SavedGame.read, Document.parseWhole?, Document.parse?, String.toList_ofList]
    decide +kernel

end Session

end Tabletop
