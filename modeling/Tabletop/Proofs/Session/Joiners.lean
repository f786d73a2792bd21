import Tabletop.Proofs.Party.Recipes
import Tabletop.Proofs.Party.Scores
import Tabletop.Proofs.Session.Entries

/-!
# Joiners

Whatever the dice, an invitation that the narrator has offered makes a joiner as it says, and all
invitations in a log are offers of the narrator. One that is accepted where turns can be taken fails
only because the party is full (`joins_of_offered`).
-/

namespace Tabletop

/-- Some text of the narrator makes the offer. -/
def Invitation.Offered (i : Invitation) : Prop :=
  ∃ text : String, .invite i ∈ Reply.directives (Reply.pieces text.toList)

/-- A character is the one who is invited, and in full health. -/
structure Invitation.Joiner (i : Invitation) (c : Character) : Prop where
  name : c.name = i.name
  race : c.race = i.race
  calling : c.calling = i.calling
  gender : c.gender = i.gender
  one_le_hp : 1 ≤ c.currentHp.toInt
  full : c.currentHp = c.maxHp
  alive : c.status = .alive

/-- All invitations of a log have been offered, whatever has become of them. -/
def Log.Offered (log : Log) : Prop := ∀ e ∈ log.lasting, ∀ i, e.invitation = some i → i.Offered

/-! ## Makings -/

private theorem isAllBlank_kept {caps : Pattern.Captures} {j : Nat}
    (h : Grammar.kept caps j ≠ "") : Text.isAllBlank (Grammar.kept caps j) = false := by
  have htight : Text.Tight (Text.trimChars (caps.text j)) :=
    .of_trimChars fun hnil => h (by rw [Grammar.kept, hnil])
  rw [← Bool.not_eq_true, Text.isAllBlank_iff, Grammar.kept, String.toList_ofList,
    htight.trimChars_eq]
  exact htight.1

/-- Details drawn at random leave who somebody is, and bring rolled scores. -/
private theorem exists_randomize_eq (r : Recipe) (dice : Dice) :
    ∃ background alignment rolled, (r.randomize dice).1 =
      { r with background, alignment, stats := (AbilityScores.roll rolled).1 } := by
  unfold Recipe.randomize
  rcases dice.choose backgrounds with ⟨background, dice⟩
  dsimp only
  rcases dice.choose alignments with ⟨alignment, dice⟩
  exact ⟨background, alignment, dice, rfl⟩

/-- Whoever is offered can be made, whatever the dice. -/
private theorem Invitation.Offered.exists_joiner {i : Invitation} (h : i.Offered) (dice : Dice) :
    ∃ c, (i.recipe dice).1.make = .ok c ∧ i.Joiner c := by
  obtain ⟨text, htext⟩ := h
  obtain ⟨k, caps, hread⟩ := Reply.exists_read?_of_mem htext
  obtain ⟨hoffer, hkept⟩ := Grammar.offer_of_read? hread
  obtain ⟨background, alignment, rolled, hrecipe⟩ :=
    exists_randomize_eq (.ofIdentity i.name i.race i.calling i.gender) dice
  have hvalid : (i.recipe dice).1.validate = .ok () := by
    rw [Invitation.recipe, hrecipe, Recipe.validate_eq_ok_iff]
    refine ⟨?_, ?_, fun score hscore => ?_⟩
    · rw [hoffer]
      exact isAllBlank_kept (hkept 2 (by simp))
    · rw [hoffer]
      exact isAllBlank_kept (hkept 3 (by simp))
    · have hbounds := AbilityScores.bounds_of_mem_roll hscore
      simp only [Recipe.scoreInRange, Bool.and_eq_true, decide_eq_true_eq]
      omega
  obtain ⟨c, hmake, hc⟩ := Recipe.exists_make hvalid
  have hvital := Character.Vital.make hmake
  rw [Invitation.recipe, hrecipe] at hc
  exact ⟨c, hmake, hc.name, hc.race, hc.calling, hc.gender, hc.currentHp ▸ hvital.one_le_max,
    hc.currentHp, hc.status⟩

/-! ## Answers -/

/-- What the acceptance of an invitation comes to: it is refused where no turn can be taken; the
invitation fails where the party is full; and elsewhere the joiner comes to the party, and a turn
starts that tells the narrator. -/
inductive Session.Accepts (s : Session) (index : Nat) (i : Invitation) : Move → Prop
  | refused {e : SessionError} : s.ensurePlayable = .error e → Accepts s index i (s.refuse e)
  | full {dice : Dice} : s.ensurePlayable = .ok () → s.roster.isFull = true →
    Accepts s index i ⟨({ s with dice } : Session).mark index .error, [.hush],
      .refused (.roster (.full s.roster.cap))⟩
  | joined {c : Character} {dice : Dice} {m : Move} :
    s.ensurePlayable = .ok () → s.roster.isFull = false → i.Joiner c →
      Puts m ((s.withJoiner c dice).mark index .accepted)
        [.player ("(I have accepted. " ++ i.name ++ " joins the party.)")] →
          Accepts s index i m

/-- Where turns can be taken and the party has room, the joiner is in the party at the end, whatever
the narrator answers. -/
private theorem Session.Accepts.names {s : Session} {index : Nat} {i : Invitation} {m : Move}
    (h : s.Accepts index i m) (hplay : s.ensurePlayable = .ok ()) (hroom : s.roster.isFull = false)
    (answer : Answer) : (m.settle answer).1.roster.names = s.roster.names ++ [i.name] := by
  cases h with
  | refused he =>
    rw [hplay] at he
    cases he
  | full _ hfull =>
    rw [hroom] at hfull
    cases hfull
  | joined _ _ hc hputs =>
    rw [← hc.name]
    cases hputs with
    | asks hturn =>
      obtain ⟨members, hnames, hroster⟩ := hturn.members_settle answer
      rw [hroster, Roster.names, hnames]
      exact List.map_append
    | breaksOff hb =>
      rw [hb.settle]
      exact List.map_append

private theorem accepts_of_offered {s : Session} {index : Nat} {i : Invitation} (h : i.Offered)
    (hi : s.pendingInvitation? index = some i) : s.Accepts index i (s.accept index) := by
  cases hplay : s.ensurePlayable with
  | error e =>
    have hrefused : s.accept index = s.refuse e := by simp only [Session.accept, hplay]
    rw [hrefused]
    exact .refused hplay
  | ok =>
    obtain ⟨c, hmake, hc⟩ := h.exists_joiner s.dice
    rcases hr : i.recipe s.dice with ⟨recipe, dice⟩
    rw [hr] at hmake
    rcases accept_eq hplay hi hr with ⟨e, he, ha⟩ | ⟨c', hmake', hroom, ha⟩
    · rw [ha]
      cases he with
      | unmade hcause =>
        rw [hmake] at hcause
        cases hcause
      | noRoom hfull => exact .full hplay hfull
    · rw [hmake] at hmake'
      cases hmake'
      have hputs := puts_accept ha
      rw [hc.name] at hputs
      exact .joined hplay hroom hc hputs

/-! ## Logs -/

namespace Log.Offered

variable {before after : Log}

private theorem of_mem (h : before.Offered)
    (hnew : ∀ e ∈ after, e ∈ before ∨ ∀ i, e.invitation = some i → i.Offered) :
    after.Offered := by
  intro e he i hi
  obtain ⟨d, hd, rfl⟩ := List.mem_map.mp he
  rcases hnew d hd with hd | hoffered
  · exact h _ (List.mem_map_of_mem hd) i hi
  · -- What has just been offered waits for its answer already.
    obtain ⟨j, hj, rfl⟩ := Option.map_eq_some_iff.mp hi
    obtain ⟨text, htext⟩ := hoffered j hj
    rw [← Reply.status_of_invite_mem htext]
    exact ⟨text, htext⟩

private theorem append (h : before.Offered) {entries : List Event}
    (hnone : ∀ e ∈ entries, e.invitation = none) : Log.Offered (before ++ entries) := by
  refine h.of_mem fun e he => ?_
  rcases List.mem_append.mp he with he | he
  · exact .inl he
  · refine .inr fun i hi => ?_
    rw [hnone e he] at hi
    cases hi

private theorem setStatus (h : before.Offered) (index : Nat) (status : InvitationStatus) :
    (Log.setStatus before index status).1.Offered := by
  rw [Log.Offered, lasting_setStatus]
  exact h

end Log.Offered

namespace Session

variable {s s' start : Session} {a : Action} {d : Deed} {m : Move} {line : List Event} {turn : Turn}

/-- The invitation that waits for an answer has been offered as it is. -/
private theorem offered_of_pendingInvitation? (h : s.log.Offered) {index : Nat} {i : Invitation}
    (hi : s.pendingInvitation? index = some i) : i.Offered := by
  obtain ⟨hinv, hpending⟩ := Option.filter_eq_some_iff.mp hi
  obtain ⟨e, he, hinv⟩ := Option.bind_eq_some_iff.mp hinv
  have hlasting : e.setStatus .pending ∈ s.log.lasting :=
    List.mem_map_of_mem (List.mem_of_getElem? he)
  refine h _ hlasting i ?_
  rw [Event.setStatus, hinv, Option.map_some, ← beq_iff_eq.mp hpending]

/-! ## Deeds -/

private theorem offered_of_starts (h : s.log.Offered) (hstart : d.Starts s start line) :
    start.log.Offered := by
  cases hstart with
  | begin => exact h.append (by simp [Event.system])
  | submit => exact h
  | accept => exact h.setStatus _ _
  | decline => exact h.setStatus _ _
  | useItem => exact h.append (by simp [Event.game])

/-- A turn brings only what the narrator offers in it. -/
private theorem offered_settle (h : Asks m start line turn) (hstart : start.log.Offered)
    (answer : Answer) : (m.settle answer).1.log.Offered := by
  rcases answer.said_or_unanswered _ with ⟨raw, rfl⟩ | ⟨e, he⟩
  · rw [h.settle_said]
    refine hstart.of_mem fun e he => ?_
    rcases invite_mem_of_mem_completeTurn start (invitation_of_mem_events h) he with he | hinvites
    · exact .inl he
    · exact .inr fun i hi => ⟨raw, hinvites i hi⟩
  · rw [h.settle_of_error? he, ← h.playerLine]
    exact (hstart.append fun _ => invitation_of_mem_playerLine).append (by simp [Event.system])

private theorem offered_of_deed (h : s.log.Offered) (hm : d.Comes s m) (answer : Answer) :
    (m.settle answer).1.log.Offered := by
  cases hm with
  | refused e => exact h
  | unjoined => exact h.setStatus _ _
  | idle dice => exact h
  | asking hstart ha => exact offered_settle ha (offered_of_starts h hstart) answer
  | overflow hstart hb =>
    have hoffered := offered_of_starts h hstart
    rw [hb.settle]
    exact hoffered

/-! ## Actions -/

private theorem log_of_restore {game : SavedGame} (h : s.restore game = .ok s') :
    s'.log = game.log := by
  unfold restore at h
  split at h <;> cases h
  rfl

/-- An action brings only what the narrator offers in its turn, or what a saved game holds. -/
private theorem offered_of_action (h : s.log.Offered)
    (hsaved : ∀ game, a.saved? = some game → game.log.Offered) (answer : Answer) :
    ((a.move s).settle answer).1.log.Offered := by
  have hcomes := a.comes s
  generalize a.move s = m at hcomes
  cases hcomes with
  | refused e => exact h
  | amended signals hs =>
    cases hs with
    | given => exact h.append (by simp [transferred, Event.game])
    | restored hgame hrestore =>
      have hlog := hsaved _ hgame
      rw [← log_of_restore hrestore] at hlog
      exact hlog
    | _ => exact h
  | deed _ hd => exact offered_of_deed h hd answer

/-- In the course of a session all invitations have been offered, if those of the saved games that
are taken up have been. -/
private theorem offered_follow {actions : List (Action × Answer)} (h : s.log.Offered)
    (hsaved : ∀ x ∈ actions, ∀ game, x.1.saved? = some game → game.log.Offered) :
    (s.follow actions).log.Offered :=
  follow_induction (p := fun s => s.log.Offered)
    (q := fun a => ∀ game, a.saved? = some game → game.log.Offered)
    (fun _ _ answer hsaved h => offered_of_action h hsaved answer) hsaved h

/-! ## Offers that are kept -/

/-- Every offer can be kept. Whatever the narrator's text and the dice, whoever the text invites can
be made, as the invitation says and in full health. An offer that is accepted where turns can be
taken fails only because the party is full; with room the joiner is in the party at the end,
whatever the narrator answers. In the course of a session every invitation that waits for its answer
is such an offer, unless a saved game has brought another one. -/
theorem joins_of_offered :
    (∀ (text : String) (i : Invitation),
      .invite i ∈ Reply.directives (Reply.pieces text.toList) →
        ∀ dice, ∃ c, (i.recipe dice).1.make = .ok c ∧ i.Joiner c) ∧
    (∀ (s : Session) (index : Nat) (i : Invitation), i.Offered →
      s.pendingInvitation? index = some i →
        s.Accepts index i (s.accept index) ∧
        (s.ensurePlayable = .ok () → s.roster.isFull = false → ∀ answer,
          ((s.accept index).settle answer).1.roster.names = s.roster.names ++ [i.name])) ∧
    ∀ (s : Session) (actions : List (Action × Answer)), s.log.Offered →
      (∀ x ∈ actions, ∀ game, x.1.saved? = some game → game.log.Offered) →
        ∀ index i, (s.follow actions).pendingInvitation? index = some i → i.Offered := by
  refine ⟨fun text i hi dice => ?_, fun s index i hoffered hi => ?_,
    fun s actions h hsaved index i hi => ?_⟩
  · exact Invitation.Offered.exists_joiner ⟨text, hi⟩ dice
  · have haccepts := accepts_of_offered hoffered hi
    exact ⟨haccepts, fun hplay hroom => haccepts.names hplay hroom⟩
  · exact offered_of_pendingInvitation? (offered_follow h hsaved) hi

/-- A lone member accepts a companion. -/
theorem joins_of_offered_companion :
    let s := (Session.start .usual (.ofWords [7])).follow
      [(.create (.ofIdentity "Bo" "Elf" "Bard" "male"), .late),
        (.play (.submit "Hello"), .said "INVITE_CHARACTER:[Ann, Elf, Bard, female]")]
    let i := Invitation.offer "Ann" "Elf" "Bard" "female"
    s.pendingInvitation? 1 = some i ∧ (∀ dice, ∃ c, (i.recipe dice).1.make = .ok c ∧ i.Joiner c) ∧
      ∀ answer : Answer, ((s.accept 1).settle answer).1.roster.names = ["Bo", "Ann"] := by
  intro s i
  have hi : s.pendingInvitation? 1 = some i := by decide +kernel
  have hplay : s.ensurePlayable = .ok () := by decide +kernel
  have hroom : s.roster.isFull = false := by decide +kernel
  have hnames : s.roster.names = ["Bo"] := by decide +kernel
  obtain ⟨hmakes, haccepts, hoffers⟩ := joins_of_offered
  have hoffered : i.Offered := hoffers _ _ (by simp [Session.start, Log.Offered, Log.lasting])
    (by simp [Action.saved?]) 1 i hi
  clear_value s
  obtain ⟨text, htext⟩ := hoffered
  obtain ⟨-, hjoins⟩ := haccepts s 1 i ⟨text, htext⟩ hi
  refine ⟨hi, hmakes text i htext, fun answer => ?_⟩
  rw [hjoins hplay hroom answer, hnames]
  rfl

end Session

end Tabletop
