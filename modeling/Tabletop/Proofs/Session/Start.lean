import Tabletop.Proofs.Session.Deeds
import Tabletop.Proofs.Text.Trimming

/-!
# Where turns start

Some deeds change the session before they put it to the narrator. `Deed.Starts` says where the turn
of each deed starts, `Asks` what the turn holds that is opened there, and `BreaksOff` that none is
because the party's rest comes to nothing.
-/

namespace Tabletop

open Session (playerLine settingTheScene)

/-- The session with a joiner last in its party, and the dice as they are then. -/
def Session.withJoiner (s : Session) (c : Character) (dice : Dice) : Session :=
  { s with dice, roster := { s.roster with members := s.roster.members ++ [c] } }

/-- The state of a session at which the turn of a deed starts, and the player's line. -/
inductive Deed.Starts (s : Session) : Deed → Session → List Event → Prop
  | begin :
    Starts s .begin ({ s with active := s.roster.main }.note (.system settingTheScene)) []
  | submit {input : String} : Starts s (.submit input) s [.player (Text.trim input)]
  | accept {index : Nat} {i : Invitation} {c : Character} {recipe : Recipe} {dice : Dice} :
    s.pendingInvitation? index = some i → i.recipe s.dice = (recipe, dice) → recipe.make = .ok c →
      Starts s (.accept index) ((s.withJoiner c dice).mark index .accepted)
        [.player ("(I have accepted. " ++ c.name ++ " joins the party.)")]
  | decline {index : Nat} {i : Invitation} :
    s.pendingInvitation? index = some i →
      Starts s (.decline index) (s.mark index .declined)
        [.player ("(I have declined the invitation for " ++ i.name ++ " to join.)")]
  | useItem {member index amount : Nat} {c : Character} {item : Item} {dice : Dice}
      {count : String} :
    s.roster.get? member = some c → c.inventory[index]? = some item →
      item.rollHealing s.dice = (amount, dice) →
        count = Text.ofNat ((c.heal amount).currentHp.toInt - c.currentHp.toInt).toNat →
          Starts s (.useItem member index)
            { s with
              dice
              roster := { s.roster with
                members := s.roster.members.set member
                  { c.heal amount with inventory := c.inventory.eraseIdx index } }
              log := s.log ++
                [.game (c.name ++ " used " ++ item.name ++ " and recovered " ++ count ++ " HP.")] }
            [.player ("(I use a " ++ item.name ++ " and recover " ++ count ++ " HP.)")]

/-- A deed neither begins a fight nor ends one. -/
theorem Deed.Starts.combat {s start : Session} {d : Deed} {line : List Event}
    (h : d.Starts s start line) : start.combat = s.combat := by
  cases h <;> rfl

/-! ## Texts in parentheses -/

private theorem trim_parenthesized (s : String) :
    Text.trim ("(" ++ s ++ ")") = "(" ++ s ++ ")" := by
  have htight : Text.Tight ('(' :: (s.toList ++ [')'])) := .enclosed rfl rfl
  have hsource : ("(" ++ s ++ ")").toList = '(' :: (s.toList ++ [')']) := by simp
  rw [Text.trim, hsource, htight.trimChars_eq, ← hsource, String.ofList_toList]

/-! ## Notices -/

/-- Of fights the players are told that one begins or ends. -/
theorem Session.mem_combatNotices {active : Bool} {ds : List Directive} {n : Notice}
    (h : n ∈ combatNotices active ds) : n = .combatStarted ∨ n = .combatEnded := by
  rcases List.mem_append.mp h with h | h <;> split at h
  · exact .inl (List.mem_singleton.mp h)
  · cases h
  · exact .inr (List.mem_singleton.mp h)
  · cases h

/-- Of the effects of a turn the players are told which quests are completed. -/
theorem Session.mem_victories {effects : List Effect} {n : Notice}
    (h : n ∈ effects.filterMap victory?) : ∃ quest, n = .victory quest := by
  obtain ⟨e, -, he⟩ := List.mem_filterMap.mp h
  cases e with
  | questCompleted quest => exact ⟨quest, (Option.some.inj he).symm⟩
  | _ => cases he

/-- A member has fallen or risen. -/
def Notice.isCrossing : Notice → Bool
  | .downed .. | .revived .. => true
  | _ => false

/-- Of a change of hit points the notices tell who has fallen and who has risen. -/
theorem Notice.isCrossing_of_mem_crossings {index : Nat} {before : List Int}
    {members : List Character} {n : Notice} (h : n ∈ crossings index before members) :
    n.isCrossing := by
  induction before generalizing index members with
  | nil => cases h
  | cons hp before ih =>
    cases members with
    | nil => cases h
    | cons c members =>
      rcases List.mem_append.mp h with h | h
      · unfold crossing? at h
        dsimp only at h
        split at h
        · cases List.mem_singleton.mp h
          rfl
        · split at h
          · cases List.mem_singleton.mp h
            rfl
          · cases h
      · exact ih h

private theorem mem_hpList {r : Roster} {hp : Int} (h : hp ∈ r.hpList) :
    ∃ index c, r.get? index = some c ∧ c.currentHp.toInt = hp := by
  obtain ⟨c, hc, rfl⟩ := List.mem_map.mp h
  obtain ⟨index, hi⟩ := List.mem_iff_getElem?.mp hc
  exact ⟨index, c, hi, rfl⟩

/-- Where nobody stands after a member has gained hit points, nobody stood before. -/
private theorem allSpent_of_allDown_set {r : Roster} {member : Nat} {c changed : Character}
    (hc : r.get? member = some c) (hle : c.currentHp.toInt ≤ changed.currentHp.toInt)
    (h : ({ r with members := r.members.set member changed } : Roster).allDown = true) :
    Notice.allSpent r.hpList = true := by
  obtain ⟨-, hdown⟩ := Bool.and_eq_true_iff.mp h
  have hspent : ∀ hp ∈ r.hpList, hp ≤ 0 := by
    intro hp hmem
    obtain ⟨index, d, hd, rfl⟩ := mem_hpList hmem
    by_cases hi : index = member
    · rw [hi, hc] at hd
      cases hd
      have hset : changed ∈ r.members.set member changed :=
        List.mem_set (List.getElem?_eq_some_iff.mp hc).1 changed
      have hle' := List.all_eq_true.mp hdown changed hset
      simp only [Character.isDown, decide_eq_true_eq] at hle'
      omega
    · have hset : d ∈ r.members.set member changed := by
        apply List.mem_of_getElem? (i := index)
        rw [List.getElem?_set_ne (Ne.symm hi)]
        exact hd
      simpa [Character.isDown] using List.all_eq_true.mp hdown d hset
  have hne : r.hpList.isEmpty = false := by
    cases hm : r.members with
    | nil => simp [Roster.get?, hm] at hc
    | cons d ds => simp [Roster.hpList, hm]
  simpa [Notice.allSpent, hne] using hspent

/-- Gaining hit points ends no game. -/
private theorem isCrossing_of_gained {r : Roster} {member : Nat} {c changed : Character}
    (hc : r.get? member = some c) (hle : c.currentHp.toInt ≤ changed.currentHp.toInt) {n : Notice}
    (h : n ∈ Notice.ofVitals r.hpList { r with members := r.members.set member changed }) :
    n.isCrossing := by
  rcases List.mem_append.mp h with h | h
  · exact Notice.isCrossing_of_mem_crossings h
  · split at h
    · next hover =>
      obtain ⟨hdown, hspent⟩ := Bool.and_eq_true_iff.mp hover
      rw [allSpent_of_allDown_set hc hle hdown] at hspent
      cases hspent
    · cases h

/-! ## Opening -/

/-- A move starts a turn in a state of the session in which there is a party, and asks for nothing
but silence. -/
structure Sends (m : Move) (start : Session) : Prop where
  session : m.session = { start with phase := .sending }
  hushes : ∀ signal ∈ m.signals, signal = .hush
  party : start.roster.isEmpty = false

/-- A move opens a turn from a state of the session, with the player's line. The turn holds what
belongs to that state, and notices of members who have fallen or risen before. -/
structure Asks (m : Move) (start : Session) (line : List Event) (turn : Turn) : Prop
    extends Sends m start where
  opening : m.opening = .asking turn
  playerLine : playerLine turn.text turn.isPlayers = line
  opened : start.openTurn? turn.text turn.isPlayers = some { turn with notices := [] }
  crossings : ∀ n ∈ turn.notices, n.isCrossing

/-- A move starts a turn of the player's in a state of the session, and the turn breaks off at the
party's rest. -/
structure BreaksOff (m : Move) (start : Session) (line : List Event) : Prop
    extends Sends m start where
  opening : m.opening = .overflow
  line_ne_nil : line ≠ []
  unready : start.readied? true = none

/-- What comes of a turn that a move starts. -/
inductive Puts (m : Move) (start : Session) (line : List Event) : Prop
  | asks {turn : Turn} : Asks m start line turn → Puts m start line
  | breaksOff : BreaksOff m start line → Puts m start line

/-- A turn that is opened holds the party as it is then and what its rest has brought. -/
theorem Session.openTurn?_eq_some_iff {s : Session} {text : String} {isPlayers : Bool}
    {turn : Turn} :
    s.openTurn? text isPlayers = some turn ↔
      ∃ roster rested, s.readied? isPlayers = some (roster, rested) ∧
        turn = { text, isPlayers, roster
                 hpBefore := s.roster.hpList
                 events := playerLine text isPlayers ++ rested
                 notices := []
                 question := s.question roster text } := by
  rw [openTurn?, Option.map_eq_some_iff, Prod.exists]
  exact exists_congr fun _ => exists_congr fun _ => and_congr Iff.rfl eq_comm

/-- A turn has the party after its rest, and the entries for the rest after the player's line. -/
theorem Asks.readied {m : Move} {start : Session} {line : List Event} {turn : Turn}
    (h : Asks m start line turn) :
    ∃ rested, start.readied? turn.isPlayers = some (turn.roster, rested) ∧
      turn.events = line ++ rested := by
  obtain ⟨roster, rested, hready, heq⟩ := Session.openTurn?_eq_some_iff.mp h.opened
  have hroster : turn.roster = roster := congrArg Turn.roster heq
  refine ⟨rested, by rw [hready, hroster], ?_⟩
  rw [← h.playerLine]
  exact (congrArg Turn.events heq).trans rfl

/-- The hit points that a turn goes by are those of the party at its start. -/
theorem Asks.hpBefore {m : Move} {start : Session} {line : List Event} {turn : Turn}
    (h : Asks m start line turn) : turn.hpBefore = start.roster.hpList := by
  obtain ⟨roster, rested, -, heq⟩ := Session.openTurn?_eq_some_iff.mp h.opened
  exact (congrArg Turn.hpBefore heq).trans rfl

/-- A turn puts its text to the narrator. -/
theorem Asks.input {m : Move} {start : Session} {line : List Event} {turn : Turn}
    (h : Asks m start line turn) : turn.question.input = turn.text := by
  obtain ⟨roster, rested, -, heq⟩ := Session.openTurn?_eq_some_iff.mp h.opened
  exact (congrArg (fun t : Turn => t.question.input) heq).trans rfl

private theorem sends_ask {s : Session} (h : s.roster.isEmpty = false) (text : String)
    (isPlayers : Bool) : Sends (s.ask text isPlayers) s :=
  ⟨rfl, fun _ h => List.mem_singleton.mp h, h⟩

private theorem asks_ask {s : Session} (h : s.roster.isEmpty = false) {text : String}
    {isPlayers : Bool} {turn : Turn} (hopen : s.openTurn? text isPlayers = some turn) :
    Asks (s.ask text isPlayers) s (playerLine text isPlayers) turn := by
  obtain ⟨roster, rested, -, rfl⟩ := Session.openTurn?_eq_some_iff.mp hopen
  exact { sends_ask h text isPlayers with
    opening := by rw [Session.ask, hopen]; rfl
    playerLine := rfl
    opened := hopen
    crossings := nofun }

private theorem puts_ask {s : Session} (h : s.roster.isEmpty = false) (text : String) :
    Puts (s.ask text true) s [.player text] := by
  cases hopen : s.openTurn? text true with
  | some turn => exact .asks (asks_ask h hopen)
  | none =>
    exact .breaksOff { sends_ask h text true with
      opening := by rw [Session.ask, hopen]; rfl
      line_ne_nil := nofun
      unready := by simpa [Session.openTurn?] using hopen }

private theorem Sends.after {m : Move} {start : Session} (h : Sends m start) :
    Sends (m.after [.hush]) start := by
  refine { h with session := h.session, hushes := fun signal hs => ?_ }
  rcases List.mem_cons.mp hs with hs | hs
  · exact hs
  · exact h.hushes signal hs

private theorem Puts.after {m : Move} {start : Session} {line : List Event}
    (h : Puts m start line) : Puts (m.after [.hush]) start line := by
  cases h with
  | asks h => exact .asks { h with toSends := h.toSends.after, opening := h.opening }
  | breaksOff h => exact .breaksOff { h with toSends := h.toSends.after, opening := h.opening }

private theorem Puts.withNotices {m : Move} {start : Session} {line : List Event}
    (h : Puts m start line) {notices : List Notice} (hn : ∀ n ∈ notices, n.isCrossing) :
    Puts (m.withNotices notices) start line := by
  cases h with
  | asks h =>
    rename_i turn
    have hm : m.withNotices notices =
        { m with opening := .asking { turn with notices := notices ++ turn.notices } } := by
      rw [Move.withNotices, h.opening]
    rw [hm]
    have hasks : Asks { m with opening := .asking { turn with notices := notices ++ turn.notices } }
        start line { turn with notices := notices ++ turn.notices } :=
      { h with
        session := h.session
        opening := rfl
        crossings := fun n hmem => (List.mem_append.mp hmem).elim (hn n) (h.crossings n) }
    exact .asks hasks
  | breaksOff h =>
    have hm : m.withNotices notices = m := by rw [Move.withNotices, h.opening]
    rw [hm]
    exact .breaksOff h

/-- Turns can be taken where there is a party and the game is not over. -/
theorem Session.ensurePlayable_eq_ok_iff {s : Session} :
    s.ensurePlayable = .ok () ↔ s.phase ≠ .gameOver ∧ s.roster.isEmpty = false := by
  unfold ensurePlayable
  split
  · next hover => simp [hover]
  · next hover =>
    split
    · next hparty => simp [hparty]
    · next hparty => simp [hover, hparty]

/-- What is not blank is put to the narrator without the blanks around it. -/
theorem Session.submit_eq_ask {s : Session} {input : String} (hplay : s.ensurePlayable = .ok ())
    (htext : Text.trim input ≠ "") : s.submit input = s.ask (Text.trim input) true := by
  simp only [Session.submit, if_neg htext, hplay]

/-- What is submitted in parentheses is put to the narrator as it is. -/
private theorem submit_parenthesized {s : Session} {text inner : String}
    (hplay : s.ensurePlayable = .ok ()) (ht : text = "(" ++ inner ++ ")") :
    s.submit text = s.ask text true := by
  have htrim : Text.trim text = text := by rw [ht, trim_parenthesized]
  have hne : text ≠ "" := by
    rw [ht, ← String.toList_inj.ne]
    simp
  rw [Session.submit_eq_ask hplay (by rwa [htrim]), htrim]

/-! ## Answers to an invitation -/

/-- The error tells that somebody cannot be made or finds no room in a party. -/
def SessionError.KeepsOut (r : Roster) : SessionError → Prop
  | .recipe _ => True
  | .roster (.full cap) => r.isFull = true ∧ cap = r.cap
  | _ => False

private theorem mark_mark (s : Session) (index : Nat) (first second : InvitationStatus) :
    (s.mark index first).mark index second = s.mark index second := by
  unfold Session.mark Log.setStatus
  cases hi : Log.invitation? s.log index with
  | none => simp [hi]
  | some i =>
    have hmodified : Log.invitation? (s.log.modify index (Event.setStatus · first)) index =
        some { i with status := first } := by
      obtain ⟨e, he, hinv⟩ := Option.bind_eq_some_iff.mp hi
      simp [Log.invitation?, he, Event.setStatus, hinv]
    simp only [hmodified, List.modify_modify_eq]
    congr 2
    funext e
    simp [Event.setStatus, Function.comp_def]

/-- Why the joiner made from a recipe does not come. -/
inductive Session.Unjoined (s : Session) (recipe : Recipe) : SessionError → Prop
  | unmade {cause : RecipeError} : recipe.make = .error cause → Unjoined s recipe (.recipe cause)
  | noRoom : s.roster.isFull = true → Unjoined s recipe (.roster (.full s.roster.cap))

private theorem Session.Unjoined.keepsOut {s : Session} {recipe : Recipe} {e : SessionError}
    (h : s.Unjoined recipe e) : e.KeepsOut s.roster := by
  cases h with
  | unmade => trivial
  | noRoom hfull => exact ⟨hfull, rfl⟩

/-- The joiner comes, or does not for a reason; the dice have been used. -/
private theorem join_cases {s : Session} {i : Invitation} {recipe : Recipe} {dice : Dice}
    (hr : i.recipe s.dice = (recipe, dice)) :
    (∃ e, s.Unjoined recipe e ∧ s.join i = ({ s with dice }, .error e)) ∨
      ∃ c, recipe.make = .ok c ∧ s.roster.isFull = false ∧
        s.join i = (s.withJoiner c dice, .ok c) := by
  simp only [Session.join, hr]
  cases hmake : recipe.make with
  | error cause => exact .inl ⟨.recipe cause, .unmade hmake, rfl⟩
  | ok c =>
    simp only [Session.addMember, Session.withRoster, Roster.push]
    cases hfull : s.roster.isFull with
    | true => exact .inl ⟨_, .noRoom hfull, rfl⟩
    | false => exact .inr ⟨c, rfl, rfl, rfl⟩

/-- While the joiner is made, the invitation is marked too. -/
private theorem mark_withJoiner (s : Session) (c : Character) (dice : Dice) (index : Nat)
    (first second : InvitationStatus) :
    ((s.mark index first).withJoiner c dice).mark index second =
      (s.withJoiner c dice).mark index second :=
  congrArg (·.withJoiner c dice) (mark_mark s index first second)

/-- An invitation that is accepted fails, or the joiner comes and the narrator is told. -/
theorem accept_eq {s : Session} {index : Nat} {i : Invitation} {recipe : Recipe} {dice : Dice}
    (hplay : s.ensurePlayable = .ok ()) (hi : s.pendingInvitation? index = some i)
    (hr : i.recipe s.dice = (recipe, dice)) :
    (∃ e, s.Unjoined recipe e ∧
      s.accept index = ⟨({ s with dice } : Session).mark index .error, [.hush], .refused e⟩) ∨
    ∃ c, recipe.make = .ok c ∧ s.roster.isFull = false ∧
      s.accept index = .after [.hush] (((s.withJoiner c dice).mark index .accepted).ask
        ("(I have accepted. " ++ c.name ++ " joins the party.)") true) := by
  have hr' : i.recipe (s.mark index .generating).dice = (recipe, dice) := hr
  rcases join_cases hr' with ⟨e, he, hj⟩ | ⟨c, hmake, hroom, hj⟩
  · have hwhy : s.Unjoined recipe e := by
      cases he with
      | unmade hmake => exact .unmade hmake
      | noRoom hfull => exact .noRoom hfull
    refine .inl ⟨e, hwhy, ?_⟩
    simp only [Session.accept, hplay, hi, hj]
    exact congrArg (fun t : Session => (⟨{ t with dice }, [.hush], .refused e⟩ : Move))
      (mark_mark s index .generating .error)
  · have htext : "(I have accepted. " ++ c.name ++ " joins the party.)" =
        "(" ++ ("I have accepted. " ++ c.name ++ " joins the party.") ++ ")" := by
      rw [← String.toList_inj]
      simp
    have hphase := (Session.ensurePlayable_eq_ok_iff.mp hplay).1
    have hjoined : ((s.withJoiner c dice).mark index .accepted).ensurePlayable = .ok () :=
      Session.ensurePlayable_eq_ok_iff.mpr ⟨hphase, by
        simp [Session.mark, Session.withJoiner, Roster.isEmpty]⟩
    refine .inr ⟨c, hmake, hroom, ?_⟩
    rw [← submit_parenthesized hjoined htext]
    simp only [Session.accept, hplay, hi, hj, mark_withJoiner]

/-- An invitation that is accepted and brings the joiner starts a turn. -/
theorem puts_accept {s : Session} {index : Nat} {c : Character} {dice : Dice}
    (h : s.accept index = .after [.hush] (((s.withJoiner c dice).mark index .accepted).ask
      ("(I have accepted. " ++ c.name ++ " joins the party.)") true)) :
    Puts (s.accept index) ((s.withJoiner c dice).mark index .accepted)
      [.player ("(I have accepted. " ++ c.name ++ " joins the party.)")] := by
  rw [h]
  refine (puts_ask ?_ _).after
  simp [Session.mark, Session.withJoiner, Roster.isEmpty]

/-- An invitation is declined, and the narrator is told. -/
theorem decline_eq {s : Session} {index : Nat} {i : Invitation} (hplay : s.ensurePlayable = .ok ())
    (hi : s.pendingInvitation? index = some i) :
    s.decline index = .after [.hush] ((s.mark index .declined).ask
      ("(I have declined the invitation for " ++ i.name ++ " to join.)") true) := by
  have htext : "(I have declined the invitation for " ++ i.name ++ " to join.)" =
      "(" ++ ("I have declined the invitation for " ++ i.name ++ " to join.") ++ ")" := by
    rw [← String.toList_inj]
    simp
  have hmarked : (s.mark index .declined).ensurePlayable = .ok () := hplay
  rw [← submit_parenthesized hmarked htext]
  simp only [Session.decline, hplay, hi]

/-! ## Use of an item -/

section

variable {s : Session} {member index amount : Nat} {c : Character} {item : Item} {dice : Dice}

/-- An item that heals nothing is kept, and only the dice have been used. -/
theorem useItem_idle (hplay : s.ensurePlayable = .ok ()) (hc : s.roster.get? member = some c)
    (hi : c.inventory[index]? = some item) (hr : item.rollHealing s.dice = (amount, dice))
    (hgained : ((c.heal amount).currentHp.toInt - c.currentHp.toInt).toNat = 0) :
    s.useItem member index = ⟨{ s with dice }, [], .idle⟩ := by
  simp only [Session.useItem, hplay, hc, hi, hr, Session.consume?, if_pos hgained]

/-- An item that heals is used up and noted in the log, and the narrator is told. -/
theorem puts_useItem (hplay : s.ensurePlayable = .ok ()) (hc : s.roster.get? member = some c)
    (hi : c.inventory[index]? = some item) (hr : item.rollHealing s.dice = (amount, dice))
    (hgained : ((c.heal amount).currentHp.toInt - c.currentHp.toInt).toNat ≠ 0) :
    let count := Text.ofNat ((c.heal amount).currentHp.toInt - c.currentHp.toInt).toNat
    Puts (s.useItem member index)
      { s with
        dice
        roster := { s.roster with
          members := s.roster.members.set member
            { c.heal amount with inventory := c.inventory.eraseIdx index } }
        log := s.log ++
          [.game (c.name ++ " used " ++ item.name ++ " and recovered " ++ count ++ " HP.")] }
      [.player ("(I use a " ++ item.name ++ " and recover " ++ count ++ " HP.)")] := by
  intro count
  obtain ⟨hphase, hparty⟩ := Session.ensurePlayable_eq_ok_iff.mp hplay
  have hparty' (changed : Character) :
      (s.roster.members.set member changed).isEmpty = false := by
    simpa [Roster.isEmpty] using hparty
  have htext : "(I use a " ++ item.name ++ " and recover " ++ count ++ " HP.)" =
      "(" ++ ("I use a " ++ item.name ++ " and recover " ++ count ++ " HP.") ++ ")" := by
    rw [← String.toList_inj]
    simp
  simp only [Session.useItem, hplay, hc, hi, hr, Session.consume?, if_neg hgained]
  rw [submit_parenthesized ?_ htext]
  · refine (puts_ask ?_ _).withNotices fun n hn => ?_
    · exact hparty' _
    · exact isCrossing_of_gained hc (by dsimp only; omega) hn
  · exact Session.ensurePlayable_eq_ok_iff.mpr ⟨hphase, hparty' _⟩

end

/-! ## What deeds come to -/

/-- What a deed comes to before the narrator answers: it is refused, the one who is invited does not
join, nothing happens, or a turn is started, which is opened or breaks off. -/
inductive Deed.Comes (s : Session) (d : Deed) : Move → Prop
  | refused (e : SessionError) : Comes s d (s.refuse e)
  | unjoined {index : Nat} {i : Invitation} {dice : Dice} {e : SessionError} :
    d = .accept index → s.pendingInvitation? index = some i → e.KeepsOut s.roster →
      Comes s d ⟨({ s with dice } : Session).mark index .error, [.hush], .refused e⟩
  | idle (dice : Dice) : Comes s d ⟨{ s with dice }, [], .idle⟩
  | asking {m : Move} {start : Session} {line : List Event} {turn : Turn} :
    d.Starts s start line → Asks m start line turn → Comes s d m
  | overflow {m : Move} {start : Session} {line : List Event} :
    d.Starts s start line → BreaksOff m start line → Comes s d m

private theorem Puts.comes {s start : Session} {d : Deed} {m : Move} {line : List Event}
    (h : Puts m start line) (hstart : d.Starts s start line) : d.Comes s m := by
  cases h with
  | asks h => exact .asking hstart h
  | breaksOff h => exact .overflow hstart h

namespace Deed

private theorem comes_begin (s : Session) : Deed.begin.Comes s s.begin := by
  unfold Session.begin
  split
  · exact .refused _
  · split
    · exact .refused _
    · next hparty =>
      refine .asking .begin (asks_ask ?_ rfl)
      exact Bool.eq_false_iff.mpr hparty

private theorem comes_submit (s : Session) (input : String) :
    (Deed.submit input).Comes s (s.submit input) := by
  cases hplay : s.ensurePlayable with
  | error e =>
    simp only [Session.submit, hplay]
    split <;> exact .refused _
  | ok =>
    by_cases htext : Text.trim input = ""
    · simp only [Session.submit, if_pos htext]
      exact .refused _
    · rw [Session.submit_eq_ask hplay htext]
      have hparty := (Session.ensurePlayable_eq_ok_iff.mp hplay).2
      exact (puts_ask hparty _).comes .submit

private theorem comes_accept (s : Session) (index : Nat) :
    (Deed.accept index).Comes s (s.accept index) := by
  cases hplay : s.ensurePlayable with
  | error e =>
    simp only [Session.accept, hplay]
    exact .refused e
  | ok =>
    cases hi : s.pendingInvitation? index with
    | none =>
      simp only [Session.accept, hplay, hi]
      exact .refused _
    | some i =>
      rcases hr : i.recipe s.dice with ⟨recipe, dice⟩
      rcases accept_eq hplay hi hr with ⟨e, he, ha⟩ | ⟨c, hmake, -, ha⟩
      · rw [ha]
        exact .unjoined rfl hi he.keepsOut
      · exact (puts_accept ha).comes (.accept hi hr hmake)

private theorem comes_decline (s : Session) (index : Nat) :
    (Deed.decline index).Comes s (s.decline index) := by
  cases hplay : s.ensurePlayable with
  | error e =>
    simp only [Session.decline, hplay]
    exact .refused e
  | ok =>
    cases hi : s.pendingInvitation? index with
    | none =>
      simp only [Session.decline, hplay, hi]
      exact .refused _
    | some i =>
      have hparty := (Session.ensurePlayable_eq_ok_iff.mp hplay).2
      rw [decline_eq hplay hi]
      exact (puts_ask (s := s.mark index .declined) hparty _).after.comes (.decline hi)

private theorem comes_useItem (s : Session) (member index : Nat) :
    (Deed.useItem member index).Comes s (s.useItem member index) := by
  cases hplay : s.ensurePlayable with
  | error e =>
    simp only [Session.useItem, hplay]
    exact .refused e
  | ok =>
    cases hc : s.roster.get? member with
    | none =>
      simp only [Session.useItem, hplay, hc]
      exact .refused _
    | some c =>
      cases hi : c.inventory[index]? with
      | none =>
        simp only [Session.useItem, hplay, hc, hi]
        exact .refused _
      | some item =>
        rcases hr : item.rollHealing s.dice with ⟨amount, dice⟩
        by_cases hgained : ((c.heal amount).currentHp.toInt - c.currentHp.toInt).toNat = 0
        · rw [useItem_idle hplay hc hi hr hgained]
          exact .idle dice
        · exact (puts_useItem hplay hc hi hr hgained).comes (.useItem hc hi hr rfl)

/-- Every deed comes to one of these. -/
theorem comes (d : Deed) (s : Session) : d.Comes s (d.move s) := by
  cases d with
  | begin => exact comes_begin s
  | submit input => exact comes_submit s input
  | accept index => exact comes_accept s index
  | decline index => exact comes_decline s index
  | useItem member index => exact comes_useItem s member index

end Deed

/-- A deed that opens a turn opens it from the state that it starts in. -/
theorem exists_starts (d : Deed) {s : Session} {turn : Turn}
    (h : (d.move s).opening = .asking turn) :
    ∃ start line, d.Starts s start line ∧ Asks (d.move s) start line turn := by
  have hcomes := d.comes s
  generalize d.move s = m at h hcomes
  cases hcomes with
  | refused e => cases h
  | unjoined => cases h
  | idle dice => cases h
  | asking hstart ha =>
    rw [ha.opening] at h
    cases h
    exact ⟨_, _, hstart, ha⟩
  | overflow hstart hb =>
    rw [hb.opening] at h
    cases h

/-- A move that has opened a turn settles with the narrator's text on the state that the turn
started in. -/
theorem Asks.settle_said {m : Move} {start : Session} {line : List Event} {turn : Turn}
    (h : Asks m start line turn) (raw : String) :
    m.settle (.said raw) =
      ((start.completeTurn turn raw).1, .ok (some (start.completeTurn turn raw).2.2)) := by
  simp only [Move.settle, h.opening, h.session]
  rfl

/-- A turn that breaks off leaves the state that it started in, with the narrator still to be
asked. -/
theorem BreaksOff.settle {m : Move} {start : Session} {line : List Event}
    (h : BreaksOff m start line) (answer : Answer) :
    m.settle answer = ({ start with phase := .sending }, .error .overflow) := by
  simp only [Move.settle, h.opening, h.session]

/-- A turn that a deed has opened and that is completed was answered: it closed with the narrator's
text on the state that it started in. -/
theorem exists_completed {d : Deed} {s : Session} {answer : Answer} {outcome : Outcome}
    (h : ((d.move s).settle answer).2 = .ok (some outcome)) :
    ∃ start line turn raw, d.Starts s start line ∧ Asks (d.move s) start line turn ∧
      answer = .said raw ∧ ((d.move s).settle answer).1 = (start.completeTurn turn raw).1 ∧
        outcome = (start.completeTurn turn raw).2.2 := by
  cases ho : (d.move s).opening with
  | refused e => simp [Move.settle, ho] at h
  | idle => simp [Move.settle, ho] at h
  | overflow => simp [Move.settle, ho] at h
  | asking turn =>
    obtain ⟨start, line, hstart, ha⟩ := exists_starts d ho
    cases answer with
    | said raw =>
      rw [ha.settle_said] at h ⊢
      simp only [Except.ok.injEq, Option.some.injEq] at h
      exact ⟨start, line, turn, raw, hstart, ha, rfl, rfl, h.symm⟩
    | failed e => simp [Move.settle, ho, Session.closeTurn, Except.map] at h
    | late => simp [Move.settle, ho, Session.closeTurn, Except.map] at h

/-- An outcome that there is can be named. -/
theorem exists_outcome_of_isSome {result : Except SessionError (Option Outcome)}
    (h : result.toOption.join.isSome) : ∃ outcome, result = .ok (some outcome) := by
  cases result with
  | error e => cases h
  | ok outcome? =>
    obtain ⟨outcome, rfl⟩ := Option.isSome_iff_exists.mp h
    exact ⟨outcome, rfl⟩

end Tabletop
