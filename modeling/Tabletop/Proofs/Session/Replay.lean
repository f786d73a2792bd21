import Tabletop.Proofs.Session.Actions
import Tabletop.Proofs.Session.Offers
import Tabletop.Proofs.Session.Turn

/-!
# Games told again

What becomes of a party, of its fights and of the conversation with the narrator follows from what
was put to the narrator and what came back. `Situation.replay?` goes over such exchanges and knows
nothing else of a session; a game in which the player only begins and acts comes to the same, and
turns without an answer leave no trace there.
-/

namespace Tabletop

/-- What was put to the narrator in a turn, and what came back. -/
structure Exchange where
  sent : String
  reply : String
  /-- The party has rested before. -/
  rests : Bool
  deriving DecidableEq, Repr

/-- An exchange in a conversation. -/
def Exchange.lines (x : Exchange) : Conversation := [.player x.sent, .narrator x.reply]

/-- The party after one turn of rest for every member, unless a count overflows. -/
def Roster.rested? (r : Roster) (threshold : UInt32) : Option Roster :=
  (r.members.mapM fun c : Character => (c.regenerate? threshold).map Prod.fst).map fun members =>
    { r with members }

/-- The situation after an exchange, and its effects: the party rests, and the markers of the reply
act in order. -/
def Situation.hear? (threshold : UInt32) (s : Situation) (x : Exchange) :
    Option (Situation × List Effect) :=
  (if x.rests then s.roster.rested? threshold else some s.roster).map fun roster =>
    { s with roster }.applyAll (Reply.directives (Reply.pieces x.reply.toList))

/-- The situation after an exchange. -/
def Situation.replay? (threshold : UInt32) (s : Situation) (x : Exchange) : Option Situation :=
  (s.hear? threshold x).map Prod.fst

/-- Rest leaves the protagonist in place. -/
private theorem Roster.main_rested? {r r' : Roster} {threshold : UInt32}
    (h : r.rested? threshold = some r') : r'.main = r.main := by
  obtain ⟨members, -, rfl⟩ := Option.map_eq_some_iff.mp h
  rfl

private theorem Situation.replay?_eq_some {threshold : UInt32} {s now : Situation} {x : Exchange}
    (h : s.replay? threshold x = some now) :
    now.acting = s.acting ∧ now.roster.main = s.roster.main := by
  obtain ⟨⟨_, effects⟩, hear, rfl⟩ := Option.map_eq_some_iff.mp h
  obtain ⟨roster, hroster, happly⟩ := Option.map_eq_some_iff.mp hear
  let ds := Reply.directives (Reply.pieces x.reply.toList)
  obtain ⟨members, -, hmembers⟩ := members_applyAll (s := { s with roster }) ds
  have hmain : roster.main = s.roster.main := by
    split at hroster
    · exact Roster.main_rested? hroster
    · cases hroster
      rfl
  rw [← happly]
  exact ⟨acting_applyAll ds, (congrArg Roster.main hmembers).trans hmain⟩

/-- Exchanges leave the acting to whom it was, and the protagonist in place. -/
theorem Situation.foldlM_replay? {threshold : UInt32} {s now : Situation} {told : List Exchange}
    (h : told.foldlM (Situation.replay? threshold) s = some now) :
    now.acting = s.acting ∧ now.roster.main = s.roster.main := by
  induction told generalizing s with
  | nil =>
    cases h
    exact ⟨rfl, rfl⟩
  | cons x told ih =>
    rw [List.foldlM_cons] at h
    obtain ⟨next, hnext, hrest⟩ := Option.bind_eq_some_iff.mp h
    obtain ⟨hacting, hmain⟩ := replay?_eq_some hnext
    obtain ⟨hacting', hmain'⟩ := ih hrest
    exact ⟨hacting'.trans hacting, hmain'.trans hmain⟩

/-- The exchange of a move, if it opens a turn and comes to an outcome. -/
def Move.exchange? (m : Move) (rests : Bool) (answer : Answer) : Option Exchange :=
  match m.opening, answer, (m.settle answer).2 with
  | .asking turn, .said reply, .ok (some _) => some ⟨turn.question.input, reply, rests⟩
  | _, _, _ => none

/-- The action begins the adventure, or the player says something. -/
def Action.speaks : Action → Bool
  | .play .begin | .play (.submit _) | .trySubmit _ _ => true
  | _ => false

namespace Session

/-- What directives would act on. -/
def standing (s : Session) : Situation :=
  ⟨s.roster, s.combat, s.active, (Log.openInvitation? s.log).isSome⟩

/-- The exchanges of actions in a row; the party rests before all turns but the first of the
adventure. -/
def exchanges : Session → List (Action × Answer) → List Exchange
  | _, [] => []
  | s, (a, answer) :: rest =>
    ((a.move s).exchange? (a.deed? != some .begin) answer).toList ++
      exchanges ((a.move s).settle answer).1 rest

/-- A session has gone on as exchanges tell. -/
structure Retells (s : Session) (told : List Exchange) (s' : Session) : Prop where
  history : s'.history = s.history ++ told.flatMap Exchange.lines
  standing :
    told.foldlM (Situation.replay? s.settings.regenThreshold) s.standing = some s'.standing
  settings : s'.settings = s.settings

variable {s s' start : Session} {d : Deed} {m : Move} {line : List Event} {turn : Turn}

private theorem Retells.refl (s : Session) : s.Retells [] s :=
  ⟨(List.append_nil _).symm, rfl, rfl⟩

private theorem Retells.trans {s'' : Session} {told told' : List Exchange}
    (h : s.Retells told s') (h' : s'.Retells told' s'') : s.Retells (told ++ told') s'' where
  history := by rw [h'.history, h.history, List.flatMap_append, List.append_assoc]
  standing := by
    rw [List.foldlM_append, h.standing, ← h.settings]
    exact h'.standing
  settings := h'.settings.trans h.settings

/-- The acting goes on with whom it was. -/
private theorem Retells.active {told : List Exchange} (h : s.Retells told s') :
    s'.active = s.active := (Situation.foldlM_replay? h.standing).1

private theorem Retells.main {told : List Exchange} (h : s.Retells told s') :
    s'.roster.main = s.roster.main := (Situation.foldlM_replay? h.standing).2

/-! ## Turns -/

/-- All turns but the first of the adventure are the player's. -/
theorem isPlayers_of_starts (h : d.Starts s start line) (ha : Asks m start line turn) :
    turn.isPlayers = (some d != some .begin) := by
  have hline := ha.playerLine
  cases hp : turn.isPlayers with
  | false =>
    rw [hp] at hline
    cases h with
    | begin => rfl
    | _ => cases hline
  | true =>
    rw [hp] at hline
    cases h with
    | begin => cases hline
    | _ => rfl

/-- Before its turn starts, the adventure's beginning and what the player says leave things as they
are. -/
private theorem retells_of_starts (hd : d = .begin ∨ ∃ input, d = .submit input)
    (hbegin : d = .begin → s.active = s.roster.main) (h : d.Starts s start line) :
    s.Retells [] start ∧ ∀ e ∈ line, e.invitation = none := by
  cases h with
  | begin =>
    have hactive := hbegin rfl
    have hopen : (Log.openInvitation? (s.log ++ [.system settingTheScene])).isSome =
        (Log.openInvitation? s.log).isSome :=
      Log.isSome_openInvitation?_append (by simp [Event.system])
    refine ⟨⟨(List.append_nil _).symm, ?_, rfl⟩, by simp⟩
    simp only [standing, note, hopen, hactive, List.foldlM_nil]
    rfl
  | submit => exact ⟨.refl s, by simp [Event.player]⟩
  | accept => rcases hd with hd | ⟨input, hd⟩ <;> cases hd
  | decline => rcases hd with hd | ⟨input, hd⟩ <;> cases hd
  | useItem => rcases hd with hd | ⟨input, hd⟩ <;> cases hd

/-- The party that a turn opens with is the one before, rested if the turn is the player's. -/
private theorem roster_readied? {isPlayers : Bool} {r : Roster} {rested : List Event}
    (hready : start.readied? isPlayers = some (r, rested)) :
    (if isPlayers then start.roster.rested? start.settings.regenThreshold
      else some start.roster) = some r := by
  cases isPlayers with
  | false =>
    cases hready
    rfl
  | true =>
    obtain ⟨results, hresults, rfl, -⟩ := rest?_eq_some_iff.mp hready
    have hmembers : List.Forall₂ (fun c d => (c.regenerate? start.settings.regenThreshold).map
        Prod.fst = some d) start.roster.members (results.map Prod.fst) :=
      List.forall₂_map_right_iff.mpr (hresults.imp fun c result h => by rw [h, Option.map_some])
    rw [if_pos rfl, Roster.rested?, mapM_eq_some_iff.mpr hmembers, Option.map_some]

/-- What the narrator's directives do in a turn is what they do in an exchange. -/
theorem applyAll_situation (h : Asks m start line turn) (raw : String) :
    start.standing.hear? start.settings.regenThreshold
        ⟨turn.question.input, raw, turn.isPlayers⟩ =
      some ((start.situation turn).applyAll (Reply.directives (Reply.pieces raw.toList))) := by
  obtain ⟨_, hready, -⟩ := h.readied
  have hroster := roster_readied? hready
  simp only [Situation.hear?, standing, hroster, Option.map_some]
  rfl

private theorem retells_completeTurn (h : Asks m start line turn) (raw : String) :
    start.Retells [⟨turn.question.input, raw, turn.isPlayers⟩]
      (start.completeTurn turn raw).1 := by
  let ds := Reply.directives (Reply.pieces raw.toList)
  have hactive : ((start.situation turn).applyAll ds).1.acting = start.active :=
    Situation.acting_applyAll ds
  have hstanding : (start.completeTurn turn raw).1.standing =
      ((start.situation turn).applyAll ds).1 :=
    congrArg₂ (fun active isOpen => (⟨_, _, active, isOpen⟩ : Situation)) hactive.symm
      (isSome_openInvitation?_completeTurn start (invitation_of_mem_events h) raw)
  refine ⟨?_, ?_, rfl⟩
  · show start.history ++ [.player turn.text, .narrator raw] = _
    rw [h.input]
    rfl
  · rw [hstanding, List.foldlM_cons, Situation.replay?, applyAll_situation h raw]
    rfl

private theorem retells_unanswered {answer : Answer} {e : SessionError} (rests : Bool)
    (hline : ∀ e ∈ line, e.invitation = none) (h : Asks m start line turn)
    (he : answer.error? start.settings.timeout = some e) :
    start.Retells (m.exchange? rests answer).toList (m.settle answer).1 := by
  have hnone : m.exchange? rests answer = none := by
    cases answer with
    | said raw => cases he
    | failed reason => simp only [Move.exchange?, h.opening]
    | late => simp only [Move.exchange?, h.opening]
  rw [hnone, h.settle_of_error? he]
  refine ⟨(List.append_nil _).symm, ?_, rfl⟩
  have hopen : (Log.openInvitation? (start.log ++ line ++ [.system connectionLost])).isSome =
      (Log.openInvitation? start.log).isSome := by
    rw [Log.isSome_openInvitation?_append (by simp [Event.system]),
      Log.isSome_openInvitation?_append hline]
  simp only [standing, hopen, Option.toList_none, List.foldlM_nil]
  rfl

private theorem retells_deed (hd : d = .begin ∨ ∃ input, d = .submit input)
    (hbegin : d = .begin → s.active = s.roster.main) (h : d.Comes s m) (answer : Answer) :
    s.Retells (m.exchange? (some d != some .begin) answer).toList (m.settle answer).1 := by
  cases h with
  | refused e => exact .refl s
  | unjoined hd' => rcases hd with rfl | ⟨input, rfl⟩ <;> cases hd'
  | idle dice => exact ⟨(List.append_nil _).symm, rfl, rfl⟩
  | asking hstart ha =>
    obtain ⟨hstarted, hline⟩ := retells_of_starts hd hbegin hstart
    rcases answer.said_or_unanswered _ with ⟨raw, rfl⟩ | ⟨e, he⟩
    · rw [← isPlayers_of_starts hstart ha]
      simp only [Move.exchange?, ha.opening, ha.settle_said, Option.toList_some]
      exact hstarted.trans (retells_completeTurn ha raw)
    · exact hstarted.trans (retells_unanswered _ hline ha he)
  | overflow hstart hb =>
    obtain ⟨hstarted, -⟩ := retells_of_starts hd hbegin hstart
    simp only [Move.exchange?, hb.opening, hb.settle, Option.toList_none]
    exact hstarted.trans ⟨(List.append_nil _).symm, rfl, rfl⟩

/-! ## Games -/

private theorem retells_act {a : Action} (hspeaks : a.speaks = true)
    (hbegin : a = .play .begin → s.active = s.roster.main) (answer : Answer) :
    s.Retells ((a.move s).exchange? (a.deed? != some .begin) answer).toList
      ((a.move s).settle answer).1 := by
  cases a with
  | play d =>
    cases d with
    | begin => exact retells_deed (.inl rfl) (fun _ => hbegin rfl) (Deed.begin.comes s) answer
    | submit input =>
      exact retells_deed (.inr ⟨input, rfl⟩) (fun h => by cases h)
        (Deed.comes (.submit input) s) answer
    | _ => cases hspeaks
  | trySubmit held input =>
    cases held with
    | true => exact .refl s
    | false =>
      exact retells_deed (.inr ⟨input, rfl⟩) (fun h => by cases h)
        (Deed.comes (.submit input) s) answer
  | _ => cases hspeaks

/-- The conversation and the standing of a game in which the player only begins and acts follow from
what was put to the narrator and what came back in the turns that were answered. -/
theorem retells_follow {actions : List (Action × Answer)}
    (hspeaks : ∀ x ∈ actions, x.1.speaks = true)
    (hbegin : ∀ x ∈ actions, x.1 = .play .begin → s.active = s.roster.main) :
    s.Retells (s.exchanges actions) (s.follow actions) := by
  induction actions generalizing s with
  | nil => exact .refl s
  | cons x actions ih =>
    obtain ⟨a, answer⟩ := x
    obtain ⟨hspeak, hspeaks⟩ := List.forall_mem_cons.mp hspeaks
    obtain ⟨hfirst, hbegin⟩ := List.forall_mem_cons.mp hbegin
    have hact := retells_act hspeak hfirst answer
    refine hact.trans (ih hspeaks fun x hx hb => ?_)
    rw [hact.active, hact.main]
    exact hbegin x hx hb

/-- Of a game of five actions, one of which is refused and two of which nobody answers, two
exchanges are told: a blow and, after a rest, an offer. -/
theorem retells_follow_five :
    let s := (Session.start .usual (.ofWords [7])).follow
      [(.create (.ofIdentity "Bo" "Elf" "Bard" "male"), .late)]
    let actions : List (Action × Answer) :=
      [(.play .begin, .said "DAMAGE:Bo,3"), (.play (.submit "Hello"), .late),
        (.play (.submit " "), .said "DAMAGE:Bo,3"), (.trySubmit false "Hello", .failed .empty),
        (.play (.submit " Hello "), .said "INVITE_CHARACTER:[Cy, Elf, Bard, male]")]
    (∀ x ∈ actions, x.1.speaks = true) ∧
      (∀ x ∈ actions, x.1 = .play .begin → s.active = s.roster.main) ∧
        s.exchanges actions = [⟨Conversation.opening, "DAMAGE:Bo,3", false⟩,
          ⟨"Hello", "INVITE_CHARACTER:[Cy, Elf, Bard, male]", true⟩] ∧
          s.Retells (s.exchanges actions) (s.follow actions) := by
  intro s actions
  have hspeaks : ∀ x ∈ actions, x.1.speaks = true := by simp [actions, Action.speaks]
  have hactive : s.active = s.roster.main := by decide +kernel
  have htold : s.exchanges actions = [⟨Conversation.opening, "DAMAGE:Bo,3", false⟩,
      ⟨"Hello", "INVITE_CHARACTER:[Cy, Elf, Bard, male]", true⟩] := by decide +kernel
  clear_value s actions
  exact ⟨hspeaks, fun _ _ _ => hactive, htold,
    retells_follow hspeaks fun _ _ _ => hactive⟩

end Session

end Tabletop
