import Tabletop.Session.Turn

/-!
# Play

What the player can do to move the story on: begin it, act, answer an invitation, use an item. Each
either is refused, comes to nothing, or opens a turn, unless the turn breaks off at once.
-/

namespace Tabletop

/-- What comes of something the player does. -/
inductive Opening where
  | refused (e : SessionError)
  /-- Nothing happens. -/
  | idle
  /-- A count overflows, and the turn breaks off before the narrator is asked. -/
  | overflow
  | asking (t : Turn)
  deriving DecidableEq, Repr

/-- Something the player has done. -/
structure Move where
  session : Session
  signals : List Signal
  opening : Opening
  deriving DecidableEq, Repr

namespace Move

/-- A move with signals before its own. -/
def after (signals : List Signal) (m : Move) : Move := { m with signals := signals ++ m.signals }

/-- A move whose turn has notices from before it. -/
def withNotices (notices : List Notice) (m : Move) : Move :=
  match m.opening with
  | .asking t => { m with opening := .asking { t with notices := notices ++ t.notices } }
  | _ => m

end Move

namespace Session

/-- The system line before the first narration. -/
def settingTheScene : String := "The Dungeon Master is setting the scene..."

/-- Something refused, which changes nothing. -/
def refuse (s : Session) (e : SessionError) : Move := ⟨s, [], .refused e⟩

/-- A turn opened; what is being spoken ends. -/
def ask (s : Session) (text : String) (isPlayers : Bool) : Move :=
  ⟨{ s with phase := .sending }, [.hush], (s.openTurn? text isPlayers).elim .overflow .asking⟩

/-- The adventure begins, with the protagonist acting. -/
def begin (s : Session) : Move :=
  if !s.log.isEmpty then s.refuse .alreadyStarted
  else if s.roster.isEmpty then s.refuse .noParty
  else ({ s with active := s.roster.main }.note (.system settingTheScene)).ask
    Conversation.opening false

/-- The player acts. -/
def submit (s : Session) (input : String) : Move :=
  let text := Text.trim input
  if text = "" then s.refuse .emptyInput
  else match s.ensurePlayable with
    | .error e => s.refuse e
    | .ok () => s.ask text true

/-- The player acts, unless somebody else holds the session. -/
def trySubmit (s : Session) (held : Bool) (input : String) : Move :=
  if held then s.refuse .turnInProgress else s.submit input

/-- The pending invitation of a log entry. -/
def pendingInvitation? (s : Session) (index : Nat) : Option Invitation :=
  (Log.invitation? s.log index).filter fun i => i.status == .pending

/-- The session with the status of an invitation changed. -/
def mark (s : Session) (index : Nat) (status : InvitationStatus) : Session :=
  { s with log := (Log.setStatus s.log index status).1 }

/-- The joiner of an invitation made and put into the party; the dice are used either way. -/
def join (s : Session) (i : Invitation) : Session × Except SessionError Character :=
  let (recipe, dice) := i.recipe s.dice
  let s := { s with dice }
  match recipe.make with
  | .error e => (s, .error (.recipe e))
  | .ok c =>
    match s.addMember c with
    | .error e => (s, .error e)
    | .ok (_, s) => (s, .ok c)

/-- An invitation accepted: the joiner comes, and the narrator is told. -/
def accept (s : Session) (index : Nat) : Move :=
  match s.ensurePlayable with
  | .error e => s.refuse e
  | .ok () =>
    match s.pendingInvitation? index with
    | none => s.refuse (.noInvitation index)
    | some i =>
      match (s.mark index .generating).join i with
      | (s, .error e) => ⟨s.mark index .error, [.hush], .refused e⟩
      | (s, .ok c) =>
        .after [.hush]
          ((s.mark index .accepted).submit
            ("(I have accepted. " ++ c.name ++ " joins the party.)"))

/-- An invitation declined, and the narrator told. -/
def decline (s : Session) (index : Nat) : Move :=
  match s.ensurePlayable with
  | .error e => s.refuse e
  | .ok () =>
    match s.pendingInvitation? index with
    | none => s.refuse (.noInvitation index)
    | some i =>
      .after [.hush]
        ((s.mark index .declined).submit
          ("(I have declined the invitation for " ++ i.name ++ " to join.)"))

/-- A member healed by an item, which is used up; nothing when there is nothing to heal. -/
def consume? (c : Character) (index amount : Nat) : Option (Nat × Character) :=
  let healed := c.heal amount
  let gained := (healed.currentHp.toInt - c.currentHp.toInt).toNat
  if gained = 0 then none
  else some (gained, { healed with inventory := healed.inventory.eraseIdx index })

/-- A member uses an item. One that heals is used up, and the narrator is told. -/
def useItem (s : Session) (member index : Nat) : Move :=
  match s.ensurePlayable with
  | .error e => s.refuse e
  | .ok () =>
    match s.roster.get? member with
    | none => s.refuse (.roster (.noSuchMember member))
    | some c =>
      match c.inventory[index]? with
      | none => s.refuse (.item (.noSuchItem index c.inventory.length))
      | some item =>
        let (amount, dice) := item.rollHealing s.dice
        let s := { s with dice }
        match consume? c index amount with
        | none => ⟨s, [], .idle⟩
        | some (healed, changed) =>
          let before := s.roster.hpList
          let roster := { s.roster with members := s.roster.members.set member changed }
          let count := Text.ofNat healed
          let s := { s with roster }.note
            (.game (c.name ++ " used " ++ item.name ++ " and recovered " ++ count ++ " HP."))
          .withNotices (Notice.ofVitals before roster)
            (s.submit ("(I use a " ++ item.name ++ " and recover " ++ count ++ " HP.)"))

/-- Reading aloud is turned on or off; off, what is being spoken ends. -/
def setSpeech (s : Session) (enabled : Bool) : Session × List Signal :=
  ({ s with settings := { s.settings with speech := enabled } }, if enabled then [] else [.hush])

end Session

/-- Something the player does that may open a turn. -/
inductive Deed where
  | begin
  | submit (input : String)
  | accept (index : Nat)
  | decline (index : Nat)
  | useItem (member index : Nat)
  deriving DecidableEq, Repr

/-- The move of a deed. -/
def Deed.move : Deed → Session → Move
  | .begin, s => s.begin
  | .submit input, s => s.submit input
  | .accept index, s => s.accept index
  | .decline index, s => s.decline index
  | .useItem member index, s => s.useItem member index

end Tabletop
