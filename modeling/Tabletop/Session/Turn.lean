import Tabletop.Marker.Effect
import Tabletop.Marker.Reply
import Tabletop.Narrator.Prompt
import Tabletop.Session.Basic
import Tabletop.Session.Notice
import Tabletop.Session.Signal

/-!
# Turns

A turn opens with a question for the narrator and closes with the answer. Between the two nothing is
settled: the party's rest is worked out on a copy, which an answer commits together with all that
follows from it and a failure throws away.
-/

namespace Tabletop

/-- What comes of a question. -/
inductive Answer where
  | said (text : String)
  | failed (e : NarratorError)
  /-- Nothing came in time. -/
  | late
  deriving DecidableEq, Repr

/-- What a turn has brought. -/
structure Outcome where
  narration : String
  effects : List Effect
  notices : List Notice
  /-- The entries that the turn has added to the log. -/
  events : List Event
  deriving DecidableEq, Repr

/-- The game has ended. -/
def Outcome.isGameOver (o : Outcome) : Bool := o.notices.any Notice.isGameOver

/-- A turn that waits for the narrator. -/
structure Turn where
  text : String
  /-- The text is the player's, and goes to the log. -/
  isPlayers : Bool
  /-- The party's hit points before the turn. -/
  hpBefore : List Int
  /-- The party after its rest. -/
  roster : Roster
  /-- Entries for the log so far. -/
  events : List Event
  /-- Notices from before the turn. -/
  notices : List Notice
  question : Narration
  deriving DecidableEq, Repr

namespace Session

/-- The system line for the narrator's silence. -/
def connectionLost : String := "Connection to the Dungeon Master was lost. Please try again."

/-! ## Opening -/

/-- The entry for a member who has healed at rest. -/
def rested? : Character × Regeneration → Option Event
  | (c, .healed) => some (.game (c.name ++ " regenerated 1 HP."))
  | _ => none

/-- One turn of rest for every member, with the entries for those who healed. Nothing comes of it
when a member's count of turns overflows. -/
def rest? (r : Roster) (threshold : UInt32) : Option (Roster × List Event) :=
  (r.members.mapM (Character.regenerate? · threshold)).map fun results =>
    ({ r with members := results.map Prod.fst }, results.filterMap rested?)

/-- The player's line in the log, if the text is the player's. -/
def playerLine (text : String) (isPlayers : Bool) : List Event :=
  if isPlayers then [.player text] else []

/-- The question to the narrator about a party. -/
def question (s : Session) (r : Roster) (text : String) : Narration :=
  ⟨Prompt.write s.settings.campaign r s.settings.language, s.history, text⟩

/-- The party at the opening of a turn, with the entries for its rest; only the player's turns give
it rest. -/
def readied? (s : Session) (isPlayers : Bool) : Option (Roster × List Event) :=
  if isPlayers then rest? s.roster s.settings.regenThreshold else some (s.roster, [])

/-- A turn opened with a text, unless the party's rest comes to nothing. -/
def openTurn? (s : Session) (text : String) (isPlayers : Bool) : Option Turn :=
  (s.readied? isPlayers).map fun (roster, rested) =>
    { text, isPlayers, roster
      hpBefore := s.roster.hpList
      events := playerLine text isPlayers ++ rested
      notices := []
      question := s.question roster text }

/-! ## Closing -/

/-- The notices of fights that begin and end: the markers that begin one count before those that end
one. -/
def combatNotices (active : Bool) (ds : List Directive) : List Notice :=
  let starts := ds.any Directive.startsCombat && !active
  (if starts then [.combatStarted] else []) ++
    if ds.any Directive.endsCombat && (active || starts) then [.combatEnded] else []

/-- The notice of a quest that an effect completes. -/
def victory? : Effect → Option Notice
  | .questCompleted quest => some (.victory quest)
  | _ => none

/-- The scene that an effect asks for. -/
def scene? : Effect → Option Signal
  | .sceneRequested description => some (.paint description)
  | _ => none

/-- The invitation that an effect offers. -/
def offer? : Effect → Option Invitation
  | .invitationOffered i => some i
  | _ => none

/-- The narrator's entry: none without narration and invitation. -/
def narratorEntry (narration : String) (invitation : Option Invitation) : List Event :=
  if narration = "" ∧ invitation = none then []
  else [{ Event.narrator narration with invitation }]

/-- What is read aloud. -/
def spoken (s : Session) (narration : String) : List Signal :=
  if s.settings.speech ∧ narration ≠ "" then
    [.speak narration (Signal.locale s.settings.language)]
  else []

/-- The phase after a turn. -/
def phaseAfter (o : Outcome) : Phase := if o.isGameOver then .gameOver else .awaitingInput

/-- What directives act on in a turn. -/
def situation (s : Session) (t : Turn) : Situation :=
  ⟨t.roster, s.combat, s.active, (Log.openInvitation? s.log).isSome⟩

/-- A turn closed with the narrator's text. -/
def completeTurn (s : Session) (t : Turn) (raw : String) : Session × List Signal × Outcome :=
  let pieces := Reply.pieces raw.toList
  let directives := Reply.directives pieces
  let narration := Reply.clean pieces
  let (after, effects) := (s.situation t).applyAll directives
  let outcome : Outcome :=
    { narration, effects
      notices := t.notices ++ combatNotices s.combat.active directives ++
        effects.filterMap victory? ++ Notice.ofVitals t.hpBefore after.roster
      events := t.events ++ effects.filterMap Effect.logEntry? ++
        narratorEntry narration (effects.filterMap offer?).getLast? }
  ({ s with
      roster := after.roster
      combat := after.combat
      log := s.log ++ outcome.events
      history := s.history ++ [.player t.text, .narrator raw]
      phase := phaseAfter outcome },
    effects.filterMap scene? ++ s.spoken narration, outcome)

/-- A turn closed without an answer: the log keeps the player's line and says so. -/
def failTurn (s : Session) (t : Turn) : Session :=
  { s with
    log := s.log ++ playerLine t.text t.isPlayers ++ [.system connectionLost]
    phase := .awaitingInput }

/-- A turn closed. -/
def closeTurn (s : Session) (t : Turn) :
    Answer → Session × List Signal × Except SessionError Outcome
  | .said raw =>
    let (s, signals, outcome) := s.completeTurn t raw
    (s, signals, .ok outcome)
  | .failed e => (s.failTurn t, [], .error (.narrator e))
  | .late => (s.failTurn t, [], .error (.timeout s.settings.timeout))

end Session

end Tabletop
