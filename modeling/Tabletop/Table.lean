import Tabletop.Scene.Studio
import Tabletop.Session.Play

/-!
# The table

A session together with the services around it: the narrator, the painter, the count of calls and
the voice, all on one clock.
-/

namespace Tabletop

/-- Those who answer a session. -/
structure Cast (m : Type → Type) where
  /-- The narrator's answer and the milliseconds it takes; nothing if it never comes. -/
  narrate : Narration → m (Option (Nat × Except NarratorError String))
  /-- The reference to a picture, unless the painter fails, and the milliseconds it takes. -/
  paint : String → m (Nat × Option String)

/-- The services that a session has. -/
structure Services where
  painter : Bool
  usage : Bool
  voice : Bool
  deriving DecidableEq, Repr

/-- A session with its services. -/
structure Table where
  session : Session
  services : Services
  studio : Studio
  /-- The texts read aloud and their voices, in order. -/
  spoken : List (String × String)
  /-- How often speaking was stopped. -/
  hushes : Nat
  deriving DecidableEq, Repr

namespace Table

/-- A table for a session. -/
def ofSession (session : Session) (services : Services) : Table :=
  { session, services
    studio := .start session.settings.discardStale
      (.empty Usage.defaultLimit Usage.defaultWindow)
    spoken := []
    hushes := 0 }

/-- A signal carried out, if there is a service for it. -/
def heed (t : Table) : Signal → Table
  | .hush => if t.services.voice then { t with hushes := t.hushes + 1 } else t
  | .speak text locale =>
    if t.services.voice then { t with spoken := t.spoken ++ [(text, locale)] } else t
  | .paint description =>
    if t.services.painter then { t with studio := t.studio.request description } else t

/-- Signals carried out in order. -/
def heedAll (t : Table) (signals : List Signal) : Table := signals.foldl heed t

/-- A call counted, if calls are. -/
def recordCall (t : Table) : Table :=
  if t.services.usage then { t with studio := t.studio.recordCall } else t

/-- How much of the limit on calls is used. -/
def usage (t : Table) : Usage.Snapshot := (t.studio.usage.query t.studio.now).1

variable {m : Type → Type} [Monad m]

/-- Time passes. -/
def wait (cast : Cast m) (t : Table) (ms : Nat) : m Table := do
  return { t with studio := ← t.studio.wait cast.paint ms }

/-- The session waits for something that takes no time. -/
def pause (cast : Cast m) (t : Table) : m Table := do
  return { t with studio := ← t.studio.pause cast.paint }

/-- The milliseconds that the session waits for the narrator: as long as the answer takes, and no
longer than its limit. An answer at once is never late. -/
def patience (limit : Nat) : Option (Nat × Except NarratorError String) → Nat
  | none => limit
  | some (delay, _) => if 0 < delay && limit ≤ delay then limit else delay

/-- What the session hears of the narrator within its limit. -/
def heard (limit : Nat) : Option (Nat × Except NarratorError String) → Answer
  | none => .late
  | some (delay, answer) =>
    if 0 < delay && limit ≤ delay then .late
    else match answer with
      | .ok text => .said text
      | .error e => .failed e

/-- The narrator is asked, and answers before the time the session allows is over or too late. -/
def consult (cast : Cast m) (t : Table) (question : Narration) : m (Table × Answer) := do
  let t := t.recordCall
  let limit := t.session.settings.timeout
  let reply ← cast.narrate question
  return (← t.wait cast (patience limit reply), heard limit reply)

/-- A move played to its end: its turn, if it opens one, is put to the narrator and closed. -/
def play (cast : Cast m) (t : Table) (move : Session → Move) :
    m (Table × Except SessionError (Option Outcome)) := do
  let move := move t.session
  let t := { t with session := move.session }.heedAll move.signals
  match move.opening with
  | .refused e => return (t, .error e)
  | .idle => return (t, .ok none)
  | .overflow => return (t, .error .overflow)
  | .asking turn =>
    let (t, answer) ← t.consult cast turn.question
    let (session, signals, result) := t.session.closeTurn turn answer
    return ({ t with session }.heedAll signals, result.map some)

end Table

end Tabletop
