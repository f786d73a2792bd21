import Tabletop.Text.Basic

/-!
# Usage

The calls of the last stretch of time, counted against a limit. Old calls are dropped when somebody
asks, when a call is recorded, and by a task that looks once per window. Listeners hear of every
recorded call, and of calls that the task drops.
-/

namespace Tabletop

/-- Calls made at one time. -/
structure CallBatch where
  time : Nat
  count : Nat
  deriving DecidableEq, Repr

/-- Calls within a window of time; times are in milliseconds. -/
structure Usage where
  limit : Nat
  window : Nat
  /-- The calls that are held, by the time at which they were made, the latest first. -/
  calls : List CallBatch
  listeners : List Nat
  nextListener : Nat
  deriving DecidableEq, Repr

namespace Usage

/-- How much of the limit is used. -/
structure Snapshot where
  used : Nat
  limit : Nat
  deriving DecidableEq, Repr

/-- A listener and what it hears. -/
abbrev Hearing := Nat × Snapshot

/-- The usual limit on calls. -/
def defaultLimit : Nat := 60

/-- The usual window: a minute. -/
def defaultWindow : Nat := 60000

/-- No calls yet and nobody who listens. -/
def empty (limit window : Nat) : Usage := ⟨limit, window, [], [], 0⟩

namespace Snapshot

/-- The calls that are left. -/
def remaining (s : Snapshot) : Nat := s.limit - s.used

/-- A count in single precision. -/
def single (n : Nat) : Float32 := n.toUInt64.toFloat32

/-- The share of the limit that is left, from 0 to 100. -/
def percentage (s : Snapshot) : Float32 :=
  if s.limit = 0 then 0 else single s.remaining / single s.limit * 100

end Snapshot

/-- A call made at some time is still in the window. -/
def inWindow (u : Usage) (now call : Nat) : Bool := now - call < u.window

/-- The calls that are still in the window. -/
def prune (u : Usage) (now : Nat) : Usage :=
  { u with calls := u.calls.takeWhile fun b => u.inWindow now b.time }

/-- How many calls are held. -/
def held (u : Usage) : Nat := u.calls.foldr (fun b n => b.count + n) 0

/-- How much is used by the calls that are held. -/
def snapshot (u : Usage) : Snapshot := ⟨u.held, u.limit⟩

/-- How much is used now. -/
def query (u : Usage) (now : Nat) : Snapshot × Usage :=
  let u := u.prune now
  (u.snapshot, u)

/-- What every listener hears. -/
def announce (u : Usage) : List Hearing := u.listeners.map fun id => (id, u.snapshot)

/-- Calls with one more, made now. -/
def addCall (now : Nat) : List CallBatch → List CallBatch
  | b :: bs => if b.time = now then ⟨now, b.count + 1⟩ :: bs else ⟨now, 1⟩ :: b :: bs
  | [] => [⟨now, 1⟩]

/-- A call made now. -/
def record (u : Usage) (now : Nat) : Usage × List Hearing :=
  let u := { u with calls := addCall now u.calls }.prune now
  (u, u.announce)

/-- The look of the task; listeners hear of it if a call is dropped. -/
def tick (u : Usage) (now : Nat) : Usage × List Hearing :=
  let pruned := u.prune now
  if pruned.held = u.held then (u, []) else (pruned, pruned.announce)

/-- A new listener and its number. -/
def subscribe (u : Usage) : Usage × Nat :=
  ({ u with listeners := u.listeners ++ [u.nextListener], nextListener := u.nextListener + 1 },
    u.nextListener)

/-- A listener leaves; whether there was one. -/
def unsubscribe (u : Usage) (id : Nat) : Usage × Bool :=
  ({ u with listeners := u.listeners.filter (· != id) }, u.listeners.contains id)

/-- Looks at the end of each of a number of windows, the first at a given time. Without calls there
is nothing to look for. -/
def ticks (u : Usage) : Nat → Nat → Usage × List Hearing
  | 0, _ => (u, [])
  | count + 1, now =>
    if u.calls.isEmpty then (u, [])
    else
      let (u, heard) := u.tick now
      let (u, later) := ticks u count (now + u.window)
      (u, heard ++ later)

end Usage

/-- Usage on a clock, with or without the task that looks for old calls. -/
structure UsageClock where
  usage : Usage
  now : Nat
  /-- When the task looks next, if it runs. -/
  due : Option Nat
  deriving DecidableEq, Repr

namespace UsageClock

/-- A clock at its start. -/
def start (limit window : Nat) : UsageClock := ⟨.empty limit window, 0, none⟩

/-- The task starts, and looks as soon as time passes; it needs a window to run. -/
def startTask (c : UsageClock) : UsageClock :=
  { c with due := if c.usage.window = 0 then none else some c.now }

/-- The task stops. -/
def stopTask (c : UsageClock) : UsageClock := { c with due := none }

/-- A call made now. -/
def record (c : UsageClock) : UsageClock × List Usage.Hearing :=
  let (usage, heard) := c.usage.record c.now
  ({ c with usage }, heard)

/-- Calls made now, one after another. -/
def records (c : UsageClock) (count : Nat) : UsageClock × List Usage.Hearing :=
  let (c, latestFirst) := Nat.repeat
    (fun (c, latestFirst) =>
      let (c, heard) := c.record
      (c, heard.reverse ++ latestFirst))
    count (c, [])
  (c, latestFirst.reverse)

/-- How much is used now. -/
def query (c : UsageClock) : Usage.Snapshot × UsageClock :=
  let (s, usage) := c.usage.query c.now
  (s, { c with usage })

/-- Time passes; the task looks whenever it is due before the end. -/
def wait (c : UsageClock) (ms : Nat) : UsageClock × List Usage.Hearing :=
  let stop := c.now + ms
  match c.due with
  | none => ({ c with now := stop }, [])
  | some due =>
    let count := (stop - due + c.usage.window - 1) / c.usage.window
    let (usage, heard) := c.usage.ticks count due
    ({ c with usage, now := stop, due := some (due + count * c.usage.window) }, heard)

end UsageClock

end Tabletop
