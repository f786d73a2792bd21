import Tabletop.Scene.Board
import Tabletop.Usage

/-!
# The studio

Requests for pictures on a clock. A request is issued at once, and work on it begins when whoever
issued it lets time pass or waits for something else; only then does it count as a call. The picture
is ready after as long as the painter takes.
-/

namespace Tabletop

/-- A picture under way, ready at a time; none if the painter fails. -/
structure Sketch where
  id : Nat
  due : Nat
  image : Option SceneImage
  deriving DecidableEq, Repr

/-- Requests for pictures on a clock that counts milliseconds. -/
structure Studio where
  now : Nat
  board : Board
  usage : Usage
  /-- Requests on which work has not begun, oldest first. -/
  waiting : List (Nat × String)
  /-- Pictures under way, in the order in which work on them began. -/
  sketches : List Sketch
  /-- Resolved requests, the latest first, and whether their pictures were shown. -/
  resolved : List (Nat × Bool)
  deriving DecidableEq, Repr

namespace Studio

/-- A studio without requests. -/
def start (discardStale : Bool) (usage : Usage) : Studio :=
  ⟨0, .empty discardStale, usage, [], [], []⟩

/-- A call made now. -/
def recordCall (s : Studio) : Studio := { s with usage := (s.usage.record s.now).1 }

/-- A new request. -/
def request (s : Studio) (description : String) : Studio :=
  let (board, id) := s.board.issue
  { s with board, waiting := s.waiting ++ [(id, description)] }

/-- A request resolved. -/
def resolve (s : Studio) (sketch : Sketch) : Studio :=
  let (board, shown) := s.board.resolve sketch.id sketch.image
  { s with board, resolved := (sketch.id, shown) :: s.resolved }

/-- The pictures that are ready resolved, the earliest first and among equals the one begun
first. -/
def settle (s : Studio) (isReady : Nat → Bool) : Studio :=
  let (ready, sketches) := s.sketches.partition fun k => isReady k.due
  (ready.mergeSort fun a b => decide (a.due ≤ b.due)).foldl resolve { s with sketches }

variable {m : Type → Type} [Monad m]

/-- Work begins on a request. The painter says how long it takes and what comes of it; what takes no
time is resolved at once. -/
def beginOne (paint : String → m (Nat × Option String)) (s : Studio) (request : Nat × String) :
    m Studio := do
  let s := s.recordCall
  let (delay, url) ← paint request.2
  let sketch : Sketch := ⟨request.1, s.now + delay, url.map fun url => ⟨request.2, url⟩⟩
  return if delay = 0 then s.resolve sketch else { s with sketches := s.sketches ++ [sketch] }

/-- Whoever issues requests waits for something that takes no time: what is ready is resolved, and
work begins on every request. -/
def pause (paint : String → m (Nat × Option String)) (s : Studio) : m Studio :=
  let s := s.settle (· ≤ s.now)
  s.waiting.foldlM (beginOne paint) { s with waiting := [] }

/-- Time passes. What is ready only at the very end is resolved after it. -/
def wait (paint : String → m (Nat × Option String)) (s : Studio) (ms : Nat) : m Studio := do
  if ms = 0 then return s
  let s ← s.pause paint
  let stop := s.now + ms
  return { s.settle (· < stop) with now := stop }

/-- Time passes until a request is resolved; whether its picture was shown. -/
def await (paint : String → m (Nat × Option String)) (s : Studio) (id : Nat) :
    m (Studio × Bool) := do
  if let some shown := s.resolved.lookup id then return (s, shown)
  let s ← s.pause paint
  match s.sketches.find? fun k => k.id == id with
  | none => return (s, (s.resolved.lookup id).getD false)
  | some sketch =>
    let s := { s.settle (· ≤ sketch.due) with now := sketch.due }
    return (s, (s.resolved.lookup id).getD false)

end Studio

end Tabletop
