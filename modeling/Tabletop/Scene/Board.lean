/-!
# The scene board

The picture of the place that the players see. Requests for pictures are numbered as they are
issued and may be resolved in any order; by default the last one resolved is shown, and with
`discardStale` a picture never replaces one that was asked for later.
-/

namespace Tabletop

/-- A picture of a place. -/
structure SceneImage where
  description : String
  url : String
  deriving DecidableEq, Repr

/-- The board. -/
structure Board where
  current : Option SceneImage
  /-- The number of the request issued last. -/
  issued : Nat
  /-- The number of the request whose picture is shown. -/
  shown : Nat
  /-- How many requests are unresolved. -/
  pending : Nat
  discardStale : Bool
  deriving DecidableEq, Repr

namespace Board

/-- An empty board. -/
def empty (discardStale : Bool) : Board := ⟨none, 0, 0, 0, discardStale⟩

/-- Some request is unresolved. -/
def isGenerating (b : Board) : Bool := 0 < b.pending

/-- A new request and its number. -/
def issue (b : Board) : Board × Nat :=
  ({ b with issued := b.issued + 1, pending := b.pending + 1 }, b.issued + 1)

/-- A picture may be shown. -/
def admits (b : Board) (id : Nat) : Bool := !(b.discardStale && id < b.shown)

/-- A request resolved, with a picture or without; whether its picture is shown now. -/
def resolve (b : Board) (id : Nat) (image : Option SceneImage) : Board × Bool :=
  let b := { b with pending := b.pending - 1 }
  match image with
  | none => (b, false)
  | some image =>
    if b.admits id then ({ b with current := some image, shown := id }, true) else (b, false)

end Board

end Tabletop
