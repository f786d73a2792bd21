/-!
# Input

The lines of what is typed or piped in. A line ends with a line feed or with the input, and a line
that is not text ends the input.
-/

namespace Tabletop.Input

/-- The byte that ends a line. -/
def lineFeed : UInt8 := 10

/-- The lines of bytes. -/
def pieces : List UInt8 → List (List UInt8)
  | [] => []
  | b :: bs =>
    if b = lineFeed then [] :: pieces bs
    else match pieces bs with
      | [] => [[b]]
      | line :: lines => (b :: line) :: lines

/-- The texts at the beginning of a list. -/
def texts : List (Option String) → List String
  | some s :: rest => s :: texts rest
  | _ => []

/-- The lines of an input. -/
def lines (input : ByteArray) : List String :=
  texts ((pieces input.toList).map fun line => String.fromUTF8? ⟨line.toArray⟩)

end Tabletop.Input
