import Tabletop.Document.Value
import Tabletop.Text.Basic

/-!
# Numerals

The numbers of documents as they are written. An integer that fits 64 bits is exact. Any other
number takes as many leading digits as fit 64 bits and scales them by one power of ten, rounding
each step to double precision; one that leaves that range denotes nothing.
-/

namespace Tabletop.Document

/-- A numeral in its parts. -/
structure Numeral where
  negative : Bool
  whole : List Char
  /-- The digits after the point, if there is one. -/
  fraction : Option (List Char)
  /-- Whether the exponent is negative, and its digits, if there is one. -/
  exponent : Option (Bool × List Char)
  deriving DecidableEq, Repr

namespace Numeral

/-- The parts of a numeral: digits without a leading zero, a fraction and an exponent with at least
one digit each. -/
def ofChars? (cs : List Char) : Option Numeral := do
  let (negative, cs) := match cs with
    | '-' :: cs => (true, cs)
    | cs => (false, cs)
  let whole := cs.takeWhile Text.isDigit
  let cs := cs.dropWhile Text.isDigit
  if whole.isEmpty || (whole.head? == some '0' && whole.length ≠ 1) then none
  let (fraction, cs) ← match cs with
    | '.' :: cs =>
      let digits := cs.takeWhile Text.isDigit
      if digits.isEmpty then none else some (some digits, cs.dropWhile Text.isDigit)
    | cs => some (none, cs)
  let exponentOf (cs : List Char) : Option (Bool × List Char) :=
    let (minus, cs) := match cs with
      | '-' :: cs => (true, cs)
      | '+' :: cs => (false, cs)
      | cs => (false, cs)
    if cs.isEmpty || !cs.all Text.isDigit then none else some (minus, cs)
  match cs with
  | [] => some ⟨negative, whole, fraction, none⟩
  | c :: cs =>
    if c == 'e' || c == 'E' then return ⟨negative, whole, fraction, some (← exponentOf cs)⟩
    else none

/-- Digits taken as long as the number they write stays below a bound, and those left over. -/
def takeFitting (bound : Nat) : Nat → List Char → Nat × List Char
  | n, [] => (n, [])
  | n, c :: cs =>
    let next := n * 10 + Text.digitValue c
    if next < bound then takeFitting bound next cs else (n, c :: cs)

/-- One power of ten in double precision. -/
def powerOfTen (n : Nat) : Float := Float.ofScientific 1 false n

/-- A number scaled by a power of ten, step by step below the range of a single power; nothing
when the result is too large. -/
def scale (steps : Nat) (f : Float) (exponent : Int) : Option Float :=
  if 0 ≤ exponent then
    if 308 < exponent then (if f == 0 then some f else none)
    else
      let f := f * powerOfTen exponent.toNat
      if f.isInf then none else some f
  else if -308 ≤ exponent then some (f / powerOfTen exponent.natAbs)
  else match steps with
    | 0 => some 0
    | steps + 1 => scale steps (f / powerOfTen 308) (exponent + 308)

/-- The exponent that digits write, which counts as unbounded from a limit on. -/
def exponentValue (digits : List Char) : Option Nat :=
  let n := Text.digitsValue digits
  if n < 2147483648 then some n else none

/-- The floating point number of a numeral. -/
def toFloat? (n : Numeral) : Option Float :=
  let (significand, overflow) := takeFitting UInt64.size 0 n.whole
  let fraction := n.fraction.getD []
  let (significand, ignored) := takeFitting UInt64.size significand fraction
  let start : Int := overflow.length - (fraction.length - ignored.length : Nat)
  let magnitude := match n.exponent with
    | none => scale 3 (Float.ofNat significand) start
    | some (minus, digits) =>
      match exponentValue digits with
      | some e => scale 3 (Float.ofNat significand) (if minus then start - e else start + e)
      | none => if minus || significand == 0 then some 0 else none
  magnitude.map fun f => if n.negative then -f else f

/-- The number of a numeral. -/
def value? (n : Numeral) : Option Numeric :=
  let whole := Text.digitsValue n.whole
  let exact := n.fraction.isNone && n.exponent.isNone
  if exact && !n.negative && whole < UInt64.size then some (.int whole)
  else if exact && n.negative && 0 < whole && whole ≤ 9223372036854775808 then
    some (.int (-(whole : Int)))
  else n.toFloat?.map fun f => .double f.toBits

end Numeral

end Tabletop.Document
