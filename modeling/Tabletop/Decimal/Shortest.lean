/-!
# Shortest decimals

A binary floating point number stands for the reals that round to it. Of the decimals among them,
the shortest counts, and of those of one length the nearest to the number itself. All comparisons
are of natural numbers.
-/

namespace Tabletop.Decimal

/-- The widths of the fields of a floating point format. -/
structure Format where
  fractionBits : Nat
  exponentBits : Nat
  deriving DecidableEq, Repr

/-- Single precision. -/
def single : Format := ⟨23, 8⟩

/-- Double precision. -/
def double : Format := ⟨52, 11⟩

/-- What a bit pattern stands for. -/
inductive Reading where
  /-- `significand * 2 ^ (exponent - offset)`; `edge` when the next number below is nearer. -/
  | finite (negative : Bool) (significand exponent : Nat) (edge : Bool)
  | infinite (negative : Bool)
  | notANumber
  deriving DecidableEq, Repr

/-- The power of two by which a format's exponents are offset. -/
def Format.offset (f : Format) : Nat := Nat.pow 2 (f.exponentBits - 1) - 1 + f.fractionBits

/-- The reading of a bit pattern. -/
def Format.read (f : Format) (bits : Nat) : Reading :=
  let fraction := bits % Nat.pow 2 f.fractionBits
  let exponent := bits / Nat.pow 2 f.fractionBits % Nat.pow 2 f.exponentBits
  let negative := bits / Nat.pow 2 (f.fractionBits + f.exponentBits) % 2 == 1
  if exponent = Nat.pow 2 f.exponentBits - 1 then
    if fraction = 0 then .infinite negative else .notANumber
  else if exponent = 0 then .finite negative fraction 1 false
  else
    .finite negative (Nat.pow 2 f.fractionBits + fraction) exponent (fraction == 0 && 1 < exponent)

/-- A decimal: `digits * 10 ^ exponent`. -/
structure Scientific where
  digits : Nat
  exponent : Int
  deriving DecidableEq, Repr

/-- Positive reals between two bounds, around a value, all over one denominator. -/
structure Interval where
  low : Nat
  value : Nat
  high : Nat
  denominator : Nat
  /-- The bounds belong to it. -/
  closed : Bool
  deriving DecidableEq, Repr

/-- The reals that round to a finite number that is not zero. -/
def Format.interval (f : Format) (significand exponent : Nat) (edge : Bool) : Interval :=
  let up := Nat.pow 2 (exponent - f.offset)
  let down := Nat.pow 2 (f.offset - exponent)
  { low := (4 * significand - (if edge then 1 else 2)) * up
    value := 4 * significand * up
    high := (4 * significand + 2) * up
    denominator := 4 * down
    closed := significand % 2 == 0 }

/-- The exponent of the leading digit of a quotient. -/
def leadingExponent (n d : Nat) : Int :=
  if d ≤ n then ((Nat.toDigits 10 (n / d)).length : Int) - 1
  else match (List.range 400).find? fun j => d ≤ n * Nat.pow 10 j with
    | some j => -(j : Int)
    | none => -400

/-- The decimal on the grid of one power of ten that lies in the interval and is nearest to its
value; a tie goes to the even digits. -/
def Interval.onGrid? (i : Interval) (exponent : Int) : Option Scientific :=
  let p := i.denominator * Nat.pow 10 exponent.toNat
  let q := Nat.pow 10 (-exponent).toNat
  let inside (c : Nat) : Bool :=
    if i.closed then i.low * q ≤ c * p && c * p ≤ i.high * q
    else i.low * q < c * p && c * p < i.high * q
  let below := i.value * q / p
  let fromBelow := i.value * q - below * p
  let fromAbove := (below + 1) * p - i.value * q
  match inside below, inside (below + 1) with
  | true, true =>
    if fromBelow < fromAbove || (fromBelow == fromAbove && below % 2 == 0) then
      some ⟨below, exponent⟩
    else some ⟨below + 1, exponent⟩
  | true, false => some ⟨below, exponent⟩
  | false, true => some ⟨below + 1, exponent⟩
  | false, false => none

/-- Trailing zeros moved from the digits to the exponent. -/
def Scientific.trimZeros : Nat → Scientific → Scientific
  | 0, s => s
  | fuel + 1, s =>
    if s.digits % 10 = 0 ∧ s.digits ≠ 0 then
      trimZeros fuel ⟨s.digits / 10, s.exponent + 1⟩
    else s

/-- The shortest decimal in an interval, with at most seventeen digits. -/
def Interval.shortest (i : Interval) : Scientific :=
  let lead := leadingExponent i.value i.denominator
  match (List.range 17).findSome? fun n : Nat => i.onGrid? (lead - n) with
  | some s => s.trimZeros 20
  | none => ⟨0, 0⟩

/-! ## Layout -/

/-- How a decimal is laid out: the least and greatest place of the point, counted from the first
digit, for which no exponent is written. -/
structure Layout where
  leastPoint : Int
  greatestPoint : Int
  deriving DecidableEq, Repr

/-- Zeros. -/
def zeros (n : Nat) : List Char := List.replicate n '0'

/-- An exponent, always with its sign. -/
def exponentText (i : Int) : List Char :=
  'e' :: (if i < 0 then '-' else '+') :: Nat.toDigits 10 i.natAbs

/-- A decimal in text. A whole number keeps one zero after the point; an exponent shows its
sign. -/
def Layout.write (l : Layout) (s : Scientific) : List Char :=
  let digits := Nat.toDigits 10 s.digits
  let point : Int := digits.length + s.exponent
  if 0 ≤ s.exponent ∧ point ≤ l.greatestPoint then
    digits ++ zeros s.exponent.toNat ++ ['.', '0']
  else if 0 < point ∧ point ≤ l.greatestPoint then
    digits.take point.toNat ++ '.' :: digits.drop point.toNat
  else if l.leastPoint ≤ point ∧ point ≤ 0 then
    '0' :: '.' :: zeros (-point).toNat ++ digits
  else match digits with
    | d :: ds =>
      (if ds.isEmpty then [d] else d :: '.' :: ds) ++ exponentText (point - 1)
    | [] => []

/-- A finite number in text: the shortest decimal that reads back as it. Nothing for the others. -/
def Format.write? (f : Format) (l : Layout) (bits : Nat) : Option (List Char) :=
  match f.read bits with
  | .finite negative significand exponent edge =>
    let text := if significand = 0 then ['0', '.', '0']
      else l.write (f.interval significand exponent edge).shortest
    some (if negative then '-' :: text else text)
  | _ => none

/-! ## Whole numbers -/

/-- A quotient rounded to the nearest whole number; a half goes to the even neighbour. -/
def roundHalfEven (n d : Nat) : Nat :=
  let below := n / d
  let twice := 2 * (n % d)
  if twice < d || (twice == d && below % 2 == 0) then below else below + 1

/-- A number that is not negative, rounded to a whole one; zero for those that are not finite. -/
def Format.round (f : Format) (bits : Nat) : Nat :=
  match f.read bits with
  | .finite _ significand exponent _ =>
    roundHalfEven (significand * Nat.pow 2 (exponent - f.offset)) (Nat.pow 2 (f.offset - exponent))
  | _ => 0

end Tabletop.Decimal
