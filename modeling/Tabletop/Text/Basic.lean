import Tabletop.Text.Character

/-!
# Text operations

Trimming, splitting, case folding and measuring of text. Each operation works on the list of
characters; its namesake on `String` converts at both ends. Lengths and offsets are counted in
bytes of the UTF-8 form.
-/

namespace Tabletop.Text

/-! ## Lists of characters -/

/-- The text without the characters of a class at its end. -/
def dropEnd (p : Char → Bool) (cs : List Char) : List Char :=
  (cs.reverse.dropWhile p).reverse

/-- The text without blanks at either end. -/
def trimChars (cs : List Char) : List Char := dropEnd isBlank (cs.dropWhile isBlank)

/-- The number of bytes of a text. -/
def byteLength : List Char → Nat
  | [] => 0
  | c :: cs => c.utf8Size + byteLength cs

/-- The pieces between the characters of a class; always at least one. -/
def splitChars (p : Char → Bool) : List Char → List (List Char)
  | [] => [[]]
  | c :: cs =>
    if p c then [] :: splitChars p cs
    else match splitChars p cs with
      | [] => [[c]]
      | piece :: pieces => (c :: piece) :: pieces

/-- The texts joined with a separator between neighbours. -/
def joinChars (sep : List Char) : List (List Char) → List Char
  | [] => []
  | [piece] => piece
  | piece :: pieces => piece ++ sep ++ joinChars sep pieces

/-- One text occurs within another. -/
def occursIn (needle : List Char) : List Char → Bool
  | [] => needle.isEmpty
  | c :: cs => needle.isPrefixOf (c :: cs) || occursIn needle cs

/-- The text splits at the first occurrence of a pair of characters. -/
def splitPair (a b : Char) : List Char → List (List Char)
  | [] => [[]]
  | [c] => [[c]]
  | c :: d :: cs =>
    if c == a && d == b then [] :: splitPair a b cs
    else match splitPair a b (d :: cs) with
      | [] => [[c]]
      | piece :: pieces => (c :: piece) :: pieces

/-- After characters that do not matter for case, a cased one comes next. -/
def casedNext (cs : List Char) : Bool :=
  match cs.dropWhile isCaseIgnorable with
  | c :: _ => isCased c
  | [] => false

/-- Lower case of a text; `before` holds the characters already passed, the nearest first. A capital
sigma that ends a word takes its final form. -/
def lowerFrom (before : List Char) : List Char → List Char
  | [] => []
  | c :: cs =>
    (if c == 'Σ' then (if casedNext before && !casedNext cs then ['ς'] else ['σ'])
      else lowerChar c) ++ lowerFrom (c :: before) cs

/-! ## Strings -/

/-- The text without blanks at either end. -/
def trim (s : String) : String := String.ofList (trimChars s.toList)

/-- The text is empty or all blank. -/
def isAllBlank (s : String) : Bool := s.toList.all isBlank

/-- The maximal runs of characters that are not blank. -/
def words (s : String) : List String :=
  ((splitChars isBlank s.toList).filter fun w => !w.isEmpty).map String.ofList

/-- The pieces of the text between the occurrences of a character. -/
def splitAt (sep : Char) (s : String) : List String :=
  (splitChars (· == sep) s.toList).map String.ofList

/-- Lower case of the whole text. -/
def lower (s : String) : String := String.ofList (lowerFrom [] s.toList)

/-- Lower case of the ASCII letters alone. -/
def asciiLower (s : String) : String := String.ofList (s.toList.map asciiLowerChar)

/-- Upper case of the ASCII letters alone. -/
def asciiUpper (s : String) : String := String.ofList (s.toList.map asciiUpperChar)

/-- The first character in upper case and every other in lower case, each on its own. -/
def capitalize (s : String) : String :=
  match s.toList with
  | [] => ""
  | c :: cs => String.ofList (upperChar c ++ cs.flatMap lowerChar)

/-- One text occurs within another. -/
def contains (s needle : String) : Bool := occursIn needle.toList s.toList

/-- The text without the characters of a class. -/
def remove (p : Char → Bool) (s : String) : String :=
  String.ofList (s.toList.filter fun c => !p c)

/-! ## Numbers as text -/

/-- The decimal digits of a natural number, without leading zeros. -/
def natDigits (n : Nat) : List Char := Nat.toDigits 10 n

/-- A natural number in decimal. -/
def ofNat (n : Nat) : String := String.ofList (natDigits n)

/-- An integer in decimal, with a minus sign when it is negative. -/
def ofInt (i : Int) : String :=
  if i < 0 then "-" ++ ofNat i.natAbs else ofNat i.natAbs

/-- The number that a run of digits writes. -/
def digitsValue (cs : List Char) : Nat := cs.foldl (fun n c => n * 10 + digitValue c) 0

/-- A natural number of digits alone, with at most one plus sign before them, below a bound. -/
def natBelow? (bound : Nat) (s : String) : Option Nat :=
  let digits := match s.toList with
    | '+' :: cs => cs
    | cs => cs
  if !digits.isEmpty && digits.all isDigit && digitsValue digits < bound then
    some (digitsValue digits)
  else none

/-- An integer of digits alone, with at most one sign before them, that fits 32 bits. -/
def int32? (s : String) : Option Int32 :=
  let (negative, digits) := match s.toList with
    | '+' :: cs => (false, cs)
    | '-' :: cs => (true, cs)
    | cs => (false, cs)
  let n := digitsValue digits
  if !digits.isEmpty && digits.all isDigit && n < (if negative then 2147483649 else 2147483648) then
    some (Int32.ofInt (if negative then -(n : Int) else n))
  else none

end Tabletop.Text
