import Tabletop.Text.LetterTable
import Tabletop.Text.CaseTable

/-!
# Character classes

Blanks, digits, word characters and letters, and the case maps of single characters. Below code
point 128 every class is decided by the ASCII rule; above it a table decides.
-/

namespace Tabletop.Text

/-- Characters with the property White_Space. -/
def isBlank (c : Char) : Bool :=
  (9 ≤ c.toNat && c.toNat ≤ 13) || c.toNat == 0x20 || c.toNat == 0x85 || c.toNat == 0xA0 ||
    c.toNat == 0x1680 || (0x2000 ≤ c.toNat && c.toNat ≤ 0x200A) || c.toNat == 0x2028 ||
    c.toNat == 0x2029 || c.toNat == 0x202F || c.toNat == 0x205F || c.toNat == 0x3000

/-- The digits `0` to `9`. -/
def isDigit (c : Char) : Bool := 48 ≤ c.toNat && c.toNat ≤ 57

/-- The value of a digit. -/
def digitValue (c : Char) : Nat := c.toNat - 48

/-- The letters `A` to `Z`. -/
def isAsciiUpper (c : Char) : Bool := 65 ≤ c.toNat && c.toNat ≤ 90

/-- The letters `a` to `z`. -/
def isAsciiLower (c : Char) : Bool := 97 ≤ c.toNat && c.toNat ≤ 122

/-- ASCII characters that are neither letters, digits, blanks nor controls. -/
def isAsciiPunctuation (c : Char) : Bool :=
  (33 ≤ c.toNat && c.toNat ≤ 47) || (58 ≤ c.toNat && c.toNat ≤ 64) ||
    (91 ≤ c.toNat && c.toNat ≤ 96) || (123 ≤ c.toNat && c.toNat ≤ 126)

/-- Characters that words are made of: letters, marks, decimal digits, connectors, joiners. -/
def isWordChar (c : Char) : Bool :=
  if c.toNat < 128 then isDigit c || isAsciiUpper c || isAsciiLower c || c == '_'
  else wordRanges.contains c.toNat

/-- Letters and numbers of every script. -/
def isLetterOrNumber (c : Char) : Bool :=
  if c.toNat < 128 then isDigit c || isAsciiUpper c || isAsciiLower c
  else letterOrNumberRanges.contains c.toNat

/-- Characters that have case. -/
def isCased (c : Char) : Bool :=
  if c.toNat < 128 then isAsciiUpper c || isAsciiLower c else casedRanges.contains c.toNat

/-- Characters that do not interrupt the search for a cased neighbour. -/
def isCaseIgnorable (c : Char) : Bool :=
  if c.toNat < 128 then c ∈ ['\'', '.', ':', '^', '\x60'] else caseIgnorableRanges.contains c.toNat

/-- An ASCII capital becomes its small letter; all else stays. -/
def asciiLowerChar (c : Char) : Char := if isAsciiUpper c then Char.ofNat (c.toNat + 32) else c

/-- An ASCII small letter becomes its capital; all else stays. -/
def asciiUpperChar (c : Char) : Char := if isAsciiLower c then Char.ofNat (c.toNat - 32) else c

/-- The lower-case form of one character, on its own. -/
def lowerChar (c : Char) : List Char :=
  if c.toNat < 128 then [asciiLowerChar c]
  else match lowerExpansions.lookup c.toNat with
    | some codes => codes.map Char.ofNat
    | none => [Char.ofNat (shiftBy lowerRuns c.toNat)]

/-- The upper-case form of one character. -/
def upperChar (c : Char) : List Char :=
  if c.toNat < 128 then [asciiUpperChar c]
  else match upperExpansions.lookup c.toNat with
    | some codes => codes.map Char.ofNat
    | none => [Char.ofNat (shiftBy upperRuns c.toNat)]

end Tabletop.Text
