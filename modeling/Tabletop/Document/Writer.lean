import Tabletop.Decimal.Shortest
import Tabletop.Document.Value
import Tabletop.Text.Basic

/-!
# Writing documents

The compact form, without blanks, and the indented form, with two spaces a level. Both escape
quotes, backslashes and control characters and nothing else.
-/

namespace Tabletop.Document

/-- Doubles show no exponent while the point stands from four places before the first digit to
sixteen after it. -/
def doubleLayout : Decimal.Layout := ⟨-4, 16⟩

/-- Singles show no exponent while the point stands from five places before the first digit to
thirteen after it. -/
def singleLayout : Decimal.Layout := ⟨-5, 13⟩

/-- A hexadecimal digit. -/
def hexDigit (n : Nat) : Char := if n < 10 then Char.ofNat (48 + n) else Char.ofNat (87 + n)

/-- A character within a text. -/
def escape (c : Char) : List Char :=
  match c.toNat with
  | 34 => ['\\', '"']
  | 92 => ['\\', '\\']
  | 8 => ['\\', 'b']
  | 12 => ['\\', 'f']
  | 10 => ['\\', 'n']
  | 13 => ['\\', 'r']
  | 9 => ['\\', 't']
  | n => if n < 32 then ['\\', 'u', '0', '0', hexDigit (n / 16), hexDigit (n % 16)] else [c]

/-- A text between quotes. -/
def quote (s : String) : List Char := '"' :: s.toList.flatMap escape ++ ['"']

/-- A number; one that is not finite is null. -/
def writeNumber : Numeric → List Char
  | .int i => (Text.ofInt i).toList
  | .double bits =>
    (Decimal.double.write? doubleLayout bits.toNat).getD ['n', 'u', 'l', 'l']
  | .single bits =>
    (Decimal.single.write? singleLayout bits.toNat).getD ['n', 'u', 'l', 'l']

/-- A value without parts. -/
def writeLeaf : Document → List Char
  | .bool true => ['t', 'r', 'u', 'e']
  | .bool false => ['f', 'a', 'l', 's', 'e']
  | .number n => writeNumber n
  | .text s => quote s
  | _ => ['n', 'u', 'l', 'l']

mutual

/-- The compact form. -/
def writeCompact : Document → List Char
  | .array items => '[' :: compactItems items ++ [']']
  | .object fields => '\x7b' :: compactFields fields ++ ['\x7d']
  | d => writeLeaf d

/-- Items with commas between them. -/
def compactItems : List Document → List Char
  | [] => []
  | [d] => writeCompact d
  | d :: ds => writeCompact d ++ ',' :: compactItems ds

/-- Fields with commas between them. -/
def compactFields : List (String × Document) → List Char
  | [] => []
  | [(key, d)] => quote key ++ ':' :: writeCompact d
  | (key, d) :: fields => quote key ++ ':' :: writeCompact d ++ ',' :: compactFields fields

end

/-- A new line at a level. -/
def newLine (level : Nat) : List Char := '\n' :: List.replicate (2 * level) ' '

mutual

/-- The indented form at a level; an array or object without parts stays on its line. -/
def writeIndented (level : Nat) : Document → List Char
  | .array [] => ['[', ']']
  | .array items => '[' :: indentedItems (level + 1) items ++ newLine level ++ [']']
  | .object [] => ['\x7b', '\x7d']
  | .object fields => '\x7b' :: indentedFields (level + 1) fields ++ newLine level ++ ['\x7d']
  | d => writeLeaf d

/-- Items, each on a line of its own. -/
def indentedItems (level : Nat) : List Document → List Char
  | [] => []
  | [d] => newLine level ++ writeIndented level d
  | d :: ds => newLine level ++ writeIndented level d ++ ',' :: indentedItems level ds

/-- Fields, each on a line of its own. -/
def indentedFields (level : Nat) : List (String × Document) → List Char
  | [] => []
  | [(key, d)] => newLine level ++ quote key ++ ':' :: ' ' :: writeIndented level d
  | (key, d) :: fields =>
    newLine level ++ quote key ++ ':' :: ' ' :: writeIndented level d ++
      ',' :: indentedFields level fields

end

/-- The compact form. -/
def compact (d : Document) : String := String.ofList (writeCompact d)

/-- The indented form. -/
def indented (d : Document) : String := String.ofList (writeIndented 0 d)

end Tabletop.Document
