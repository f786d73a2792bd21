import Tabletop.Document.Numeral

/-!
# Tokens

A document's text cut into tokens by a machine that reads one character at a time.
-/

namespace Tabletop.Document

/-- A mark between values. -/
inductive Mark where
  | openObject
  | closeObject
  | openArray
  | closeArray
  | comma
  | colon
  deriving DecidableEq, Repr

/-- A token. A text with half a surrogate pair in it, and a number out of range, denote nothing. -/
inductive Token where
  | mark (m : Mark)
  | text (s : Option String)
  | number (n : Option Numeric)
  | literal (d : Document)
  deriving Repr

/-- Where the machine stands. Characters read so far stand latest first; those of a text are code
points, and may be surrogates. -/
inductive Lexing where
  | between
  | inText (codes : List Nat)
  | escaped (codes : List Nat)
  | inCode (codes : List Nat) (digits : List Nat)
  | inNumber (chars : List Char)
  | inWord (chars : List Char)
  deriving DecidableEq, Repr

/-- Characters that may stand between tokens. -/
def isSpace (c : Char) : Bool := c == ' ' || c == '\t' || c == '\n' || c == '\r'

/-- The mark that a character is. -/
def markOf? : Char → Option Mark
  | '\x7b' => some .openObject
  | '\x7d' => some .closeObject
  | '[' => some .openArray
  | ']' => some .closeArray
  | ',' => some .comma
  | ':' => some .colon
  | _ => none

/-- The value of a hexadecimal digit. -/
def hexValue? (c : Char) : Option Nat :=
  if Text.isDigit c then some (c.toNat - 48)
  else if 97 ≤ c.toNat && c.toNat ≤ 102 then some (c.toNat - 87)
  else if 65 ≤ c.toNat && c.toNat ≤ 70 then some (c.toNat - 55)
  else none

/-- What a character means after a backslash, other than the one that starts a code. -/
def escapeOf? : Char → Option Nat
  | '"' => some 34
  | '\\' => some 92
  | '/' => some 47
  | 'b' => some 8
  | 'f' => some 12
  | 'n' => some 10
  | 'r' => some 13
  | 't' => some 9
  | _ => none

/-- A code point in the first half of the surrogates. -/
def isHighSurrogate (code : Nat) : Bool := 0xD800 ≤ code && code ≤ 0xDBFF

/-- A code point in the second half of the surrogates. -/
def isLowSurrogate (code : Nat) : Bool := 0xDC00 ≤ code && code ≤ 0xDFFF

/-- The characters of code points, a pair of surrogates making one; nothing if one stands alone. -/
def joinSurrogates : List Nat → Option (List Char)
  | [] => some []
  | [code] => if isHighSurrogate code || isLowSurrogate code then none else some [Char.ofNat code]
  | high :: low :: codes =>
    if isHighSurrogate high then
      if isLowSurrogate low then
        (joinSurrogates codes).map
          (Char.ofNat (0x10000 + (high - 0xD800) * 0x400 + (low - 0xDC00)) :: ·)
      else none
    else if isLowSurrogate high then none
    else (joinSurrogates (low :: codes)).map (Char.ofNat high :: ·)

/-- The token of a text whose code points stand latest first. -/
def textToken (codes : List Nat) : Token :=
  .text ((joinSurrogates codes.reverse).map String.ofList)

/-- The token of a numeral whose characters stand latest first. -/
def numberToken? (chars : List Char) : Option Token :=
  (Numeral.ofChars? chars.reverse).map fun n => .number n.value?

/-- The token of a word whose characters stand latest first. -/
def wordToken? (chars : List Char) : Option Token :=
  match String.ofList chars.reverse with
  | "null" => some (.literal .null)
  | "true" => some (.literal (.bool true))
  | "false" => some (.literal (.bool false))
  | _ => none

/-- Characters that go on a numeral. -/
def isNumberChar (c : Char) : Bool :=
  Text.isDigit c || c == '-' || c == '+' || c == '.' || c == 'e' || c == 'E'

/-- The machine and the tokens after a character between tokens. -/
def lexFresh (c : Char) : Option (Lexing × List Token) :=
  if isSpace c then some (.between, [])
  else if c == '"' then some (.inText [], [])
  else match markOf? c with
    | some m => some (.between, [.mark m])
    | none =>
      if Text.isDigit c || c == '-' then some (.inNumber [c], [])
      else if Text.isAsciiLower c then some (.inWord [c], [])
      else none

/-- A token that ended before a character, and what that character starts. -/
def lexAfter (token : Option Token) (c : Char) : Option (Lexing × List Token) := do
  let token ← token
  let (next, tokens) ← lexFresh c
  return (next, token :: tokens)

/-- One step of the machine: where it stands then, and the tokens that ended. -/
def lexStep (s : Lexing) (c : Char) : Option (Lexing × List Token) :=
  match s with
  | .between => lexFresh c
  | .inText codes =>
    if c == '"' then some (.between, [textToken codes])
    else if c == '\\' then some (.escaped codes, [])
    else if c.toNat < 0x20 then none
    else some (.inText (c.toNat :: codes), [])
  | .escaped codes =>
    if c == 'u' then some (.inCode codes [], [])
    else (escapeOf? c).map fun code => (.inText (code :: codes), [])
  | .inCode codes digits => do
    let d ← hexValue? c
    match digits with
    | [x, y, z] => return (.inText ((z * 4096 + y * 256 + x * 16 + d) :: codes), [])
    | _ => return (.inCode codes (d :: digits), [])
  | .inNumber chars =>
    if isNumberChar c then some (.inNumber (c :: chars), []) else lexAfter (numberToken? chars) c
  | .inWord chars =>
    if Text.isAsciiLower c then some (.inWord (c :: chars), []) else lexAfter (wordToken? chars) c

/-- The last token, when the text ends. -/
def lexEnd : Lexing → Option (List Token)
  | .between => some []
  | .inNumber chars => (numberToken? chars).map ([·])
  | .inWord chars => (wordToken? chars).map ([·])
  | _ => none

/-- The tokens of a text from a state of the machine on. -/
def lexFrom : Lexing → List Char → Option (List Token)
  | s, [] => lexEnd s
  | s, c :: cs => do
    let (s, tokens) ← lexStep s c
    return tokens ++ (← lexFrom s cs)

/-- The tokens of a text. -/
def lex? (cs : List Char) : Option (List Token) := lexFrom .between cs

end Tabletop.Document
