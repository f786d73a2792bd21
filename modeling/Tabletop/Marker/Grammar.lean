import Tabletop.Marker.Directive
import Tabletop.Pattern.Basic

/-!
# The grammar of markers

One pattern for each kind of marker and the reading of the texts it keeps. The patterns forgive
brackets and blanks around separators; blanks around a field are kept with it and removed when it is
read. A number counts by its leading digits; without digits, or with a minus sign, it is zero.
-/

namespace Tabletop.Grammar

open Pattern (char word wordAnyCase optional someOf)

/-! ## Parts of patterns -/

/-- A space or a tab. -/
def isGap (c : Char) : Bool := c == ' ' || c == '\t'

/-- A sign before a number. -/
def isSign (c : Char) : Bool := c == '+' || c == '-'

/-- Characters of a field: no comma, bracket or line end. -/
def isFieldChar (c : Char) : Bool :=
  !(c == ',' || c == '[' || c == ']' || c == '\r' || c == '\n')

/-- Characters of a bracketed text: no closing bracket or line end. -/
def isBracketed (c : Char) : Bool := !(c == ']' || c == '\r' || c == '\n')

/-- Characters up to the end of a line. -/
def isLineChar (c : Char) : Bool := !(c == '\r' || c == '\n')

/-- Characters of a tag: no closing parenthesis or line end. -/
def isTagChar (c : Char) : Bool := !(c == ')' || c == '\r' || c == '\n')

/-- Any character but a line feed. -/
def isNotLineFeed (c : Char) : Bool := c != '\n'

/-- Any number of spaces and tabs. -/
def gap : Pattern := .run isGap

/-- A bracket with a gap before it, or nothing. -/
def bracket (c : Char) : Pattern := optional (.seq gap (char c))

/-- A colon with gaps around it. -/
def colon : Pattern := .all [gap, char ':', gap]

/-- A colon before fields, which may open a bracket. -/
def opensFields : Pattern := .all [gap, char ':', bracket '[']

/-- A comma between fields, which may close one bracket and open another. -/
def comma : Pattern := .all [bracket ']', gap, char ',', bracket '[']

/-- A gap, and then a sign, or none, and any word characters. -/
def numeral (i : Nat) : Pattern :=
  .seq gap (.capture i (.seq (optional (.one isSign)) (.run Text.isWordChar)))

/-- A gap, and then a sign, or none, and some word characters. -/
def numeralSome (i : Nat) : Pattern :=
  .seq gap (.capture i (.seq (optional (.one isSign)) (someOf Text.isWordChar)))

/-- Three numerals between commas. -/
def coins : Pattern := .all [numeral 1, comma, numeral 2, comma, numeral 3]

/-- A field that is not empty. -/
def field (i : Nat) : Pattern := .capture i (someOf isFieldChar)

/-- A text in brackets. -/
def bracketed (i : Nat) : Pattern := .all [char '[', .capture i (.run isBracketed), char ']']

/-- What stands before the tag of an item, if the tag has a character. -/
def tagOpening : Pattern :=
  .all [char '(', gap, wordAnyCase "tag", gap, char ':', .notNext (· == ')')]

/-- The name of an item and its tag in parentheses. The name ends at the first opening of a tag: a
later tag on the line could only be closed where this one is. -/
def nameAndTag : Pattern :=
  .all [.capture 1 (.seq (.one isLineChar) (.upTo isLineChar tagOpening)), tagOpening,
    .capture 2 (someOf isTagChar), char ')']

/-- The pattern of a kind of marker, from its first character on. -/
def pattern : Keyword → Pattern
  | .reward => .all [word "REWARD_CURRENCY", opensFields, coins, gap, optional (char ']')]
  | .purchase =>
    .all [word "TRANSACTION", opensFields, coins, bracket ']', bracket ']', gap, char ',', gap,
      .either
        (.all [char '[', .capture 4 (.run isFieldChar), char ']', gap, char ','])
        (.capture 5 (.run isFieldChar)),
      .capture 6 (.run isNotLineFeed)]
  | .damage => .all [word "DAMAGE", opensFields, field 1, comma, numeralSome 2, bracket ']']
  | .item => .all [wordAnyCase "ITEM", colon, nameAndTag]
  | .ambiance =>
    .all [wordAnyCase "AMBIANCE", colon,
      .either (.seq (char '[') (.capture 1 (someOf isBracketed))) (.capture 1 (someOf isBracketed)),
      optional (char ']'), optional (.seq (optional (char '\r')) (char '\n'))]
  | .minimap => .all [word "MINIMAP", colon, bracketed 1]
  | .distance => .all [word "DISTANCE_INFO", colon, char '[', numeral 1, gap, char ']']
  | .combatEnd => .all [word "COMBAT_END", .notNext Text.isWordChar]
  | .quest => .all [word "QUEST_COMPLETE", colon, bracketed 1]
  | .invite =>
    .all [word "INVITE_CHARACTER", opensFields, field 1, comma, field 2, comma, field 3, comma,
      field 4, optional (char ']')]

/-- The start of a marker: its word, and a colon for every kind but the end of combat. -/
def opening (k : Keyword) : Pattern :=
  let w := if k.anyCase then wordAnyCase k.name else word k.name
  match k with
  | .combatEnd => .seq w (.notNext Text.isWordChar)
  | _ => .all [w, gap, char ':']

/-! ## Reading what a pattern keeps -/

/-- The largest count a marker holds. -/
def maxCount : Nat := UInt32.size - 1

/-- The number that leading digits write; one beyond 64 bits is no number, and one beyond the
largest count is that count. -/
def leadingCount (cs : List Char) : UInt32 :=
  let n := Text.digitsValue (cs.takeWhile Text.isDigit)
  if UInt64.size ≤ n then 0 else UInt32.ofNat (min n maxCount)

/-- The count of a numeral: zero after a minus sign, else that of the digits after the sign. -/
def count (cs : List Char) : UInt32 :=
  match Text.trimChars cs with
  | '-' :: _ => 0
  | '+' :: cs => leadingCount cs
  | cs => leadingCount cs

/-- A kept text without blanks around it. -/
def kept (caps : Pattern.Captures) (i : Nat) : String :=
  String.ofList (Text.trimChars (caps.text i))

/-- The coins of the first three kept numerals. -/
def keptCoins (caps : Pattern.Captures) : Wallet :=
  ⟨count (caps.text 1), count (caps.text 2), count (caps.text 3)⟩

/-- A bracket of the kind that fields may stand in. -/
def isBracket (c : Char) : Bool := c == '[' || c == ']'

/-- The damage of a numeral, at most the largest that hit points can hold. -/
def damageOf (n : UInt32) : Int32 := Int32.ofInt (min (n.toNat : Int) Int32.maxValue.toInt)

/-- The parts of a list between separators, without blanks around them. -/
def listed (sep : Char) (s : String) : List String := (Text.splitAt sep s).map Text.trim

/-- A combatant written as side, name, column and row with slashes between; a place that is no
number is zero. -/
def combatant? (record : String) : Option Combatant :=
  match listed '/' record with
  | [side, id, x, y] => do
    let side ← Side.ofName? side
    return ⟨side, id, (Text.int32? x).getD 0, (Text.int32? y).getD 0⟩
  | _ => none

/-- The directive of the texts that a pattern of its kind keeps, unless a needed one is empty. -/
def read? (k : Keyword) (caps : Pattern.Captures) : Option Directive :=
  match k with
  | .reward => some (.reward (keptCoins caps))
  | .purchase =>
    let tag := if kept caps 4 ≠ "" then kept caps 4 else kept caps 5
    let items := (listed ',' (Text.remove isBracket (kept caps 6))).filter fun s => s ≠ ""
    some (.purchase (keptCoins caps) (if tag ≠ "" then some tag else none) items)
  | .damage => some (.damage (kept caps 1) (damageOf (count (caps.text 2))))
  | .item =>
    let name := Text.trim (Text.remove isBracket (kept caps 1))
    if name = "" then none else some (.item name (kept caps 2))
  | .ambiance =>
    let description := kept caps 1
    if description = "" then none else some (.ambiance description)
  | .minimap => some (.minimap ((Text.splitAt ';' (kept caps 1)).filterMap combatant?))
  | .distance => some (.distance (count (caps.text 1)))
  | .combatEnd => some .combatEnd
  | .quest => some (.quest (kept caps 1))
  | .invite =>
    if [kept caps 1, kept caps 2, kept caps 3, kept caps 4].any (· == "") then none
    else some (.invite (.offer (kept caps 1) (kept caps 2) (kept caps 3) (kept caps 4)))

/-- A directive as it stands in a text. -/
structure Marker where
  directive : Directive
  source : List Char
  deriving DecidableEq, Repr

/-- The marker of a kind at the very start of a text. -/
def markerOf? (k : Keyword) (cs : List Char) : Option Marker := do
  let m ← (pattern k).matchStart cs
  let d ← read? k m.captures
  return ⟨d, m.text⟩

/-- The opening that starts a text, by its kind and its characters; it is not the end of a longer
word, so no word character stands before it. -/
def openingAt? (before : Option Char) (cs : List Char) : Option (Keyword × List Char) :=
  if before.any Text.isWordChar then none
  else Keyword.list.findSome? fun k => ((opening k).matchStart cs).map fun m => (k, m.text)

/-- The marker at the start of a text with a character, or none, before it. -/
def markerAt? (before : Option Char) (cs : List Char) : Option Marker := do
  let (k, _) ← openingAt? before cs
  markerOf? k cs

end Tabletop.Grammar
