import Tabletop.Text.Basic

/-!
# Variables

A file of variables, one assignment to a line: a name, an equals sign and a value. Quotes hold a
value over several lines, `#` begins a comment, and a dollar sign stands for the value of another
variable. Reading stops at the first line that is none of this, and what came before it counts.
-/

namespace Tabletop.Variables

/-! ## Lines -/

/-- Where a line stands. -/
inductive Standing where
  | plain
  | blank
  | escaped
  | weak
  | weakEscaped
  | strong
  | strongEscaped
  deriving DecidableEq, Repr

/-- Outside of quotes, what a character leads to. -/
def Standing.outside (c : Char) : Standing :=
  if c = '\\' then .escaped else if c = '"' then .weak else if c = '\'' then .strong else .plain

/-- The next standing; nothing where a comment begins. -/
def Standing.next? (s : Standing) (c : Char) : Option Standing :=
  match s with
  | .plain =>
    some (if Text.isBlank c && c != '\n' && c != '\r' then .blank else .outside c)
  | .blank => if c = '#' then none else some (.outside c)
  | .escaped => some .plain
  | .weak => some (if c = '\\' then .weakEscaped else if c = '"' then .plain else .weak)
  | .weakEscaped => some .weak
  | .strong => some (if c = '\\' then .strongEscaped else if c = '\'' then .plain else .strong)
  | .strongEscaped => some .strong

/-- The line up to a comment, and the standing at its end unless there is a comment. -/
def scan (s : Standing) : List Char → List Char × Option Standing
  | [] => ([], some s)
  | c :: cs =>
    match s.next? c with
    | none => ([], none)
    | some s =>
      let (kept, last) := scan s cs
      (c :: kept, last)

/-- The lines of a text, each with the line feed that ends it. -/
def feeds : List Char → List (List Char)
  | [] => []
  | c :: cs =>
    if c = '\n' then [c] :: feeds cs
    else match feeds cs with
      | [] => [[c]]
      | line :: lines => (c :: line) :: lines

/-- A line without the line feed that ends it. -/
def chomp (line : List Char) : List Char :=
  match line.reverse with
  | '\n' :: '\r' :: cs => cs.reverse
  | '\n' :: cs => cs.reverse
  | _ => line

/-- A line that is a comment as a whole. -/
def isComment (line : List Char) : Bool := (line.dropWhile Text.isBlank).head? == some '#'

/-- Lines joined where quotes hold them together; `held` is what is held so far. A last line that is
not complete cannot be read. -/
def gather (s : Standing) (held : List Char) : List (List Char) → List (Option (List Char))
  | [] => if s = .plain then [] else [none]
  | line :: lines =>
    if isComment (held ++ line) then some [] :: gather .plain [] lines
    else match scan s line with
      | (kept, none) => some (held ++ kept) :: gather .plain [] lines
      | (_, some .plain) => some (chomp (held ++ line)) :: gather .plain [] lines
      | (_, some s) => gather s (held ++ line) lines

/-! ## Values -/

/-- The name of a variable within a value, while it is read. -/
inductive Reference where
  | none
  /-- After a dollar sign. -/
  | bare (name : List Char)
  /-- Within braces. -/
  | braced (name : List Char)
  deriving DecidableEq, Repr

/-- How far a value has been read. -/
structure Progress where
  strong : Bool
  weak : Bool
  escaped : Bool
  /-- Only blanks and a comment may follow. -/
  ended : Bool
  reference : Reference
  output : List Char
  deriving DecidableEq, Repr

namespace Progress

/-- Nothing read yet. -/
def start : Progress := ⟨false, false, false, false, .none, []⟩

/-- One more character of the value. -/
def push (p : Progress) (c : Char) : Progress := { p with output := p.output ++ [c] }

/-- The value of a variable in place of its name. -/
def insert (p : Progress) (value : String → String) (name : List Char) : Progress :=
  { p with reference := .none, output := p.output ++ (value (String.ofList name)).toList }

/-- A character after a backslash. -/
def unescape? (p : Progress) (c : Char) : Option Progress :=
  let p := { p with escaped := false }
  if c = 'n' then some (p.push '\n')
  else if c = '\\' ∨ c = '\'' ∨ c = '"' ∨ c = '$' ∨ c = ' ' then some (p.push c)
  else none

/-- A character after a dollar sign and a name. -/
def afterBare (p : Progress) (value : String → String) (name : List Char) (c : Char) : Progress :=
  if Text.isLetterOrNumber c then { p with reference := .bare (name ++ [c]) }
  else if c = '\x7b' ∧ name = [] then { p with reference := .braced [] }
  else if c = '$' then { p.insert value name with reference := .bare [] }
  else (p.insert value name).push c

/-- A character within braces. -/
def inBraces (p : Progress) (value : String → String) (name : List Char) (c : Char) : Progress :=
  if c = '\x7d' then p.insert value name else { p with reference := .braced (name ++ [c]) }

/-- A character that belongs to no name. -/
def plain (p : Progress) (c : Char) : Progress :=
  if c = '$' then { p with reference := .bare [] }
  else if c = '\\' then { p with escaped := true }
  else if p.weak then if c = '"' then { p with weak := false } else p.push c
  else if c = '\'' then { p with strong := true }
  else if c = '"' then { p with weak := true }
  else if c = ' ' ∨ c = '\t' then { p with ended := true }
  else p.push c

/-- The next character of a value that has not ended. -/
def next? (p : Progress) (value : String → String) (c : Char) : Option Progress :=
  if p.escaped then p.unescape? c
  else if p.strong then some (if c = '\'' then { p with strong := false } else p.push c)
  else some <| match p.reference with
    | .bare name => p.afterBare value name c
    | .braced name => p.inBraces value name c
    | .none => p.plain c

/-- The value at its end: no quote and no brace may be open. -/
def finish? (p : Progress) (value : String → String) : Option String :=
  if p.strong || p.weak then none
  else match p.reference with
    | .braced _ => none
    | .bare name => some (String.ofList (p.insert value name).output)
    | .none => some (String.ofList p.output)

/-- The value that characters write. -/
def read? (value : String → String) (p : Progress) : List Char → Option String
  | [] => p.finish? value
  | c :: cs =>
    if p.ended then
      if c = ' ' ∨ c = '\t' then p.read? value cs
      else if c = '#' then p.finish? value
      else none
    else (p.next? value c).bind fun p => p.read? value cs

end Progress

/-! ## Assignments -/

/-- Blanks left out. -/
def skip (cs : List Char) : List Char := cs.dropWhile Text.isBlank

/-- An ASCII letter or digit, or one of two signs that may stand in a name. -/
def isNameChar (c : Char) : Bool := c.isAlphanum || c == '_' || c == '.'

/-- A name at the beginning of a text, and what follows it and blanks. -/
def name? (cs : List Char) : Option (List Char × List Char) :=
  match cs with
  | c :: _ =>
    if c.isAlpha || c == '_' then some (cs.takeWhile isNameChar, skip (cs.dropWhile isNameChar))
    else none
  | [] => none

/-- What follows an equals sign. -/
def afterEquals? : List Char → Option (List Char)
  | '=' :: cs => some (skip cs)
  | _ => none

/-- A name and the text of its value; the word `export` may stand before the name. -/
def assignment? (cs : List Char) : Option (List Char × List Char) := do
  let (name, rest) ← name? cs
  match afterEquals? rest with
  | some text => return (name, text)
  | none =>
    if name = "export".toList then
      let (name, rest) ← name? rest
      return (name, ← afterEquals? rest)
    else none

/-- A text is empty or a comment. -/
def isVoid (cs : List Char) : Bool := cs.head? == none || cs.head? == some '#'

/-- Variables and their values. -/
abbrev Bindings := List (String × String)

/-- The value of a variable: that of the environment, or else the one assigned last. -/
def valueIn (environment assigned : Bindings) (name : String) : String :=
  ((environment.lookup name).orElse fun _ => assigned.lookup name).getD ""

/-- The environment with the variables of lines; a variable that has a value keeps it. -/
def extend (environment assigned : Bindings) : List (Option (List Char)) → Bindings
  | [] => environment
  | none :: _ => environment
  | some line :: lines =>
    let line := Text.trimChars line
    if isVoid line then extend environment assigned lines
    else
      let binding := do
        let (name, text) ← assignment? line
        let value ← if isVoid text then some "" else
          Progress.start.read? (valueIn environment assigned) text
        return (String.ofList name, value)
      match binding with
      | none => environment
      | some (name, value) =>
        let environment := if (environment.lookup name).isSome then environment
          else (name, value) :: environment
        extend environment ((name, value) :: assigned) lines

/-- Words of a text that may be the names of variables. -/
def mentioned (text : String) : List String :=
  ((Text.splitChars (fun c => !isNameChar c) text.toList).filter fun w => !w.isEmpty).map
    String.ofList

/-- The mark that may stand before a text. -/
def byteOrderMark : Char := '\uFEFF'

/-- The environment with the variables of a file's text. -/
def load (environment : Bindings) (text : String) : Bindings :=
  let cs := match text.toList with
    | c :: cs => if c = byteOrderMark then cs else c :: cs
    | [] => []
  extend environment [] (gather .plain [] (feeds cs))

end Tabletop.Variables
