import Tabletop.Text.Character

/-!
# Patterns

A small language of text patterns. A pattern matches the start of a text in at most one way: a run
takes every character that it can, a choice keeps to the first alternative that matches, and nothing
that has been taken is given back. Matching recurses on the pattern and needs no bound.
-/

namespace Tabletop

/-- A pattern of text. -/
inductive Pattern where
  /-- Nothing at all. -/
  | empty
  /-- One character of a class. -/
  | one (p : Char → Bool)
  /-- All characters of a class that follow. -/
  | run (p : Char → Bool)
  /-- Nothing, where no character of a class follows. -/
  | notNext (p : Char → Bool)
  /-- Characters of a class, up to the first place where a pattern matches. -/
  | upTo (p : Char → Bool) (a : Pattern)
  /-- One pattern and then another. -/
  | seq (a b : Pattern)
  /-- The first pattern, or the second where the first does not match. -/
  | either (a b : Pattern)
  /-- A pattern whose text is kept under a number. -/
  | capture (i : Nat) (a : Pattern)

namespace Pattern

/-- The texts that a match keeps, by number. -/
abbrev Captures := List (Nat × List Char)

/-- The text kept under a number, empty when the match did not reach it. -/
def Captures.text (caps : Captures) (i : Nat) : List Char := (caps.lookup i).getD []

/-- A match at the start of a text: what it covers, what follows, and the texts it keeps. -/
structure Match where
  text : List Char
  rest : List Char
  captures : Captures
  deriving DecidableEq, Repr

/-- Characters of a class up to the first place that passes a test, and what follows. -/
def reach (p : Char → Bool) (test : List Char → Bool) :
    List Char → Option (List Char × List Char)
  | [] => if test [] then some ([], []) else none
  | c :: cs =>
    if test (c :: cs) then some ([], c :: cs)
    else if p c then (reach p test cs).map fun (text, rest) => (c :: text, rest)
    else none

/-- The match of a pattern at the start of a text. -/
def matchStart : Pattern → List Char → Option Match
  | .empty, cs => some ⟨[], cs, []⟩
  | .one _, [] => none
  | .one p, c :: cs => if p c then some ⟨[c], cs, []⟩ else none
  | .run p, cs => some ⟨cs.takeWhile p, cs.dropWhile p, []⟩
  | .notNext p, cs => if cs.head?.any p then none else some ⟨[], cs, []⟩
  | .upTo p a, cs =>
    (reach p (fun cs => (a.matchStart cs).isSome) cs).map fun (text, rest) => ⟨text, rest, []⟩
  | .seq a b, cs => do
    let m ← a.matchStart cs
    let n ← b.matchStart m.rest
    return ⟨m.text ++ n.text, n.rest, m.captures ++ n.captures⟩
  | .either a b, cs =>
    match a.matchStart cs with
    | some m => some m
    | none => b.matchStart cs
  | .capture i a, cs =>
    (a.matchStart cs).map fun m => { m with captures := (i, m.text) :: m.captures }

/-! ## Ways to write patterns -/

/-- One given character. -/
def char (c : Char) : Pattern := .one (· == c)

/-- Patterns one after another. -/
def all : List Pattern → Pattern
  | [] => .empty
  | [a] => a
  | a :: as => .seq a (all as)

/-- A given text. -/
def word (s : String) : Pattern := all (s.toList.map char)

/-- A given text of ASCII letters, in any case. -/
def wordAnyCase (s : String) : Pattern :=
  all (s.toList.map fun c => .one fun d => Text.asciiLowerChar d == Text.asciiLowerChar c)

/-- A pattern where it matches, and nothing elsewhere. -/
def optional (a : Pattern) : Pattern := .either a .empty

/-- All characters of a class that follow, at least one. -/
def someOf (p : Char → Bool) : Pattern := .seq (.one p) (.run p)

end Pattern

end Tabletop
