import Tabletop.Marker.Grammar

/-!
# Narrator replies

A reply is a sequence of pieces, characters of prose and markers, whose sources put together are
the text. The pieces give the markers with their byte offsets and the text that players read.
-/

namespace Tabletop

open Grammar (Marker)

/-- A piece of a reply. -/
inductive Piece where
  | prose (c : Char)
  | marker (m : Marker)
  deriving DecidableEq, Repr

/-- The text that a piece covers. -/
def Piece.source : Piece → List Char
  | .prose c => [c]
  | .marker m => m.source

/-- A directive and the bytes of the text it covers, from `start` up to `stop`. -/
structure Placed where
  directive : Directive
  start : Nat
  stop : Nat
  deriving DecidableEq, Repr

namespace Reply

/-- Characters that come next and have been looked at already. -/
inductive Ahead where
  /-- They belong to a marker that has been found. -/
  | marked (left : Nat)
  /-- They belong to an opening that begins no marker. -/
  | passed (left : Nat)
  deriving DecidableEq, Repr

/-- The pieces of a text after `before`. Where an opening stands its marker is tried: the text goes
on after the marker if there is one, and else after the opening. -/
def piecesFrom : Option Char → Ahead → List Char → List Piece
  | _, _, [] => []
  | _, .marked (left + 1), c :: cs => piecesFrom (some c) (.marked left) cs
  | _, .passed (left + 1), c :: cs => .prose c :: piecesFrom (some c) (.passed left) cs
  | before, _, c :: cs =>
    match Grammar.openingAt? before (c :: cs) with
    | none => .prose c :: piecesFrom (some c) (.passed 0) cs
    | some (k, opening) =>
      match Grammar.markerOf? k (c :: cs) with
      | some m => .marker m :: piecesFrom (some c) (.marked (m.source.length - 1)) cs
      | none => .prose c :: piecesFrom (some c) (.passed (opening.length - 1)) cs

/-- The pieces of a text. -/
def pieces (cs : List Char) : List Piece := piecesFrom none (.passed 0) cs

/-- The markers among pieces that start at a byte offset. -/
def placedFrom : Nat → List Piece → List Placed
  | _, [] => []
  | at_, .prose c :: ps => placedFrom (at_ + c.utf8Size) ps
  | at_, .marker m :: ps =>
    let stop := at_ + Text.byteLength m.source
    ⟨m.directive, at_, stop⟩ :: placedFrom stop ps

/-- The markers among pieces, with their places. -/
def placed (ps : List Piece) : List Placed := placedFrom 0 ps

/-- The directives among pieces, in order. -/
def directives : List Piece → List Directive
  | [] => []
  | .prose _ :: ps => directives ps
  | .marker m :: ps => m.directive :: directives ps

/-- The characters of a text that begin before a number of bytes. -/
def takeBytes : Nat → List Char → List Char
  | _, [] => []
  | n, c :: cs => if n = 0 then [] else c :: takeBytes (n - c.utf8Size) cs

/-- The pieces of a text from a byte offset on, its markers given with their places. -/
def cut : Nat → List Placed → List Char → List Piece
  | _, [], cs => cs.map .prose
  | at_, p :: ps, cs =>
    let prose := takeBytes (p.start - at_) cs
    let rest := cs.drop prose.length
    let source := takeBytes (p.stop - p.start) rest
    prose.map .prose ++
      .marker ⟨p.directive, source⟩ :: cut p.stop ps (rest.drop source.length)

/-! ## The text that players read -/

/-- The first character of what follows. -/
def nextChar : List Piece → Option Char
  | [] => none
  | p :: ps => p.source.head? <|> nextChar ps

/-- What comes after a removed marker lets the gap before it go too. -/
def closesGap : Option Char → Bool
  | none => true
  | some c => Text.isBlank c || Text.isAsciiPunctuation c

/-- Text written so far, the latest character first, and the byte offsets of removed markers in
it. -/
structure Draft where
  written : List Char
  removals : List Nat
  deriving DecidableEq, Repr

/-- Writes pieces: prose as it stands, an item as its name, and nothing for any other marker. -/
def writePieces : Draft → List Piece → Draft
  | d, [] => d
  | d, .prose c :: ps => writePieces { d with written := c :: d.written } ps
  | d, .marker m :: ps =>
    let text := m.directive.replacement.toList
    if text.isEmpty then
      let written :=
        if closesGap (nextChar ps) then d.written.dropWhile Grammar.isGap else d.written
      writePieces ⟨written, d.removals ++ [Text.byteLength written]⟩ ps
    else writePieces { d with written := text.reverse ++ d.written } ps

/-- The lines of a text that starts at a byte offset, without the blank ones that a removal
touches. -/
def keptLines (removals : List Nat) : Nat → List (List Char) → List (List Char)
  | _, [] => []
  | at_, line :: lines =>
    let stop := at_ + Text.byteLength line
    let rest := keptLines removals (stop + 1) lines
    if removals.any (fun r => at_ ≤ r && r ≤ stop) && line.all Text.isBlank then rest
    else line :: rest

/-- The lines of a text, without those that removals have left blank. -/
def dropEmptied (removals : List Nat) (cs : List Char) : List Char :=
  Text.joinChars ['\n'] (keptLines removals 0 (Text.splitChars (· == '\n') cs))

/-- The text that players read. -/
def cleanChars (ps : List Piece) : List Char :=
  let d := writePieces ⟨[], []⟩ ps
  Text.trimChars (dropEmptied d.removals d.written.reverse)

/-- The text that players read. -/
def clean (ps : List Piece) : String := String.ofList (cleanChars ps)

end Reply

end Tabletop
