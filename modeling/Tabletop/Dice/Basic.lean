import Tabletop.Dice.KeyStream

/-!
# Dice

A source of chance: a key stream grown from a seed, or a scripted list of words that repeats. Draws
in a range are uniform by refusal: a word is multiplied by the size of the range, its high half is
the draw, and the word is refused when the low half falls in the uneven remainder.
-/

namespace Tabletop

/-- A source of random words. -/
inductive Dice where
  /-- The stream of a key: the number of the next block and the words left of the current one. -/
  | seeded (key : Dice.Key) (block : Nat) (pending : List UInt32)
  /-- Given words, one after another and over again from the start. -/
  | scripted (words : List UInt64) (position : Nat)
  deriving DecidableEq, Repr

namespace Dice

/-- The dice of a seed. -/
def ofSeed (seed : UInt64) : Dice := .seeded (keyOfSeed seed) 0 []

/-- Dice that show given words in turn. -/
def ofWords (words : List UInt64) : Dice := .scripted words 0

/-- The next 32-bit word; of a scripted word the low half. -/
def draw32 : Dice → UInt32 × Dice
  | .seeded key block (w :: ws) => (w, .seeded key block ws)
  | .seeded key block [] =>
    match blockWords key block with
    | w :: ws => (w, .seeded key (block + 1) ws)
    | [] => (0, .seeded key (block + 1) [])
  | .scripted words position =>
    ((words.getD (position % words.length) 0).toUInt32, .scripted words (position + 1))

/-- The next 64-bit word; of a key stream two words, the low one first. -/
def draw64 (dice : Dice) : UInt64 × Dice :=
  match dice with
  | .scripted words position =>
    (words.getD (position % words.length) 0, .scripted words (position + 1))
  | .seeded .. =>
    let (low, dice) := dice.draw32
    let (high, dice) := dice.draw32
    (low.toUInt64 ||| (high.toUInt64 <<< 32), dice)

/-- The greatest low half that a draw of this width and range size accepts. -/
def acceptZone (width size : Nat) : Nat := size * Nat.pow 2 (width - 1 - size.log2) - 1

/-- A draw below `size` from words of `width` bits. Past the given number of refusals the last word
stands, so that even a stream of refused words ends. -/
def below (width size : Nat) (draw : Dice → Nat × Dice) : Nat → Dice → Nat × Dice
  | 0, dice =>
    let (word, dice) := draw dice
    (word * size / Nat.pow 2 width, dice)
  | patience + 1, dice =>
    let (word, dice) := draw dice
    if word * size % Nat.pow 2 width ≤ acceptZone width size then
      (word * size / Nat.pow 2 width, dice)
    else below width size draw patience dice

/-- How many refused words a draw sits through. -/
def patience : Nat := 100000

/-- A draw below `size` from 32-bit words. -/
def below32 (size : Nat) (dice : Dice) : Nat × Dice :=
  below 32 size (fun d => (d.draw32.1.toNat, d.draw32.2)) patience dice

/-- A draw below `size` from 64-bit words. -/
def below64 (size : Nat) (dice : Dice) : Nat × Dice :=
  below 64 size (fun d => (d.draw64.1.toNat, d.draw64.2)) patience dice

/-- One throw of a four-sided die. -/
def d4 (dice : Dice) : Nat × Dice :=
  let (n, dice) := dice.below32 4
  (n + 1, dice)

/-- The sum of several throws of a four-sided die. -/
def sumD4 : Nat → Dice → Nat × Dice
  | 0, dice => (0, dice)
  | n + 1, dice =>
    let (first, dice) := dice.d4
    let (rest, dice) := sumD4 n dice
    (first + rest, dice)

/-- A member of a list of texts, each as likely as any other. -/
def choose (options : List String) (dice : Dice) : String × Dice :=
  let (i, dice) := dice.below32 options.length
  (options.getD i "", dice)

end Dice

end Tabletop
