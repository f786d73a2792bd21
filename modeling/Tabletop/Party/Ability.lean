import Tabletop.Dice.Basic

/-!
# Ability scores

Six scores, their modifiers, and scores bought at random from a budget of points.
-/

namespace Tabletop

/-- The six abilities, in the order in which sheets list them. -/
inductive Ability where
  | strength
  | dexterity
  | constitution
  | intelligence
  | wisdom
  | charisma
  deriving DecidableEq, Repr

/-- A score for each ability. -/
structure AbilityScores where
  strength : UInt8
  dexterity : UInt8
  constitution : UInt8
  intelligence : UInt8
  wisdom : UInt8
  charisma : UInt8
  deriving DecidableEq, Repr

namespace AbilityScores

/-- The same score for every ability. -/
def uniform (score : UInt8) : AbilityScores := ⟨score, score, score, score, score, score⟩

/-- The scores of someone without distinction. -/
def average : AbilityScores := uniform 10

/-- The scores in order. -/
def toList (s : AbilityScores) : List UInt8 :=
  [s.strength, s.dexterity, s.constitution, s.intelligence, s.wisdom, s.charisma]

/-- Half of what a score has above ten, rounded down. -/
def modifier (score : UInt8) : Int := Int.fdiv ((score.toNat : Int) - 10) 2

/-- The score of one ability. -/
def get (s : AbilityScores) : Ability → UInt8
  | .strength => s.strength
  | .dexterity => s.dexterity
  | .constitution => s.constitution
  | .intelligence => s.intelligence
  | .wisdom => s.wisdom
  | .charisma => s.charisma

/-- The scores with one of them replaced. -/
def set (s : AbilityScores) (score : UInt8) : Ability → AbilityScores
  | .strength => { s with strength := score }
  | .dexterity => { s with dexterity := score }
  | .constitution => { s with constitution := score }
  | .intelligence => { s with intelligence := score }
  | .wisdom => { s with wisdom := score }
  | .charisma => { s with charisma := score }

/-! ## Buying scores -/

/-- The points that random scores are bought with. -/
def budget : Nat := 27

/-- How many draws are made at most. -/
def maxDraws : Nat := 1000

/-- The points from the lowest score on sale to a given one; other scores are not on sale. -/
def price? (score : UInt8) : Option Nat :=
  match score.toNat with
  | 8 => some 0
  | 9 => some 1
  | 10 => some 2
  | 11 => some 3
  | 12 => some 4
  | 13 => some 5
  | 14 => some 7
  | 15 => some 9
  | _ => none

/-- The ability with a number; from five on the last one. -/
def abilityAt : Nat → Ability
  | 0 => .strength
  | 1 => .dexterity
  | 2 => .constitution
  | 3 => .intelligence
  | 4 => .wisdom
  | _ => .charisma

/-- Scores on the way, and the points not yet spent. -/
structure Purchase where
  scores : AbilityScores
  points : Nat
  deriving DecidableEq, Repr

/-- Nothing bought yet. -/
def Purchase.start : Purchase := ⟨uniform 8, budget⟩

/-- Raises one ability by one point of score, if it is for sale and the points suffice. -/
def Purchase.raise (p : Purchase) (ability : Ability) : Purchase :=
  let score := p.scores.get ability
  match price? score, price? (score + 1) with
  | some paid, some next =>
    if next - paid ≤ p.points then ⟨p.scores.set (score + 1) ability, p.points - (next - paid)⟩
    else p
  | _, _ => p

/-- Buys until the points or the draws are used up. -/
def buy : Nat → Purchase → Dice → Purchase × Dice
  | 0, p, dice => (p, dice)
  | draws + 1, p, dice =>
    if p.points = 0 then (p, dice)
    else
      let (i, dice) := dice.below64 6
      buy draws (p.raise (abilityAt i)) dice

/-- Scores bought at random. -/
def roll (dice : Dice) : AbilityScores × Dice :=
  let (p, dice) := buy maxDraws Purchase.start dice
  (p.scores, dice)

end AbilityScores

end Tabletop
