import Tabletop.Console.Basic

/-!
# The program

What a call of the program comes to, and how it ends.
-/

namespace Tabletop

/-- The variables that the program looks at. -/
def variableNames : List String :=
  ["ANTHROPIC_API_KEY", "TAVERN_CAMPAIGN", "TAVERN_IMAGE_API_KEY", "TAVERN_IMAGE_ENDPOINT",
   "TAVERN_MAX_TOKENS", "TAVERN_MODEL", "TAVERN_TIMEOUT_SECS"]

/-- What a call of the program comes to. -/
inductive Invocation where
  /-- How the program is called. -/
  | usage
  /-- There is no key for the narrator. -/
  | keyless
  | game (o : Options)
  deriving DecidableEq, Repr

namespace Invocation

/-- A word that asks how the program is called. -/
def asksUsage (word : String) : Bool := word == "--help" || word == "-h"

/-- What a call with these words comes to. -/
def ofWords (environment : String → Option String) (words : List String) : Invocation :=
  if words.any asksUsage then .usage
  else if (environment "ANTHROPIC_API_KEY").isNone then .keyless
  else .game (.ofWords words)

end Invocation

variable {m : Type → Type} [Monad m]

/-- A whole game on lines, and what has kept it from starting or broken it off. -/
def Console.playAll (host : Host m) (environment : String → Option String) (o : Options)
    (dice : Dice) (lines : List String) : m (Except SessionError Console) := do
  match ← Console.start host environment o dice with
  | .ok c => return (← c.run host (Console.play host) lines).elim (.error .overflow) .ok
  | .error e => return .error e

/-- The exit code of a program that an overflow has ended. -/
def overflowCode : Nat := 101

/-- The whole program on lines; its exit code. -/
def Invocation.run (host : Host m) (environment : String → Option String) (dice : Dice)
    (lines : List String) : Invocation → m Nat
  | .usage => do
    Console.printAll host Page.usage
    return 0
  | .keyless => return 1
  | .game o => do
    match ← Console.playAll host environment o dice lines with
    | .ok _ => return 0
    | .error .overflow => return overflowCode
    | .error _ => return 1

end Tabletop
