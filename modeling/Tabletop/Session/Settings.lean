import Tabletop.Narrator.Narration
import Tabletop.Party.Roster
import Tabletop.Story.Campaign

/-!
# Settings

What is fixed about a session before it begins, and what the environment may change of it.
-/

namespace Tabletop

/-- The settings of a session. -/
structure Settings where
  campaign : Campaign
  narrator : NarratorSettings
  /-- The most milliseconds that the narrator may take. -/
  timeout : Nat
  partyCap : Nat
  /-- The turns of rest that heal one hit point. -/
  regenThreshold : UInt32
  discardStale : Bool
  speech : Bool
  language : String
  deriving DecidableEq, Repr

namespace Settings

/-- The usual settings. -/
def usual : Settings :=
  { campaign := .usual
    narrator := .usual
    timeout := 60000
    partyCap := Roster.defaultCap
    regenThreshold := 3
    discardStale := false
    speech := false
    language := "en" }

/-- A count in the environment; what is no count does not matter. -/
def count? (environment : String → Option String) (name : String) : Option Nat :=
  (environment name).bind fun s => Text.natBelow? UInt64.size (Text.trim s)

/-- The settings that an environment asks for. -/
def ofEnvironment (environment : String → Option String) : Settings :=
  let campaign := (environment "TAVERN_CAMPAIGN").bind Campaign.ofId?
  { usual with
    campaign := campaign.getD usual.campaign
    narrator := { usual.narrator with
      model := environment "TAVERN_MODEL"
      maxTokens := (count? environment "TAVERN_MAX_TOKENS").getD usual.narrator.maxTokens }
    timeout := ((count? environment "TAVERN_TIMEOUT_SECS").map (· * 1000)).getD usual.timeout }

/-- Digits without the zeros at their end. -/
def dropZeros (cs : List Char) : List Char := Text.dropEnd (· == '0') cs

/-- The thousandths after a point, without zeros at the end; nothing for none. -/
def thousandths (n : Nat) : List Char :=
  let digits := Text.natDigits n
  match dropZeros (List.replicate (3 - digits.length) '0' ++ digits) with
  | [] => []
  | ds => '.' :: ds

/-- A stretch of time in its largest fitting unit. -/
def describeTime (ms : Nat) : String :=
  if ms = 0 then "0ns"
  else if ms < 1000 then Text.ofNat ms ++ "ms"
  else String.ofList (Text.natDigits (ms / 1000) ++ thousandths (ms % 1000)) ++ "s"

end Settings

end Tabletop
