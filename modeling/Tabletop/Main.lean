import Tabletop.Console.Program
import Tabletop.Console.Variables
import Std.Time.DateTime.Timestamp

/-!
# The command line

The program in the world as it is: standard input and output, files, and the environment. No wire is
laid to the services, so that every request to them fails.
-/

namespace Tabletop.Main

/-- Something done, or why it could not be. -/
def attempt {α : Type} (act : IO α) : IO (Except String α) := do
  match ← act.toBaseIO with
  | .ok a => return .ok a
  | .error e => return .error (toString e)

/-- A line printed at once. -/
def print (line : String) : IO Unit := do
  let out ← IO.getStdout
  out.putStrLn line
  out.flush

/-- Why there is no response. -/
def noWire : Nat × Response := (0, .dropped "no connection")

/-- The milliseconds since the beginning of 1970. -/
def now : IO Int := do return (← Std.Time.Timestamp.now).toMillisecondsSinceUnixEpoch.val

/-- What lies in a folder. -/
def list (path : String) : IO (List (String × Option String)) := do
  let folder := (← IO.currentDir) / path
  (← folder.readDir).toList.mapM fun entry => do
    return (entry.fileName, (← attempt (IO.FS.readFile entry.path)).toOption)

/-- The world of the program. -/
def host : Host IO where
  print := print
  askNarrator _ := return noWire
  askPainter _ := return noWire
  readFile path := attempt (IO.FS.readFile path)
  writeFile path text := attempt (IO.FS.writeFile path text)
  listFolder path := attempt (list path)
  stamp := do return Text.ofInt (← now)

/-- The next line of the input, unless it has ended or is no text. -/
def nextLine : IO (Option String) := do
  match ← attempt (do (← IO.getStdin).getLine) with
  | .ok line => return if line.isEmpty then none else some line
  | .error _ => return none

/-- A game played on the lines of the input; whether no overflow has broken it off. -/
partial def play (c : Console) : IO Bool := do
  let c ← c.announce host
  match ← nextLine with
  | none => return true
  | some line =>
    match ← c.step host (Console.play host) line with
    | some (c, true) => play c
    | some (_, false) => return true
    | none => return false

/-- The environment, with the variables of a file in the folder at hand. -/
def environment : IO Variables.Bindings := do
  let text := ((← attempt (IO.FS.readFile ".env")).toOption).getD ""
  let bindings ← (variableNames ++ Variables.mentioned text).mapM fun name => do
    return (← IO.getEnv name).map fun value => (name, value)
  return Variables.load (bindings.filterMap id) text

/-- Dice that nobody knows beforehand. -/
def dice : IO Dice := do
  let bytes ← IO.getRandomBytes 8
  return .ofSeed (bytes.toList.foldl (fun seed b => seed * 256 + b.toUInt64) 0)

/-- The program. -/
def run (words : List String) : IO UInt32 := do
  let bindings ← environment
  let lookup := fun name => bindings.lookup name
  match Invocation.ofWords lookup words with
  | .usage =>
    Console.printAll host Page.usage
    return 0
  | .keyless =>
    Page.keyless.forM fun line => IO.eprintln line
    return 1
  | .game o =>
    match ← Console.start host lookup o (← dice) with
    | .ok c => return if ← play c then 0 else overflowCode.toUInt32
    | .error e =>
      IO.eprintln ("Error: " ++ e.message)
      return 1

end Tabletop.Main

/-- The program on the words of its command line. -/
def main (words : List String) : IO UInt32 := Tabletop.Main.run words
