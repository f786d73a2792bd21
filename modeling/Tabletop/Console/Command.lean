import Tabletop.Party.Item
import Tabletop.Text.Basic

/-!
# Commands

What a line at the console means. A line that begins with `#` is a command; any other line that is
not blank is something the player's character does.
-/

namespace Tabletop

/-- What a line means. -/
inductive Command where
  /-- The character does something. -/
  | action (text : String)
  | quit
  /-- To a path, or to a new file. -/
  | save (path : Option String)
  | load (path : String)
  | saves
  | status
  | accept
  | decline
  | useItem (member item : Nat)
  | equip (member item : Nat) (slot : Slot)
  | unequip (member : Nat) (slot : Slot)
  | give (giver item taker : Nat)
  | act (member : Nat)
  | help
  /-- A command without the words it needs; how it is written. -/
  | malformed (usage : String)
  | unknown
  deriving DecidableEq, Repr

namespace Command

/-- A place in a list. -/
def index? (word : String) : Option Nat := Text.natBelow? UInt64.size word

/-- A slot by one of its names. -/
def slot? (word : String) : Option Slot :=
  match Text.lower word with
  | "weapon" | "w" => some .weapon
  | "armor" | "armour" | "a" => some .armor
  | _ => none

/-- One reading of the words after a command's name. -/
def reading? {α : Type} (read : String → Option α) (words : List String) (i : Nat) : Option α :=
  words[i]?.bind read

/-- A command whose words can be read, or else how it is written. -/
def orUsage (usage : String) (c : Option Command) : Command := c.getD (.malformed usage)

/-- The command of a name and the words after it; words too many do not count. -/
def ofName (name : String) (words : List String) : Command :=
  let index := reading? index? words
  let slot := reading? slot? words
  match name with
  | "quit" | "exit" => .quit
  | "save" => .save words[0]?
  | "load" => orUsage "#load <path>" (words[0]?.map .load)
  | "saves" => .saves
  | "status" => .status
  | "accept" => .accept
  | "decline" => .decline
  | "use" => orUsage "#use <member> <item>" do return .useItem (← index 0) (← index 1)
  | "equip" =>
    orUsage "#equip <member> <item> <weapon|armor>" do
      return .equip (← index 0) (← index 1) (← slot 2)
  | "unequip" =>
    orUsage "#unequip <member> <weapon|armor>" do return .unequip (← index 0) (← slot 1)
  | "give" =>
    orUsage "#give <from> <item> <to>" do return .give (← index 0) (← index 1) (← index 2)
  | "act" => orUsage "#act <member>" do return .act (← index 0)
  | "help" => .help
  | _ => .unknown

/-- The meaning of the text after `#`. -/
def ofText (text : String) : Command :=
  match Text.words text with
  | name :: words => ofName name words
  | [] => .unknown

/-- The meaning of a line; a blank one has none. -/
def ofLine? (line : String) : Option Command :=
  match (Text.trim line).toList with
  | [] => none
  | '#' :: text => some (ofText (String.ofList text))
  | text => some (.action (String.ofList text))

end Command

end Tabletop
