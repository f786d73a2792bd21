import Tabletop.Decimal.Shortest
import Tabletop.Session.Turn
import Tabletop.Usage

/-!
# Pages

What the console prints, line by line: the state of the game, the commands, and what a turn has
brought. The word in brackets before a line tells where it comes from.
-/

namespace Tabletop.Page

/-- The first line. -/
def title : String := "=== Tavern Headless Mode ==="

/-- The line for a campaign. -/
def campaign (c : Campaign) : String := "Campaign: " ++ c.title

/-- The line for something that has gone wrong. -/
def error (message : String) : String := "[ERROR] " ++ message

/-- The line for a saved game that has been loaded. -/
def loaded (path : String) : String := "[LOADED] Game loaded from " ++ path

/-! ## State -/

/-- The name of an item, or a dash for none. -/
def equipped (item : Option Item) : String := (item.map Item.name).getD "-"

/-- The line for a member at a place. -/
def member (active : Nat) (index : Nat) (c : Character) : String :=
  String.join ["  ", if index = active then "*" else " ", "[", Text.ofNat index, "] ", c.name,
    " (", c.race, " ", c.calling, ") HP ", Text.ofInt c.currentHp.toInt, "/",
    Text.ofInt c.maxHp.toInt, " AC ", Text.ofInt c.armorClass.toInt, " | ", c.wallet.describe,
    " | weapon: ", equipped c.weapon, ", armor: ", equipped c.armor]

/-- The line for an item that a member carries. -/
def carried (index : Nat) (i : Item) : String :=
  "       " ++ Text.ofNat index ++ ": " ++ i.name ++
    match i.tag with
    | some tag => " (" ++ tag ++ ")"
    | none => ""

/-- The lines for a member and all it carries. -/
def sheet (active : Nat) (index : Nat) (c : Character) : List String :=
  member active index c :: c.inventory.mapIdx carried

/-- The share of calls that is left, in whole percent. -/
def percent (u : Usage.Snapshot) : Nat := Decimal.single.round u.percentage.toBits.toNat

/-- The line for the calls of the last minute. -/
def budget (u : Usage.Snapshot) : String :=
  String.join ["  API budget: ", Text.ofNat u.used, "/", Text.ofNat u.limit,
    " requests this minute (", Text.ofNat (percent u), "% left)"]

/-- The state of a game. -/
def status (s : Session) (u : Usage.Snapshot) : List String :=
  ["[STATUS]", "  " ++ campaign s.settings.campaign] ++
    (s.roster.members.mapIdx (sheet s.active)).flatten ++
    ["  In Combat: " ++ if s.combat.active then "true" else "false", budget u] ++
    if s.isOver then ["  GAME OVER"] else []

/-! ## Turns -/

/-- The paragraphs of a text. -/
def paragraphs (text : String) : List String :=
  (Text.splitPair '\n' '\n' text.toList).map String.ofList

/-- The line for an invitation. -/
def invitation (i : Invitation) : String :=
  String.join ["[INVITE] ", i.name, " (", i.race, " ", i.calling,
    ") wants to join the party. #accept or #decline"]

/-- The lines for an entry of the log; the player knows what the player has said. -/
def event (e : Event) : List String :=
  match e.voice with
  | .player => []
  | .system => ["[SYSTEM] " ++ e.text]
  | .game => ["[EVENT] " ++ e.text]
  | .narrator =>
    (if e.text = "" then [] else "[DM]" :: paragraphs e.text) ++
      (e.invitation.map invitation).toList

/-- The lines for a fight. -/
def fight (c : Combat) : List String :=
  match c.render? with
  | some map => ["[COMBAT]", map]
  | none => []

/-- The lines for what a turn has brought. -/
def outcome (s : Session) (o : Outcome) : List String :=
  o.events.flatMap event ++ [""] ++ (o.notices.map fun n => "[NOTICE] " ++ n.describe) ++
    fight s.combat

/-- The line for a turn that has come to nothing. -/
def refusal : SessionError → String
  | .gameOver => "[GAME OVER] The party has fallen. #load a save or #quit."
  | e => error e.message

/-! ## Commands -/

/-- The commands. -/
def help : List String :=
  ["Commands:",
   "  #quit                           - Exit the game",
   "  #save [path]                    - Save the game",
   "  #load <path>                    - Load a saved game",
   "  #saves                          - List saves in this directory",
   "  #status                         - Show the party",
   "  #act <member>                   - Choose who acts next",
   "  #accept / #decline              - Answer the open invitation",
   "  #use <member> <item>            - Use a healing item",
   "  #equip <member> <item> <slot>   - Equip as weapon or armor",
   "  #unequip <member> <slot>        - Return a slot to the inventory",
   "  #give <from> <item> <to>        - Hand an item to another member",
   "  #help                           - Show this help",
   "  (anything else is sent as the active character's action)"]

/-- How the program is called. -/
def usage : List String :=
  ["tavern - play a tabletop adventure with an AI narrator",
   "",
   "USAGE:",
   "    tavern [OPTIONS]",
   "",
   "OPTIONS:",
   "    --name <NAME>         Protagonist name (default: Adventurer)",
   "    --race <RACE>         Protagonist race (default: Human)",
   "    --class <CLASS>       Protagonist class (default: Fighter)",
   "    --gender <GENDER>     Protagonist gender",
   "    --campaign <ID>       lost-mine-of-phandelver, frozen-sick,",
   "                          beginner-journey, crossroads-of-destiny",
   "    --language <CODE>     Narration language (default: en)",
   "    --load <PATH>         Resume a saved game",
   "    -h, --help            Print this help",
   "",
   "ENVIRONMENT:",
   "    ANTHROPIC_API_KEY     Narrator API key (required)",
   "    TAVERN_MODEL          Narrator model override",
   "    TAVERN_IMAGE_ENDPOINT Scene image endpoint (optional)",
   "    RUST_LOG              Log filter for stderr (default: warn)"]

/-- What is said when there is no key for the narrator. -/
def keyless : List String :=
  ["Error: ANTHROPIC_API_KEY environment variable not set.",
   "Please set it in .env file or with: export ANTHROPIC_API_KEY=your_key_here"]

end Tabletop.Page
