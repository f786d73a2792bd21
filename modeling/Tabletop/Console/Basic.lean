import Tabletop.Console.Command
import Tabletop.Console.Host
import Tabletop.Console.Options
import Tabletop.Console.Page

/-!
# The console

A game played line by line. Whatever goes wrong with a line is printed, and the next line is
handled; a command to quit ends the game before the lines do, and a turn that overflows breaks it
off.
-/

namespace Tabletop

/-- A game at a console. -/
structure Console where
  table : Table
  access : Access
  /-- The reference to the picture announced last. -/
  scene : Option String
  deriving DecidableEq, Repr

namespace Console

/-- How a game has a deed done, and what comes of it. All that moves its story on is a deed. -/
abbrev Player (m : Type → Type) :=
  Console → Deed → m (Console × Except SessionError (Option Outcome))

variable {m : Type → Type} [Monad m] (host : Host m) (player : Player m)

/-- Narrator and painter of a game. -/
def cast (c : Console) : Cast m := c.access.cast host c.table.session.settings.narrator

/-- Lines printed in order. -/
def printAll (lines : List String) : m Unit := lines.forM host.print

/-- The state of the game. -/
def status (c : Console) : List String := Page.status c.table.session c.table.usage

/-- The game with a changed session. -/
def withSession (c : Console) (s : Session) : Console :=
  { c with table := { c.table with session := s } }

/-- The game after a wait for a file. -/
def pause (c : Console) : m Console := do return { c with table := ← c.table.pause (c.cast host) }

/-! ## Turns -/

/-- A deed played at the table. -/
def play : Player m := fun c deed => do
  let (table, result) ← c.table.play (c.cast host) deed.move
  return ({ c with table }, result)

/-- A deed done and reported; an error is worded by `refusal`, and nothing by `idle`. No game is
left after an overflow. -/
def report (c : Console) (deed : Deed) (refusal : SessionError → String) (idle : List String) :
    m (Option Console) := do
  let (c, result) ← player c deed
  match result with
  | .ok (some o) =>
    printAll host (Page.outcome c.table.session o)
    return some c
  | .ok none =>
    printAll host idle
    return some c
  | .error .overflow => return none
  | .error e =>
    host.print (refusal e)
    return some c

/-- An error in its own words. -/
def plainly (e : SessionError) : String := Page.error e.message

/-- The player's character does something. -/
def act (c : Console) (text : String) : m (Option Console) := do
  host.print "[PROCESSING]"
  c.report host player (.submit text) Page.refusal []

/-- The open invitation answered, if there is one. -/
def answer (c : Console) (reply : Nat → Deed) : m (Option Console) := do
  match c.table.session.log.openInvitation? with
  | some index => c.report host player (reply index) Page.refusal []
  | none =>
    host.print (Page.error "No open invitation")
    return some c

/-! ## The party -/

/-- The session changed, with lines about it, or an error printed. -/
def change (c : Console) (result : Except SessionError Session) (lines : Session → List String) :
    m Console := do
  match result with
  | .ok s =>
    printAll host (lines s)
    return c.withSession s
  | .error e =>
    host.print (plainly e)
    return c

/-- The line for the entry that an exchange leaves in the log. -/
def lastEvent (s : Session) : List String :=
  (s.log.getLast?.map fun e => "[EVENT] " ++ e.text).toList

/-- The line for the member who acts. -/
def acting (s : Session) : List String := (s.acting?.map fun c => "[ACTIVE] " ++ c.name).toList

/-! ## Files -/

/-- The path of a new saved game in the folder at hand. -/
def newPath : m String := do return SavedGame.path "." (← host.stamp)

/-- The game saved at a path. -/
def save (c : Console) (path : String) : m Console := do
  match ← host.writeFile path c.table.session.saved.write with
  | .ok () => host.print ("[SAVED] Game saved to " ++ path)
  | .error reason =>
    host.print (Page.error ("Save failed: " ++ (SessionError.save (.io reason)).message))
  c.pause host

/-- The session of the saved game at a path. -/
def loadSession (s : Session) (path : String) : m (Except SessionError Session) := do
  return s.load ((← host.readFile path).mapError .io)

/-- A saved game taken up. -/
def load (c : Console) (path : String) : m Console := do
  let c ← c.pause host
  match ← loadSession host c.table.session path with
  | .ok s =>
    let c := c.withSession s
    printAll host (Page.loaded path :: c.status)
    return c
  | .error e =>
    host.print (Page.error ("Load failed: " ++ e.message))
    return c

/-- The lines for the saved games among the files of the folder at hand. -/
def saves : Except String (List (String × Option String)) → List String
  | .error reason => [Page.error (SaveError.io reason).message]
  | .ok files =>
    match SavedGame.listing files with
    | [] => ["[SAVES] none"]
    | names => "[SAVES]" :: names.map fun n => "  " ++ SavedGame.within "." n

/-! ## Lines -/

/-- A command carried out. -/
def perform (c : Console) : Command → m (Option Console)
  | .action text => c.act host player text
  | .quit => do
    host.print "Goodbye!"
    return some c
  | .save (some path) => some <$> c.save host path
  | .save none => do return some (← c.save host (← newPath host))
  | .load path => some <$> c.load host path
  | .saves => do
    printAll host (saves (← host.listFolder "."))
    return some (← c.pause host)
  | .status => do
    printAll host c.status
    return some c
  | .accept => c.answer host player .accept
  | .decline => c.answer host player .decline
  | .useItem member item =>
    c.report host player (.useItem member item) plainly ["[EVENT] Nothing happens."]
  | .equip member item slot =>
    some <$> c.change host (c.table.session.equip member item slot)
      fun _ => ["[EQUIPPED] " ++ slot.name]
  | .unequip member slot =>
    some <$> c.change host (c.table.session.unequip member slot)
      fun _ => ["[UNEQUIPPED] " ++ slot.name]
  | .give giver item taker =>
    some <$> c.change host (c.table.session.transferItem giver (.inventory item) taker) lastEvent
  | .act member => some <$> c.change host (c.table.session.setActive member) acting
  | .help => do
    printAll host Page.help
    return some c
  | .malformed usage => do
    host.print (Page.error ("Usage: " ++ usage))
    return some c
  | .unknown => do
    host.print (Page.error "Unknown command. Type #help for help.")
    return some c

/-- The picture on the board announced, if it is not the one announced last. -/
def announce (c : Console) : m Console := do
  match c.table.studio.board.current with
  | none => return c
  | some image =>
    if c.scene = some image.url then return c
    host.print ("[SCENE] " ++ image.description)
    return { c with scene := some image.url }

/-- A line handled; the game, if there is still one, and whether it goes on. -/
def step (c : Console) (line : String) : m (Option (Console × Bool)) := do
  match Command.ofLine? line with
  | none => return some (c, true)
  | some command =>
    return (← c.perform host player command).map fun c => (c, command != .quit)

/-- Lines handled until the game is quit, breaks off, or there are no more. What is new on the board
is announced before each line is read. -/
def run (c : Console) : List String → m (Option Console)
  | [] => do return some (← c.announce host)
  | line :: lines => do
    match ← (← c.announce host).step host player line with
    | some (c, true) => run c lines
    | some (c, false) => return some c
    | none => return none

/-! ## Start -/

/-- The settings of a game. -/
def settings (environment : String → Option String) (o : Options) : Settings :=
  let s := Settings.ofEnvironment environment
  { s with campaign := o.campaign.getD s.campaign, language := o.language.getD s.language }

/-- The recipe of the protagonist; what the options do not say is left to the dice. -/
def protagonist (o : Options) (dice : Dice) : Recipe × Dice :=
  (Recipe.ofIdentity o.name o.race o.calling o.gender).randomize dice

/-- A session taken up from a saved game or begun with a protagonist, with the line for it. -/
def openSession (settings : Settings) (o : Options) (dice : Dice) :
    m (Except SessionError (Session × String)) := do
  match o.load with
  | some path =>
    return (← loadSession host (.start settings dice) path).map fun s => (s, Page.loaded path)
  | none =>
    let (recipe, dice) := protagonist o dice
    return ((Session.start settings dice).createMember recipe).map fun (_, s) =>
      (s, Page.campaign s.settings.campaign)

/-- A game started. One that has no story yet begins. -/
def start (environment : String → Option String) (o : Options) (dice : Dice) :
    m (Except SessionError Console) := do
  match Access.ofEnvironment environment with
  | .error e => return .error (.narrator e)
  | .ok access =>
    host.print Page.title
    match ← openSession host (settings environment o) o dice with
    | .error e => return .error e
    | .ok (session, line) =>
      let c : Console := ⟨.ofSession session access.services, access, none⟩
      printAll host ([line] ++ c.status ++ [""] ++ Page.help ++ [""])
      if session.log.isEmpty then
        return (← c.report host (play host) .begin plainly []).elim (.error .overflow) .ok
      return .ok c

end Console

end Tabletop
