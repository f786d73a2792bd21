import Tabletop.Text.Basic
import Tabletop.Dice.Basic
import Tabletop.Party.Ability
import Tabletop.Party.Calling
import Tabletop.Party.Item
import Tabletop.Party.Wallet
import Tabletop.Pattern.Basic
import Tabletop.Combat
import Tabletop.Party.Character
import Tabletop.Party.Recipe
import Tabletop.Party.Roster
import Tabletop.Story.Campaign
import Tabletop.Story.Invitation
import Tabletop.Story.Log
import Tabletop.Marker.Directive
import Tabletop.Marker.Effect
import Tabletop.Marker.Grammar
import Tabletop.Marker.Reply
import Tabletop.Decimal.Shortest
import Tabletop.Document.Numeral
import Tabletop.Document.Reader
import Tabletop.Document.Record
import Tabletop.Document.Writer
import Tabletop.Save.Chronicle
import Tabletop.Save.Game
import Tabletop.Narrator.Conversation
import Tabletop.Narrator.Prompt
import Tabletop.Scene.Board
import Tabletop.Session.Notice
import Tabletop.Usage
import Tabletop.Narrator.Messages
import Tabletop.Narrator.Narration
import Tabletop.Scene.Picture
import Tabletop.Session.Signal
import Tabletop.Session.Basic
import Tabletop.Session.Play
import Tabletop.Rehearsal
import Tabletop.Save.Folder
import Tabletop.Console.Command
import Tabletop.Console.Options
import Tabletop.Console.Page
import Tabletop.Console.Basic
import Tabletop.Console.Program
import Tabletop.Console.Stage
import Tabletop.Console.Variables
import Tabletop.Console.Input
import Tabletop.Main
import Tabletop.Proofs.Pattern.Matching
import Tabletop.Proofs.Marker.Opening
import Tabletop.Proofs.Marker.Placement
import Tabletop.Proofs.Marker.Rendering
import Tabletop.Proofs.Marker.Readback
import Tabletop.Proofs.Marker.Lines
import Tabletop.Proofs.Marker.Cleaning
import Tabletop.Proofs.Scene.Requests
import Tabletop.Proofs.Session.Deeds
import Tabletop.Proofs.Session.Failure
import Tabletop.Proofs.Party.Members
import Tabletop.Proofs.Party.Vitals
import Tabletop.Proofs.Party.Regeneration
import Tabletop.Proofs.Session.Course
import Tabletop.Proofs.Session.Vitals
import Tabletop.Proofs.Session.Ending
import Tabletop.Proofs.Session.Finality
import Tabletop.Proofs.Session.Fights
import Tabletop.Proofs.Marker.Breaks
import Tabletop.Proofs.Marker.Stretches
import Tabletop.Proofs.Marker.Unmarked
import Tabletop.Proofs.Marker.Untouched
import Tabletop.Proofs.Marker.Prose
import Tabletop.Proofs.Pattern.Locality
import Tabletop.Proofs.Party.Protagonist
import Tabletop.Proofs.Session.Offers
import Tabletop.Proofs.Session.Invitations
import Tabletop.Proofs.Document.Lexing
import Tabletop.Proofs.Document.Parsing
import Tabletop.Proofs.Document.Conveying
import Tabletop.Proofs.Save.Sheets
import Tabletop.Proofs.Save.Games
import Tabletop.Proofs.Session.Saves
import Tabletop.Proofs.Session.Actions
import Tabletop.Proofs.Session.Rejections
import Tabletop.Proofs.Session.Places
import Tabletop.Proofs.Session.Replay
import Tabletop.Proofs.Session.Entries
import Tabletop.Proofs.Marker.Locality
import Tabletop.Proofs.Party.Belongings
import Tabletop.Proofs.Session.Falls
import Tabletop.Proofs.Scene.Races
import Tabletop.Proofs.Scene.Deliveries
import Tabletop.Proofs.Usage.Clock
import Tabletop.Proofs.Session.Purchases
import Tabletop.Proofs.Marker.Amounts
import Tabletop.Proofs.Narrator.Turns
import Tabletop.Proofs.Marker.Ledger
import Tabletop.Proofs.Session.Standoffs
import Tabletop.Proofs.Document.Accepting
import Tabletop.Proofs.Narrator.Replies
import Tabletop.Proofs.Session.Rest
import Tabletop.Proofs.Session.Remedies
import Tabletop.Proofs.Save.OlderSheets
import Tabletop.Proofs.Dice.Draws
import Tabletop.Proofs.Party.Scores
import Tabletop.Proofs.Party.Recipes
import Tabletop.Proofs.Text.Lowering
import Tabletop.Proofs.Party.Callings
import Tabletop.Proofs.Session.Joiners
import Tabletop.Proofs.Document.Repetitions
import Tabletop.Proofs.Combat.Grid
import Tabletop.Proofs.Console.Lines
import Tabletop.Proofs.Console.Options
import Tabletop.Proofs.Save.Listing
