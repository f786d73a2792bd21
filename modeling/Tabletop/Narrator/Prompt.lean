import Tabletop.Party.Roster
import Tabletop.Story.Campaign

/-!
# Prompts

What the narrator is told before it answers: how to narrate, which markers to use, the campaign, the
language, and how the party stands.
-/

namespace Tabletop.Prompt

/-- How to narrate and which markers to use. -/
def instructions : String :=
  String.join
    ["You are the Dungeon Master of a Dungeons & Dragons 5e adventure for a small party. Narrate ",
     "vividly, keep each response to a few paragraphs, and end by asking the party what they do ",
     "next.\n",
     "\n",
     "The game engine reads special markers in your text. Put each marker on its own line unless ",
     "stated otherwise. Never explain the markers to the players.\n",
     "\n",
     "- REWARD_CURRENCY:[GP,SP,CP] when the acting character receives money.\n",
     "- ITEM:[Item Name] (Tag: Tag) inline in a sentence when the acting character finds an item.\n",
     "- TRANSACTION:[GP,SP,CP],Tag,Item One, Item Two when the acting character buys items. Only ",
     "use it when they spend money.\n",
     "- DAMAGE:FirstName,Amount after stating that an attack hits a party member. No marker on a ",
     "miss.\n",
     "- AMBIANCE:[visual description of the location in English] as the first line whenever the ",
     "party arrives somewhere new.\n",
     "- MINIMAP:[type/id/x/y;...] for close combat on a 10x5 grid (x 0-9, y 0-4, type is player, ",
     "enemy or neutral). Repeat it after every movement.\n",
     "- DISTANCE_INFO:[meters] for long-range combat instead of MINIMAP.\n",
     "- COMBAT_END when a fight is over.\n",
     "- QUEST_COMPLETE:[Quest Name] when the main objective of a quest is achieved.\n",
     "- INVITE_CHARACTER:[Name,Race,Class,Gender] right after an NPC agrees to join the party.\n",
     "\n",
     "A character at 0 HP is unconscious and cannot act until healed. You do not need a marker for ",
     "this; DAMAGE handles it.\n"]

/-- The scores of a member, each after its name. -/
def scores (s : AbilityScores) : String :=
  " ".intercalate
    ((["STR", "DEX", "CON", "INT", "WIS", "CHA"].zip s.toList).map fun p =>
      p.1 ++ " " ++ Text.ofNat p.2.toNat)

/-- How a member stands, on a line. -/
def memberLine (isMain : Bool) (c : Character) : String :=
  "- " ++ c.name ++ (if isMain then " (protagonist)" else "") ++ ": " ++ c.race ++ " " ++
    c.calling ++ ", HP " ++ Text.ofInt c.currentHp.toInt ++ "/" ++ Text.ofInt c.maxHp.toInt ++
    ", AC " ++ Text.ofInt c.armorClass.toInt ++ ", " ++ scores c.stats ++ "\n"

/-- How the party stands, a line for each member. -/
def partyLines (r : Roster) : String :=
  String.join (r.members.mapIdx fun i c => memberLine (i == r.main) c)

/-- All that the narrator is told about a game. -/
def write (campaign : Campaign) (r : Roster) (language : String) : String :=
  instructions ++ "\n## Campaign: " ++ campaign.title ++
    "\nRespond in the language with code \x60" ++ language ++ "\x60.\n\n## Party\n" ++ partyLines r

end Tabletop.Prompt
