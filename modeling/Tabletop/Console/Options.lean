import Tabletop.Story.Campaign

/-!
# Options

Who plays and what is played, as asked for by the words of a command line. An option is a word that
names it and the word after it; any other word does not count, and neither does an option's name at
the very end.
-/

namespace Tabletop

/-- Who plays and what is played. -/
structure Options where
  name : String
  race : String
  calling : String
  gender : String
  campaign : Option Campaign
  language : Option String
  /-- The path of a saved game to resume. -/
  load : Option String
  deriving DecidableEq, Repr

namespace Options

/-- What is played if nothing is asked for. -/
def usual : Options := ⟨"Adventurer", "Human", "Fighter", "Female", none, none, none⟩

/-- The options with one of them set, if a word names one. -/
def set? (o : Options) (option value : String) : Option Options :=
  match option with
  | "--name" => some { o with name := value }
  | "--race" => some { o with race := Text.capitalize value }
  | "--class" => some { o with calling := Text.capitalize value }
  | "--gender" => some { o with gender := Text.capitalize value }
  | "--campaign" => some { o with campaign := Campaign.ofId? value }
  | "--language" => some { o with language := some value }
  | "--load" => some { o with load := some value }
  | _ => none

/-- The options with all that the words ask for. -/
def setAll (o : Options) : List String → Options
  | word :: next :: words =>
    match o.set? word next with
    | some o => o.setAll words
    | none => o.setAll (next :: words)
  | _ => o

/-- The options of a command line. -/
def ofWords (words : List String) : Options := usual.setAll words

end Options

end Tabletop
