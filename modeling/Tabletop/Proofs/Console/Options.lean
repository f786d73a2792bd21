import Mathlib.Data.List.Induction
import Tabletop.Console.Options
import Tabletop.Proofs.Text.AsciiCase

/-!
# What command lines ask for

The words of a command line are options with their values, words that count for nothing, and perhaps
the name of an option at the very end. Every list of words is of this form, and what it asks for is
read off the last value of each option alone.
-/

namespace Tabletop

namespace Options

/-- An option. -/
inductive Choice where
  | name
  | race
  | calling
  | gender
  | campaign
  | language
  | load
  deriving DecidableEq, Repr

/-- The word that names an option. -/
def Choice.word : Choice → String
  | .name => "--name"
  | .race => "--race"
  | .calling => "--class"
  | .gender => "--gender"
  | .campaign => "--campaign"
  | .language => "--language"
  | .load => "--load"

/-- A part of a command line. -/
inductive Part where
  /-- A word that names no option. -/
  | stray (word : String) (names_none : ∀ choice : Choice, word ≠ choice.word)
  /-- An option and its value, which may look like anything. -/
  | pair (choice : Choice) (value : String)

/-- The words of a part. -/
def Part.words : Part → List String
  | .stray word _ => [word]
  | .pair choice value => [choice.word, value]

/-- The value that a part gives an option. -/
def Part.value? (choice : Choice) : Part → Option String
  | .stray .. => none
  | .pair given value => if given = choice then some value else none

/-- The words of parts, and at their end perhaps the name of an option without a value. -/
def wordsOf (parts : List Part) (dangling : Option Choice) : List String :=
  parts.flatMap Part.words ++ (dangling.map Choice.word).toList

/-- The values that an option is given, in order. -/
def values (parts : List Part) (choice : Choice) : List String :=
  parts.filterMap (Part.value? choice)

/-- What is asked for when each option has one value or none. -/
def ofValues (value? : Choice → Option String) : Options :=
  { name := (value? .name).getD "Adventurer"
    race := ((value? .race).map Text.capitalize).getD "Human"
    calling := ((value? .calling).map Text.capitalize).getD "Fighter"
    gender := ((value? .gender).map Text.capitalize).getD "Female"
    campaign := (value? .campaign).bind Campaign.ofId?
    language := value? .language
    load := value? .load }

/-- The last value that an option is given. -/
def last? (parts : List Part) (choice : Choice) : Option String := (values parts choice).getLast?

/-! ## Single parts -/

/-- No other word names an option. -/
private theorem set?_eq_none (o : Options) {word : String}
    (h : ∀ choice : Choice, word ≠ choice.word) (value : String) : o.set? word value = none := by
  unfold set?
  split
  · exact absurd rfl (h .name)
  · exact absurd rfl (h .race)
  · exact absurd rfl (h .calling)
  · exact absurd rfl (h .gender)
  · exact absurd rfl (h .campaign)
  · exact absurd rfl (h .language)
  · exact absurd rfl (h .load)
  · rfl

/-- The options after a part. -/
def afterPart (o : Options) : Part → Options
  | .stray .. => o
  | .pair choice value => (o.set? choice.word value).getD o

/-- A part is taken as a whole, whatever follows it. -/
private theorem setAll_words (o : Options) (part : Part) (rest : List String) :
    o.setAll (part.words ++ rest) = (o.afterPart part).setAll rest := by
  cases part with
  | stray word hnone =>
    cases rest with
    | nil => rfl
    | cons next rest =>
      rw [Part.words, List.singleton_append, setAll, set?_eq_none o hnone]
      rfl
  | pair choice value => cases choice <;> rfl

/-- A part changes the value of the option that it gives one, and of no other. -/
private theorem afterPart_ofValues (value? : Choice → Option String) (part : Part) :
    (ofValues value?).afterPart part =
      ofValues fun choice => (part.value? choice).or (value? choice) := by
  cases part with
  | stray word hnone => rfl
  | pair choice value => cases choice <;> rfl

private theorem last?_concat (parts : List Part) (part : Part) (choice : Choice) :
    last? (parts ++ [part]) choice = (part.value? choice).or (last? parts choice) := by
  have hvalues : values (parts ++ [part]) choice =
      values parts choice ++ (part.value? choice).toList := by
    unfold values
    rw [List.filterMap_append, List.filterMap_cons]
    cases part.value? choice <;> rfl
  rw [last?, hvalues, List.getLast?_append]
  cases part.value? choice <;> rfl

/-! ## Command lines -/

private theorem setAll_wordsOf (o : Options) (parts : List Part) (dangling : Option Choice) :
    o.setAll (wordsOf parts dangling) = parts.foldl afterPart o := by
  unfold wordsOf
  induction parts generalizing o with
  | nil => cases dangling <;> rfl
  | cons part parts ih =>
    rw [List.flatMap_cons, List.append_assoc, setAll_words, ih, List.foldl_cons]

-- By induction from the last part on, which has the last word about its option.
private theorem foldl_afterPart (parts : List Part) :
    parts.foldl afterPart usual = ofValues (last? parts) := by
  induction parts using List.reverseRecOn with
  | nil => rfl
  | append_singleton parts part ih =>
    rw [List.foldl_append, ih, List.foldl_cons, List.foldl_nil, afterPart_ofValues]
    congr 1
    funext choice
    rw [last?_concat]

/-- Every list of words is made of parts. -/
theorem exists_wordsOf (words : List String) :
    ∃ parts dangling, wordsOf parts dangling = words := by
  match words with
  | [] => exact ⟨[], none, rfl⟩
  | word :: words =>
    by_cases hword : ∃ choice : Choice, word = choice.word
    · obtain ⟨choice, rfl⟩ := hword
      cases words with
      | nil => exact ⟨[], some choice, rfl⟩
      | cons value words =>
        obtain ⟨parts, dangling, rfl⟩ := exists_wordsOf words
        exact ⟨.pair choice value :: parts, dangling, rfl⟩
    · obtain ⟨parts, dangling, rfl⟩ := exists_wordsOf words
      exact ⟨.stray word (not_exists.mp hword) :: parts, dangling, rfl⟩

/-- Each option of a command line has the last value that it is given, or is as usual without one,
whatever the values look like, and whatever other words stand between options and their values. An
option's name without a value at the end counts for nothing. So command lines in which each option
is given the same values in the same order ask for the same: the order of values of different
options makes no difference, nor do words that name no option. Race, class and gender are
capitalized, which for ASCII words is done letter by letter. -/
theorem ofWords_wordsOf (parts : List Part) (dangling : Option Choice) :
    ofWords (wordsOf parts dangling) = ofValues (fun choice => (values parts choice).getLast?) ∧
      (∀ others dangling', (∀ choice, values others choice = values parts choice) →
        ofWords (wordsOf others dangling') = ofWords (wordsOf parts dangling)) ∧
      (∀ first rest, Text.capitalize (String.ofList (first :: rest)) =
        String.ofList (Text.upperChar first ++ rest.flatMap Text.lowerChar)) ∧
      ∀ first rest, (∀ c ∈ first :: rest, c.toNat < 128) →
        Text.capitalize (String.ofList (first :: rest)) =
          String.ofList (first.toUpper :: rest.map Char.toLower) := by
  have hall (parts : List Part) (dangling : Option Choice) :
      ofWords (wordsOf parts dangling) = ofValues (last? parts) := by
    rw [ofWords, setAll_wordsOf, foldl_afterPart]
  refine ⟨hall parts dangling, ?_, Text.capitalize_cons, fun _ _ => Text.capitalize_of_ascii⟩
  · intro others dangling' h
    have hlast : last? others = last? parts := by
      funext choice
      rw [last?, last?, h choice]
    rw [hall, hall, hlast]

example :
    let words := ["tavern", "--name", "--race", "Elara", "--class", "RANGER", "--name", "Bo",
      "--race", "elf", "--load"]
    ofWords words = ⟨"Bo", "Elf", "Ranger", "Female", none, none, none⟩ := by
  decide

end Options

end Tabletop
