import Mathlib.Data.List.SplitBy
import Tabletop.Narrator.Narration

/-!
# Taking turns

What is put to the narrator is the conversation in runs, each of what one speaker says in a row. The
main result says that the messages of a request are these runs, one message for each, behind the
player's opening line where the narrator was the first to speak; so player and narrator take turns,
and the player has the first word and the last.
-/

namespace Tabletop

/-- All that has been said, and what is said now. -/
def Narration.said (n : Narration) : Conversation := n.history ++ [Line.player n.input]

/-- What one speaker says in a row. -/
structure Run where
  speaker : Speaker
  texts : List String
  texts_ne_nil : texts ≠ []

namespace Run

/-- The lines of a run. -/
def lines (r : Run) : Conversation := r.texts.map (Line.mk r.speaker)

/-- A run as one line, with a blank line between its texts. -/
def line (r : Run) : Line := ⟨r.speaker, "\n\n".intercalate r.texts⟩

/-- A run of a single line. -/
def single (l : Line) : Run := ⟨l.speaker, [l.text], List.cons_ne_nil _ _⟩

/-- A run with one more text before it. -/
def precede (text : String) (r : Run) : Run := ⟨r.speaker, text :: r.texts, List.cons_ne_nil _ _⟩

theorem lines_ne_nil (r : Run) : r.lines ≠ [] := by
  simpa [lines] using r.texts_ne_nil

theorem speaker_of_mem_lines {r : Run} {l : Line} (h : l ∈ r.lines) : l.speaker = r.speaker := by
  obtain ⟨text, -, rfl⟩ := List.mem_map.mp h
  rfl

theorem line_precede (text : String) (r : Run) :
    (r.precede text).line = ⟨r.speaker, text ++ "\n\n" ++ r.line.text⟩ := by
  rw [line, precede, String.intercalate_cons_of_ne_nil r.texts_ne_nil, line]

/-- A run is known by its lines. -/
theorem lines_injective : Function.Injective lines := by
  intro r r' h
  obtain ⟨speaker, texts, hne⟩ := r
  obtain ⟨speaker', texts', hne'⟩ := r'
  have htexts : texts = texts' := by
    simpa [lines, Function.comp_def] using congrArg (List.map Line.text) h
  subst htexts
  cases texts with
  | nil => exact absurd rfl hne
  | cons text rest =>
    cases (List.cons.inj h).1
    rfl

end Run

namespace Conversation

variable {c : Conversation} {runs : List Run}

/-- The runs that make up a conversation. None could go on: the next is another speaker's. -/
structure InRuns (c : Conversation) (runs : List Run) : Prop where
  lines : runs.flatMap Run.lines = c
  alternate : runs.IsChain fun r r' => r.speaker ≠ r'.speaker

/-! ## Runs -/

private def sameSpeaker (l m : Line) : Bool := l.speaker == m.speaker

private theorem splitBy_of_inRuns (h : c.InRuns runs) :
    c.splitBy sameSpeaker = runs.map Run.lines := by
  rw [← h.lines, List.flatMap_def]
  apply List.splitBy_flatten
  · simpa using fun r _ => r.lines_ne_nil
  · intro lines hlines
    obtain ⟨r, -, rfl⟩ := List.mem_map.mp hlines
    refine List.Pairwise.isChain (List.pairwise_of_forall_mem_list fun l hl m hm => ?_)
    simp [sameSpeaker, Run.speaker_of_mem_lines hl, Run.speaker_of_mem_lines hm]
  · rw [List.isChain_map]
    refine h.alternate.imp fun r r' hne => ⟨r.lines_ne_nil, r'.lines_ne_nil, ?_⟩
    rw [sameSpeaker, Run.speaker_of_mem_lines (List.getLast_mem _),
      Run.speaker_of_mem_lines (List.head_mem _)]
    exact beq_false_of_ne hne

/-- A conversation falls into runs in one way. -/
theorem InRuns.unique {other : List Run} (h : c.InRuns runs) (h' : c.InRuns other) :
    other = runs := by
  have hlines : other.map Run.lines = runs.map Run.lines :=
    (splitBy_of_inRuns h').symm.trans (splitBy_of_inRuns h)
  exact (List.map_injective_iff.mpr Run.lines_injective) hlines

theorem InRuns.head? (h : c.InRuns runs) :
    c.head?.map Line.speaker = runs.head?.map Run.speaker := by
  rw [← h.lines]
  cases runs with
  | nil => rfl
  | cons r runs =>
    obtain ⟨l, ls, hr⟩ := List.exists_cons_of_ne_nil r.lines_ne_nil
    have hl : l.speaker = r.speaker := Run.speaker_of_mem_lines (hr ▸ List.mem_cons_self)
    simp [hr, hl]

theorem InRuns.getLast? (h : c.InRuns runs) :
    c.getLast?.map Line.speaker = runs.getLast?.map Run.speaker := by
  rw [← h.lines]
  rcases List.eq_nil_or_concat runs with rfl | ⟨runs, r, rfl⟩
  · rfl
  · have hl := Run.speaker_of_mem_lines (List.getLast_mem r.lines_ne_nil)
    simp [List.getLast?_append_of_ne_nil _ r.lines_ne_nil,
      List.getLast?_eq_some_getLast r.lines_ne_nil, hl]

/-! ## Merging -/

-- A line goes to the first of the runs behind it or begins one of its own, as it does in `merge`.
/-- A conversation merged has a line for each of its runs. -/
theorem exists_runs (c : Conversation) : ∃ runs, c.InRuns runs ∧ c.merge = runs.map Run.line := by
  induction c with
  | nil => exact ⟨[], ⟨rfl, .nil⟩, rfl⟩
  | cons l ls ih =>
    obtain ⟨runs, ⟨hlines, halternate⟩, hmerge⟩ := ih
    cases runs with
    | nil =>
      refine ⟨[.single l], ⟨?_, .singleton _⟩, ?_⟩
      · rw [← hlines]
        rfl
      · rw [merge, hmerge]
        rfl
    | cons r runs =>
      by_cases hspeaker : l.speaker = r.speaker
      · refine ⟨r.precede l.text :: runs, ⟨?_, ?_⟩, ?_⟩
        · rw [← hlines]
          simp [Run.lines, Run.precede, ← hspeaker]
        · cases halternate with
          | singleton => exact .singleton _
          | cons_cons hne hrest => exact .cons_cons hne hrest
        · simp only [merge, hmerge, List.map_cons, Run.line_precede, ← hspeaker]
          exact if_pos hspeaker
      · refine ⟨.single l :: r :: runs, ⟨?_, .cons_cons hspeaker halternate⟩, ?_⟩
        · rw [← hlines]
          rfl
        · simp only [merge, hmerge, List.map_cons]
          exact if_neg hspeaker

/-- What the player says before a conversation whose first speaker is given. -/
def preface (first : Option Speaker) : Conversation :=
  if first = some .narrator then [.player opening] else []

/-- The player's opening line stands first exactly where the narrator would. -/
theorem openedByPlayer_eq (c : Conversation) :
    c.openedByPlayer = preface (c.head?.map Line.speaker) ++ c := by
  cases c with
  | nil => rfl
  | cons l ls =>
    simp only [openedByPlayer, preface, List.head?_cons, Option.map_some, Option.some.injEq]
    split <;> rfl

/-! ## Turns -/

/-- Somebody else speaks from line to line, and the player has the first word and the last. -/
structure InTurns (c : Conversation) : Prop where
  alternate : c.IsChain fun l m => l.speaker ≠ m.speaker
  head? : c.head?.map Line.speaker = some .player
  getLast? : c.getLast?.map Line.speaker = some .player

/-- Runs of which the player has the last are told in turns behind the preface. -/
theorem InRuns.inTurns (h : c.InRuns runs) (hlast : c.getLast?.map Line.speaker = some .player) :
    InTurns (preface (c.head?.map Line.speaker) ++ runs.map Run.line) := by
  rw [h.head?]
  rw [h.getLast?] at hlast
  cases runs with
  | nil => cases hlast
  | cons r runs =>
    have hchain : ((r :: runs).map Run.line).IsChain fun l m => l.speaker ≠ m.speaker :=
      (List.isChain_map Run.line).mpr h.alternate
    have hend : ((r :: runs).map Run.line).getLast?.map Line.speaker = some .player := by
      rw [List.getLast?_map, Option.map_map]
      exact hlast
    cases hfirst : r.speaker with
    | player =>
      simp only [preface, List.head?_cons, Option.map_some, hfirst]
      exact ⟨hchain, by simp [Run.line, hfirst], hend⟩
    | narrator =>
      simp only [preface, List.head?_cons, Option.map_some, hfirst]
      refine ⟨.cons_cons ?_ hchain, rfl, hend⟩
      simp [Run.line, hfirst, Line.player]

private theorem roles_inTurns {messages : Conversation} (h : messages.InTurns) :
    let roles := messages.map fun l => Messages.role l.speaker
    roles.IsChain (· ≠ ·) ∧ roles.head? = some "user" ∧ roles.getLast? = some "user" := by
  have hrole : ∀ a b : Speaker, a ≠ b → Messages.role a ≠ Messages.role b := by
    intro a b
    cases a <;> cases b <;> simp [Messages.role]
  have hends : ∀ l : Option Line, l.map Line.speaker = some .player →
      l.map (fun l => Messages.role l.speaker) = some "user" := by
    intro l hl
    obtain ⟨m, rfl, hm⟩ := Option.map_eq_some_iff.mp hl
    rw [Option.map_some, hm]
    rfl
  dsimp only
  rw [List.isChain_map, List.head?_map, List.getLast?_map]
  exact ⟨h.alternate.imp fun l m => hrole _ _, hends _ h.head?, hends _ h.getLast?⟩

/-- The messages of a request are the runs of what has been said and is said now, one message for
each with its texts in order, and before them the player's opening line exactly where the narrator
was the first to speak. So player and narrator take turns in them, the player first and last. -/
theorem messages_request (s : NarratorSettings) (n : Narration) :
    let messages := (s.request n).messages
    let roles := messages.map fun l => Messages.role l.speaker
    (roles.IsChain (· ≠ ·) ∧ roles.head? = some "user" ∧ roles.getLast? = some "user") ∧
      ∃ runs, (∀ other, n.said.InRuns other ↔ other = runs) ∧
        messages =
          (if n.history.head?.map Line.speaker = some .narrator
            then [.player "Begin the adventure."] else []) ++ runs.map Run.line := by
  intro messages roles
  obtain ⟨runs, hruns, hmerge⟩ := exists_runs n.said
  have hfirst : preface (n.said.head?.map Line.speaker) =
      preface (n.history.head?.map Line.speaker) := by
    unfold Narration.said
    cases n.history <;> rfl
  have hlast : n.said.getLast?.map Line.speaker = some .player := by
    rw [Narration.said, List.getLast?_concat]
    rfl
  have hspeaks : (runs.map Run.line).head?.map Line.speaker = n.said.head?.map Line.speaker := by
    rw [hruns.head?, List.head?_map, Option.map_map]
    rfl
  have hmessages : messages = preface (n.history.head?.map Line.speaker) ++ runs.map Run.line := by
    calc messages = openedByPlayer n.said.merge := rfl
      _ = preface (n.history.head?.map Line.speaker) ++ runs.map Run.line := by
        rw [openedByPlayer_eq, hmerge, hspeaks, hfirst]
  refine ⟨roles_inTurns ?_, runs, fun other => ⟨hruns.unique, fun h => h ▸ hruns⟩, hmessages⟩
  rw [hmessages, ← hfirst]
  exact hruns.inTurns hlast

example : turns [.narrator "You wake in a cell.", .player "I look around.", .player "I wait."]
      "I shout." =
    [.player "Begin the adventure.", .narrator "You wake in a cell.",
      .player "I look around.\n\nI wait.\n\nI shout."] := by
  decide +kernel

end Conversation

end Tabletop
