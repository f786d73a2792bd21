import Tabletop.Proofs.Marker.Effects
import Tabletop.Proofs.Party.Regeneration
import Tabletop.Proofs.Session.Start

/-!
# What a turn does to the party

A turn lets members rest, and its directives hurt them and fill their purses and packs. A property
of characters that outlasts rest and damage holds of a party after a turn if it held before, and the
party has the same members as before, by their names.
-/

namespace Tabletop

open Character (Lasting)

/-! ## Names -/

/-- Rest leaves a name as it is. -/
theorem Character.Rests.name {c d : Character} {threshold : UInt32} {done : Regeneration}
    (h : c.Rests threshold d done) : d.name = c.name := by
  cases h <;> rfl

/-! ## Directives -/

/-- Directives leave all members with a lasting property. -/
theorem Situation.applyAll_all {s : Situation} {p : Character → Prop} (hp : Lasting p)
    (h : s.roster.All p) (ds : List Directive) : (s.applyAll ds).1.roster.All p := by
  induction ds generalizing s with
  | nil => exact h
  | cons d ds ih => exact ih (Situation.apply_all (fun c hc => hp.after hc d) h)

/-! ## Turns -/

/-- The count overflows at a turn of rest: that of a member whom rest would heal. -/
def Roster.RestOverflows (r : Roster) : Prop := ∃ c ∈ r.members, c.Recovers ∧ c.CounterFull

namespace Session

variable {s : Session} {t : Turn} {p : Character → Prop}

/-- The results of a turn of rest, character by character. -/
abbrev RestsTo (threshold : UInt32) : List Character → List (Character × Regeneration) → Prop :=
  List.Forall₂ fun c result => c.regenerate? threshold = some result

/-- A party rests member by member, and the entries tell who has healed. -/
theorem rest?_eq_some_iff {r r' : Roster} {threshold : UInt32} {rested : List Event} :
    rest? r threshold = some (r', rested) ↔
      ∃ results, RestsTo threshold r.members results ∧
        r' = { r with members := results.map Prod.fst } ∧ rested = results.filterMap rested? := by
  rw [rest?, Option.map_eq_some_iff]
  refine exists_congr fun results => and_congr mapM_eq_some_iff ?_
  rw [Prod.mk.injEq, eq_comm, @eq_comm _ _ rested]

/-- The rest of a party comes to nothing exactly if a count overflows. -/
theorem rest?_eq_none_iff {r : Roster} {threshold : UInt32} :
    rest? r threshold = none ↔ r.RestOverflows := by
  rw [rest?, Option.map_eq_none_iff, mapM_eq_none_iff]
  exact exists_congr fun _ => and_congr Iff.rfl Character.regenerate?_eq_none_iff

private theorem RestsTo.all (hp : Lasting p) {threshold : UInt32} {cs : List Character}
    {results : List (Character × Regeneration)} (hresults : RestsTo threshold cs results)
    (h : ∀ c ∈ cs, p c) : ∀ c ∈ results.map Prod.fst, p c := by
  induction hresults with
  | nil => exact nofun
  | cons hturn _ ih =>
    obtain ⟨hfirst, hothers⟩ := List.forall_mem_cons.mp h
    exact List.forall_mem_cons.mpr
      ⟨hp.rests hfirst (Character.rests_of_regenerate? hturn), ih hothers⟩

private theorem RestsTo.names {threshold : UInt32} {cs : List Character}
    {results : List (Character × Regeneration)} (hresults : RestsTo threshold cs results) :
    (results.map Prod.fst).map Character.name = cs.map Character.name := by
  induction hresults with
  | nil => rfl
  | cons hturn _ ih =>
    rw [List.map_cons, List.map_cons, List.map_cons, ih,
      (Character.rests_of_regenerate? hturn).name]

/-- The party that a turn opens with has a lasting property if the party before had it. -/
theorem readied?_all (hp : Lasting p) (h : s.roster.All p) {isPlayers : Bool} {r : Roster}
    {rested : List Event} (hready : s.readied? isPlayers = some (r, rested)) : r.All p := by
  cases isPlayers with
  | false =>
    cases hready
    exact h
  | true =>
    obtain ⟨results, hresults, rfl, -⟩ := rest?_eq_some_iff.mp hready
    exact hresults.all hp h

/-- The party that a turn opens with is the one before with its members in their places. -/
theorem members_readied? {isPlayers : Bool} {r : Roster} {rested : List Event}
    (hready : s.readied? isPlayers = some (r, rested)) :
    ∃ members : List Character, members.map Character.name = s.roster.names ∧
      r = { s.roster with members } := by
  cases isPlayers with
  | false =>
    cases hready
    exact ⟨_, rfl, rfl⟩
  | true =>
    obtain ⟨results, hresults, rfl, -⟩ := rest?_eq_some_iff.mp hready
    exact ⟨_, hresults.names, rfl⟩

/-- A turn opens with as much room in the party as before. -/
theorem isFull_readied? {isPlayers : Bool} {r : Roster} {rested : List Event}
    (hready : s.readied? isPlayers = some (r, rested)) : r.isFull = s.roster.isFull := by
  obtain ⟨members, hnames, rfl⟩ := members_readied? hready
  have hlength : members.length = s.roster.size := by
    simpa [Roster.names, Roster.size] using congrArg List.length hnames
  exact decide_eq_decide.mpr (by rw [← hlength]; rfl)

/-- A turn closes with a lasting property of all members. -/
theorem closeTurn_all (hp : Lasting p) (h : s.roster.All p) (ht : t.roster.All p)
    (answer : Answer) : (s.closeTurn t answer).1.roster.All p := by
  cases answer with
  | said raw => exact Situation.applyAll_all hp ht _
  | failed e => exact h
  | late => exact h

end Session

/-- A turn breaks off because a count overflows at the party's rest. -/
theorem BreaksOff.restOverflows {m : Move} {start : Session} {line : List Event}
    (h : BreaksOff m start line) : start.roster.RestOverflows :=
  Session.rest?_eq_none_iff.mp h.unready

namespace Asks

variable {m : Move} {start : Session} {line : List Event} {turn : Turn} {p : Character → Prop}

/-- A turn, answered or not, changes members in their places, and nothing else of the party. -/
theorem members_settle (h : Asks m start line turn) (answer : Answer) :
    ∃ members : List Character, members.map Character.name = start.roster.names ∧
      (m.settle answer).1.roster = { start.roster with members } := by
  simp only [Move.settle, h.opening, h.session]
  cases answer with
  | said raw =>
    obtain ⟨_, hready, -⟩ := h.readied
    obtain ⟨rested, hrested, hturn⟩ := Session.members_readied? hready
    replace hturn : (start.situation turn).roster = { start.roster with members := rested } := hturn
    obtain ⟨members, hnames, happly⟩ := Situation.members_applyAll (s := start.situation turn)
      (Reply.directives (Reply.pieces raw.toList))
    rw [hturn] at hnames
    exact ⟨members, hnames.trans hrested, happly.trans (by rw [hturn])⟩
  | failed reason => exact ⟨_, rfl, rfl⟩
  | late => exact ⟨_, rfl, rfl⟩

/-- A lasting property of all members at the start of a turn is theirs at its end. -/
theorem settle_all (hp : Lasting p) (h : Asks m start line turn) (hstart : start.roster.All p)
    (answer : Answer) : (m.settle answer).1.roster.All p := by
  obtain ⟨_, hready, -⟩ := h.readied
  have hturn := Session.readied?_all hp hstart hready
  simp only [Move.settle, h.opening, h.session]
  exact Session.closeTurn_all hp hstart hturn answer

end Asks

end Tabletop
