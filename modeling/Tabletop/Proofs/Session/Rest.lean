import Tabletop.Proofs.Party.Regeneration
import Tabletop.Proofs.Session.Actions
import Tabletop.Proofs.Session.Turn

/-!
# Rest after a saved game is taken up

A saved game may bring any counter of rest that a word can hold. The first turn of rest goes by it
as a number, unless it is the greatest of all: then the count overflows, whatever the threshold, and
the player's turn breaks off before anybody is healed or the narrator is asked.
-/

namespace Tabletop

namespace Character

variable {c : Character} {threshold : UInt32}

/-- A turn of rest goes by the counter as a number: if one more is enough for the threshold, it
heals and the count starts again, and otherwise one more is the new counter. -/
def CountsOn (c : Character) (threshold : UInt32) : Prop :=
  if threshold.toNat ≤ c.regenCounter.toNat + 1 then
    ∃ d, c.regenerate? threshold = some (d, .healed) ∧ c.Rested d (c.currentHp.toInt + 1) 0
  else
    ∃ d counter, c.regenerate? threshold = some (d, .counting counter) ∧
      counter.toNat = c.regenCounter.toNat + 1 ∧
        c.Rested d c.currentHp.toInt (c.regenCounter.toNat + 1)

/-- The rest of whom it would heal overflows exactly if the counter is full. -/
theorem Recovers.regenerate?_eq_none_iff (h : c.Recovers) :
    c.regenerate? threshold = none ↔ c.CounterFull :=
  Character.regenerate?_eq_none_iff.trans (and_iff_right h)

/-- A turn of rest goes by the counter as a number unless the counter is full. -/
theorem countsOn_iff (hvital : c.Vital) (h : c.Recovers) :
    c.CountsOn threshold ↔ ¬ c.CounterFull := by
  constructor
  · intro hcounts hfull
    have hnone : c.regenerate? threshold = none := h.regenerate?_eq_none_iff.mpr hfull
    unfold CountsOn at hcounts
    split at hcounts
    · obtain ⟨d, hd, -⟩ := hcounts
      cases hnone.symm.trans hd
    · obtain ⟨d, counter, hd, -⟩ := hcounts
      cases hnone.symm.trans hd
  · intro hfull
    have hlt := c.regenCounter.toNat_lt
    have hsize : UInt32.size = 2 ^ 32 := rfl
    have hroom : c.regenCounter.toNat + 1 < UInt32.size := by
      unfold CounterFull at hfull
      omega
    unfold CountsOn
    split
    · next hle => exact regenerate?_of_le hvital h hroom hle
    · next hlt => exact regenerate?_of_lt h (Nat.not_le.mp hlt)

end Character

namespace Session

open Character (Vital)

variable {s t : Session}

/-- A game that is taken up from a text brings its members, and goes on unless they are all down. -/
private theorem load_eq_ok {text : String} (h : s.load (.ok text) = .ok t) :
    ∃ g, SavedGame.read text = .ok g ∧ t.roster.members = g.characters ∧
      t.phase = phaseOf t.roster := by
  have hbind : (Except.ok text : Except SaveError String).bind SavedGame.read =
      SavedGame.read text := rfl
  rw [load, hbind] at h
  cases hread : SavedGame.read text with
  | error e =>
    rw [hread] at h
    cases h
  | ok g =>
    rw [hread] at h
    dsimp only at h
    refine ⟨g, rfl, (restore_eq_ok h).1, ?_⟩
    unfold restore at h
    split at h
    · cases h
    · cases h
      rfl

/-- While a member stands, the player can act in a game that has been taken up. -/
private theorem ensurePlayable_of_phase {i : Nat} {c : Character}
    (hphase : t.phase = phaseOf t.roster) (hc : t.roster.get? i = some c)
    (hup : 0 < c.currentHp.toInt) : t.ensurePlayable = .ok () := by
  have hmem : c ∈ t.roster.members := List.mem_of_getElem? hc
  have hall : t.roster.allDown = false := by
    rw [Roster.allDown, Bool.and_eq_false_iff]
    refine .inr (List.all_eq_false.mpr ⟨c, hmem, ?_⟩)
    simpa [Character.isDown] using hup
  refine ensurePlayable_eq_ok_iff.mpr ⟨?_, ?_⟩
  · rw [hphase, phaseOf, hall]
    decide
  · exact List.isEmpty_eq_false_iff.mpr (List.ne_nil_of_mem hmem)

/-! ## The player's turns -/

private theorem RestsTo.exists_getElem? {threshold : UInt32} {cs : List Character}
    {results : List (Character × Regeneration)} (h : RestsTo threshold cs results) {i : Nat}
    {c : Character} (hc : cs[i]? = some c) :
    ∃ d done, results[i]? = some (d, done) ∧ c.regenerate? threshold = some (d, done) := by
  obtain ⟨hi, rfl⟩ := List.getElem?_eq_some_iff.mp hc
  have hi' : i < results.length := h.length_eq ▸ hi
  exact ⟨_, _, List.getElem?_eq_getElem hi', h.get hi hi'⟩

/-- What the player says opens no turn when the count of a member overflows at the party's rest. -/
theorem submit_of_restOverflows {input : String} (hplay : t.ensurePlayable = .ok ())
    (hinput : Text.trim input ≠ "") (hover : t.roster.RestOverflows) :
    (t.submit input).opening = .overflow := by
  have hnone : t.openTurn? (Text.trim input) true = none := by
    rw [openTurn?, readied?, if_pos rfl, rest?_eq_none_iff.mpr hover, Option.map_none]
  rw [submit_eq_ask hplay hinput, ask, hnone]
  rfl

/-- Elsewhere it opens a turn before which every member has had its rest, and those who are healed
are named in the log. -/
theorem submit_of_not_restOverflows {input : String} (hplay : t.ensurePlayable = .ok ())
    (hinput : Text.trim input ≠ "") (hover : ¬ t.roster.RestOverflows) {i : Nat} {c : Character}
    (hc : t.roster.get? i = some c) :
    ∃ turn d done, (t.submit input).opening = .asking turn ∧ turn.roster.get? i = some d ∧
      c.regenerate? t.settings.regenThreshold = some (d, done) ∧
        (done = .healed → .game (c.name ++ " regenerated 1 HP.") ∈ turn.events) := by
  obtain ⟨⟨r, rested⟩, hrest⟩ : ∃ result, rest? t.roster t.settings.regenThreshold = some result :=
    Option.ne_none_iff_exists'.mp (mt rest?_eq_none_iff.mp hover)
  obtain ⟨results, hresults, rfl, rfl⟩ := rest?_eq_some_iff.mp hrest
  obtain ⟨d, done, hd, hturn⟩ := hresults.exists_getElem? hc
  have hready : t.readied? true = some (_, _) := hrest
  have hopen : t.openTurn? (Text.trim input) true = some _ :=
    openTurn?_eq_some_iff.mpr ⟨_, _, hready, rfl⟩
  rw [submit_eq_ask hplay hinput, ask, hopen]
  refine ⟨_, d, done, rfl, ?_, hturn, fun hhealed => ?_⟩
  · simp [Roster.get?, hd]
  · refine List.mem_append_right _ (List.mem_filterMap.mpr ⟨_, List.mem_of_getElem? hd, ?_⟩)
    rw [hhealed, rested?, (Character.rests_of_regenerate? hturn).name]

/-- The first rest of the members of a saved game whom rest will heal. Exactly if the counter is not
the greatest of all, a turn of rest goes by it as a number, and otherwise the count overflows. A
member whose counter has reached the threshold is healed by the first turn after the game is taken
up, and named in the log, exactly if the count of no member of the party overflows; otherwise that
turn breaks off before the narrator is asked. -/
theorem first_rest_of_saved {text : String} {g : SavedGame} (hread : SavedGame.read text = .ok g) :
    (∀ c ∈ g.characters, c.Recovers → ∀ threshold : UInt32,
      (c.CountsOn threshold ↔ ¬ c.CounterFull) ∧
      (c.regenerate? threshold = none ↔ c.CounterFull)) ∧
    ∀ {s t : Session} {i : Nat} {c : Character} {input : String},
      s.load (.ok text) = .ok t → t.roster.get? i = some c → c.Recovers →
        t.settings.regenThreshold ≤ c.regenCounter → Text.trim input ≠ "" →
          ((∃ turn d, (t.submit input).opening = .asking turn ∧ turn.roster.get? i = some d ∧
              c.Rested d (c.currentHp.toInt + 1) 0 ∧
                .game (c.name ++ " regenerated 1 HP.") ∈ turn.events) ↔
            ¬ t.roster.RestOverflows) ∧
          (t.roster.RestOverflows → (t.submit input).opening = .overflow) := by
  have hvital := Vital.ofSavedGame hread
  refine ⟨fun c hc h threshold => ?_, fun {s t i c input} hload hc h hle hinput => ?_⟩
  · exact ⟨Character.countsOn_iff (hvital c hc) h, h.regenerate?_eq_none_iff⟩
  · obtain ⟨g', hread', hmembers, hphase⟩ := load_eq_ok hload
    cases hread.symm.trans hread'
    have hmem : c ∈ t.roster.members := List.mem_of_getElem? hc
    have hplay := ensurePlayable_of_phase hphase hc h.standing
    have hbreaks (hover : t.roster.RestOverflows) := submit_of_restOverflows hplay hinput hover
    refine ⟨⟨?_, fun hover => ?_⟩, hbreaks⟩
    · rintro ⟨turn, d, hturn, -⟩ hover
      cases hturn.symm.trans (hbreaks hover)
    · have hnot : ¬ c.CounterFull := fun hfull => hover ⟨c, hmem, h, hfull⟩
      have hdue : t.settings.regenThreshold.toNat ≤ c.regenCounter.toNat + 1 :=
        Nat.le_succ_of_le (UInt32.le_iff_toNat_le.mp hle)
      have hcounts : c.CountsOn t.settings.regenThreshold :=
        (Character.countsOn_iff (hvital c (hmembers ▸ hmem)) h).mpr hnot
      rw [Character.CountsOn, if_pos hdue] at hcounts
      obtain ⟨healed, hheals, hrested⟩ := hcounts
      obtain ⟨turn, d, done, hturn, hd, hrests, hevents⟩ :=
        submit_of_not_restOverflows hplay hinput hover hc
      cases hheals.symm.trans hrests
      exact ⟨turn, healed, hturn, hd, hrested, hevents rfl⟩

/-- A bard who is strong and hurt, with a counter of rest. -/
private def hurtBard (counter : UInt32) : Character :=
  { Character.bare "Bo" "Elf" "Bard" 8 with
    stats := { AbilityScores.average with strength := 14 }
    currentHp := 5
    regenCounter := counter }

/-- The text of a saved game whose only member is that bard. -/
private def hurtBardText (counter : String) : String :=
  "\x7b\"version\":\"1.0\",\"characters\":[\x7b\"name\":\"Bo\",\"race\":\"Elf\"," ++
    "\"characterClass\":\"Bard\",\"stats\":\x7b\"strength\":14,\"dexterity\":10," ++
    "\"constitution\":10,\"intelligence\":10,\"wisdom\":10,\"charisma\":10\x7d," ++
    "\"maxHp\":8,\"currentHp\":5,\"regenTurnCounter\":" ++ counter ++
    "\x7d],\"storyLog\":[],\"mainCharacterIndex\":0\x7d"

/-- The game that is read from that text. -/
private theorem exists_read_hurtBardText {counter : UInt32} {digits : String}
    (h : (SavedGame.read (hurtBardText digits)).toOption.map
      (fun g => (g.characters, g.main)) = some ([hurtBard counter], 0)) :
    ∃ g t, SavedGame.read (hurtBardText digits) = .ok g ∧ g.characters = [hurtBard counter] ∧
      (start .usual (.ofWords [7])).load (.ok (hurtBardText digits)) = .ok t ∧
        t.roster.members = [hurtBard counter] ∧ t.settings.regenThreshold = 3 := by
  obtain ⟨⟨characters, log, main, campaign⟩, hread, hg⟩ := Option.map_eq_some_iff.mp h
  obtain ⟨rfl, rfl⟩ : characters = [hurtBard counter] ∧ main = 0 := Prod.mk.inj hg
  have hread := eq_ok_of_toOption hread
  refine ⟨_, _, hread, rfl, by rw [load, Except.bind, hread]; rfl, rfl, rfl⟩

/-- A counter far beyond the threshold, and one short of the greatest: the bard is healed by the
first turn. -/
theorem first_rest_of_saved_bard :
    ∃ t turn d, (start .usual (.ofWords [7])).load (.ok (hurtBardText "4294967294")) = .ok t ∧
      (hurtBard 4294967294).CountsOn t.settings.regenThreshold ∧
        (t.submit "Hello").opening = .asking turn ∧ turn.roster.get? 0 = some d ∧
          (hurtBard 4294967294).Rested d 6 0 ∧ .game "Bo regenerated 1 HP." ∈ turn.events := by
  have hgame : (SavedGame.read (hurtBardText "4294967294")).toOption.map
      (fun g => (g.characters, g.main)) = some ([hurtBard 4294967294], 0) := by
    -- The pieces are joined as characters, so that no text is taken apart byte by byte.
    unfold hurtBardText
    repeat rw [← String.ofList_append]
    rw [SavedGame.read, Document.parseWhole?, Document.parse?, String.toList_ofList]
    decide +kernel
  obtain ⟨g, t, hread, hg, hload, hmembers, hthreshold⟩ := exists_read_hurtBardText hgame
  have hrecovers : (hurtBard 4294967294).Recovers := ⟨by decide, by decide, by decide⟩
  have hnot : ¬ (hurtBard 4294967294).CounterFull := by
    unfold Character.CounterFull
    decide
  have hrests : ¬ t.roster.RestOverflows := by
    rintro ⟨c, hc, -, hfull⟩
    rw [hmembers, List.mem_singleton] at hc
    exact hnot (hc ▸ hfull)
  have hget : t.roster.get? 0 = some (hurtBard 4294967294) := by rw [Roster.get?, hmembers]; rfl
  have hinput : Text.trim "Hello" ≠ "" := by decide +kernel
  obtain ⟨htick, hturn⟩ := first_rest_of_saved hread
  have hcounts := (htick _ (hg ▸ List.mem_singleton_self _) hrecovers t.settings.regenThreshold).1
  obtain ⟨turn, d, hopening, hd, hrested, hevents⟩ :=
    (hturn hload hget hrecovers (by rw [hthreshold]; decide) hinput).1.mpr hrests
  exact ⟨t, turn, d, hload, hcounts.mpr hnot, hopening, hd, hrested, hevents⟩

/-- With the greatest counter the bard is not healed, though the threshold is three: the count
overflows, and what the player says first in the game comes to nothing, whatever the narrator would
answer. -/
theorem overflow_of_greatest_counter :
    ∃ g c t, SavedGame.read (hurtBardText "4294967295") = .ok g ∧ c ∈ g.characters ∧ c.Recovers ∧
      (3 : UInt32).toNat ≤ c.regenCounter.toNat + 1 ∧ c.regenerate? 3 = none ∧
        (start .usual (.ofWords [7])).load (.ok (hurtBardText "4294967295")) = .ok t ∧
          ∀ answer, ((t.submit "Hello").settle answer).2 = .error .overflow := by
  have hgame : (SavedGame.read (hurtBardText "4294967295")).toOption.map
      (fun g => (g.characters, g.main)) = some ([hurtBard 4294967295], 0) := by
    unfold hurtBardText
    repeat rw [← String.ofList_append]
    rw [SavedGame.read, Document.parseWhole?, Document.parse?, String.toList_ofList]
    decide +kernel
  obtain ⟨g, t, hread, hg, hload, hmembers, hthreshold⟩ := exists_read_hurtBardText hgame
  have hrecovers : (hurtBard 4294967295).Recovers := ⟨by decide, by decide, by decide⟩
  have hfull : (hurtBard 4294967295).CounterFull := rfl
  have hopening : (t.submit "Hello").opening = .overflow := by
    obtain ⟨_, -, -, hphase⟩ := load_eq_ok hload
    have hget : t.roster.get? 0 = some (hurtBard 4294967295) := by rw [Roster.get?, hmembers]; rfl
    have hplay := ensurePlayable_of_phase hphase hget (by decide)
    exact submit_of_restOverflows hplay (by decide +kernel)
      ⟨_, List.mem_of_getElem? hget, hrecovers, hfull⟩
  refine ⟨g, hurtBard 4294967295, t, hread, hg ▸ List.mem_singleton_self _, hrecovers, by decide,
    hrecovers.regenerate?_eq_none_iff.mpr hfull, hload, fun answer => ?_⟩
  simp only [Move.settle, hopening]

end Session

end Tabletop
