import Tabletop.Proofs.Save.Games
import Tabletop.Proofs.Session.Vitals

/-!
# Sessions saved and loaded

A session that is saved and loaded into another one has the same party, story and campaign there.
Older and other forms of saved games are read too; once read they are written in the present form,
and read from it as they were.
-/

namespace Tabletop.Session

open Character (Vital)

variable {s t : Session}

/-- A saved game is taken up if its party is one and fits. -/
private theorem exists_load {g : SavedGame} {text : String} (hread : SavedGame.read text = .ok g)
    (hroom : g.characters.length ≤ max 1 t.settings.partyCap)
    (hseat : g.characters ≠ [] → g.main < g.characters.length) :
    ∃ t', t.load (.ok text) = .ok t' ∧
      t'.roster = ⟨g.characters, g.main, max 1 t.settings.partyCap⟩ ∧ t'.log = g.log ∧
        t'.settings.campaign = g.campaign := by
  have hroster : g.roster t.settings.partyCap =
      .ok ⟨g.characters, g.main, max 1 t.settings.partyCap⟩ := by
    rw [SavedGame.roster, mapError_eq_ok_iff]
    exact Roster.ofMembers_eq_ok_iff.mpr ⟨hroom, hseat, rfl⟩
  have hbind : (Except.ok text).bind SavedGame.read = .ok g := hread
  simp only [load, hbind, restore, hroster]
  exact ⟨_, rfl, rfl, rfl, rfl⟩

/-- Saving and loading. A session in which all vitals agree, whose protagonist is a member if it has
any and whose places are counts of 64 bits, is taken up from its saved text wherever its party fits:
with the same members, protagonist, log and campaign, so that it is saved as the same game again.
And whatever text a saved game is read from, it is read from its own text as the same game, and the
vitals of its characters agree. -/
theorem load_write_saved :
    (∀ {s t : Session}, s.roster.All Vital →
      (s.roster.isEmpty = false → s.roster.main < s.roster.size) →
        s.roster.main < UInt64.size → s.roster.size ≤ max 1 t.settings.partyCap →
          ∃ t', t.load (.ok s.saved.write) = .ok t' ∧
            t'.roster.members = s.roster.members ∧ t'.roster.main = s.roster.main ∧
              t'.log = s.log ∧ t'.settings.campaign = s.settings.campaign ∧
                t'.saved = s.saved) ∧
    ∀ {text : String} {g : SavedGame}, SavedGame.read text = .ok g →
      SavedGame.read g.write = .ok g ∧ ∀ c ∈ g.characters, c.Vital := by
  refine ⟨fun {s t} hvital hseat hmain hroom => ?_, fun {text g} hread => ?_⟩
  · have hread : SavedGame.read s.saved.write = .ok s.saved := SavedGame.read_write hvital hmain
    have hmembers : s.saved.characters ≠ [] → s.saved.main < s.saved.characters.length :=
      fun hne => hseat (List.isEmpty_eq_false_iff.mpr hne)
    obtain ⟨t', hload, hroster, hlog, hcampaign⟩ := exists_load hread hroom hmembers
    refine ⟨t', hload, ?_, ?_, hlog, hcampaign, ?_⟩
    · rw [hroster]
      rfl
    · rw [hroster]
      rfl
    · rw [saved, hroster, hlog, hcampaign]
      rfl
  · have hvital := Vital.ofSavedGame hread
    exact ⟨SavedGame.read_write hvital (SavedGame.main_lt_of_read hread), hvital⟩

/-- A game with an open invitation is saved and taken up by a new session. A saved game that lists
its character without field names, and with more hit points than can be had, is read and written in
the present form. -/
theorem load_write_saved_companion :
    let s := (start .usual (.ofWords [7])).run [.create (.ofIdentity "Bo" "Elf" "Bard" "male"),
      .play (.submit "Hello") (.said "INVITE_CHARACTER:[Ann, Elf, Bard, female]")]
    let listed := "\x7b\"version\":\"1.0\",\"characters\":" ++
      "[[\"Bo\",\"Elf\",\"Bard\",\"\",\"\",\"\",[9,9,9,9,9,9],8,9]]," ++
        "\"storyLog\":[],\"mainCharacterIndex\":0\x7d"
    Log.openInvitation? s.log = some 1 ∧
      (∃ t', (start .usual (.ofWords [9])).load (.ok s.saved.write) = .ok t' ∧
        t'.roster.members = s.roster.members ∧ t'.log = s.log ∧ t'.saved = s.saved) ∧
      ∃ g, SavedGame.read listed = .ok g ∧ SavedGame.read g.write = .ok g := by
  intro s listed
  have hvital : s.roster.All Vital :=
    run_induction (p := fun s => s.roster.All Vital) (fun _ step h => perform_all h step)
      (Roster.All.empty _) _
  have hs : Log.openInvitation? s.log = some 1 ∧ s.roster.main = 0 ∧ s.roster.size = 1 := by
    decide +kernel
  obtain ⟨hopen, hmain, hsize⟩ := hs
  have hlisted : (SavedGame.read listed).toOption.isSome := by decide +kernel
  refine ⟨hopen, ?_, ?_⟩
  · obtain ⟨t', hload, hmembers, -, hlog, -, hsaved⟩ := load_write_saved.1
      (s := s) (t := start .usual (.ofWords [9])) hvital (fun _ => by rw [hmain, hsize]; decide)
      (by rw [hmain]; decide) (by rw [hsize]; decide)
    exact ⟨t', hload, hmembers, hlog, hsaved⟩
  · cases h : SavedGame.read listed with
    | error e =>
      rw [h] at hlisted
      cases hlisted
    | ok g => exact ⟨g, rfl, (load_write_saved.2 h).1⟩

end Tabletop.Session
