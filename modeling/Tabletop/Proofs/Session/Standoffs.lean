import Tabletop.Proofs.Marker.Effects
import Tabletop.Proofs.Session.Actions
import Tabletop.Proofs.Session.Start

/-!
# Standoffs

A fight stands on a grid or at a distance, and where there is none nothing stands. Each of the three
markers that bear on a fight settles it all over again, so that the last of them decides. The state
of a fight is therefore consistent at any time in the course of a session.
-/

namespace Tabletop

/-- Where a marker says that the fight stands, if the marker bears on it; where it ends the fight,
the fight stands nowhere. -/
def Directive.standoff? : Directive → Option (Option Standoff)
  | .minimap combatants => some (some (.grid combatants))
  | .distance meters => some (some (.distance meters))
  | .combatEnd => some none
  | _ => none

namespace Combat

/-- There is a fight exactly when it stands somewhere. -/
def Agrees (c : Combat) : Prop := c.active = true ↔ c.standoff.isSome = true

/-- The fight that stands there, or no fight if it stands nowhere. -/
def standing (standoff : Option Standoff) : Combat := ⟨standoff.isSome, standoff⟩

theorem agrees_standing (standoff : Option Standoff) : (standing standoff).Agrees := Iff.rfl

theorem agrees_none : Combat.none.Agrees := agrees_standing .none

/-- A directive has the fight stand where it says, or leaves it alone. -/
theorem after_eq (c : Combat) (d : Directive) : c.after d = d.standoff?.elim c standing := by
  cases d <;> rfl

end Combat

/-! ## Directives in a row -/

namespace Situation

/-- The last directive that bears on the fight decides where it stands. -/
theorem combat_applyAll (s : Situation) (ds : List Directive) :
    (s.applyAll ds).1.combat =
      (ds.filterMap Directive.standoff?).getLast?.elim s.combat .standing := by
  induction ds generalizing s with
  | nil => rfl
  | cons d ds ih =>
    have hstep : (s.applyAll (d :: ds)).1.combat =
        (ds.filterMap Directive.standoff?).getLast?.elim (d.standoff?.elim s.combat .standing)
          .standing := by
      rw [← Combat.after_eq, ← combat_apply]
      exact ih (s.apply d).1
    rw [hstep, List.filterMap_cons]
    cases d.standoff? with
    | none => rfl
    | some standoff =>
      rw [List.getLast?_cons]
      cases (ds.filterMap Directive.standoff?).getLast? <;> rfl

/-- After directives the fight is consistent if it was so before, or if any of them bears on it. -/
theorem agrees_applyAll (s : Situation) (ds : List Directive) :
    (s.applyAll ds).1.combat.Agrees ↔
      s.combat.Agrees ∨ ∃ d ∈ ds, d.standoff?.isSome = true := by
  rw [combat_applyAll]
  cases hlast : (ds.filterMap Directive.standoff?).getLast? with
  | none =>
    have hnone := List.filterMap_eq_nil_iff.mp (List.getLast?_eq_none_iff.mp hlast)
    refine ⟨.inl, fun h => h.resolve_right ?_⟩
    rintro ⟨d, hd, hsome⟩
    rw [hnone d hd] at hsome
    cases hsome
  | some standoff =>
    obtain ⟨d, hd, hstandoff⟩ := List.mem_filterMap.mp (List.mem_of_getLast? hlast)
    exact ⟨fun _ => .inr ⟨d, hd, by rw [hstandoff, Option.isSome_some]⟩,
      fun _ => Combat.agrees_standing standoff⟩

end Situation

/-! ## Sessions -/

namespace Session

variable {s s' : Session} {a : Action} {d : Deed} {m : Move}

private theorem combat_restore {game : SavedGame} (h : s.restore game = .ok s') :
    s'.combat = .none := by
  unfold restore at h
  split at h
  · cases h
  · cases h
    rfl

private theorem agrees_closeTurn (h : s.combat.Agrees) (turn : Turn) (answer : Answer) :
    (s.closeTurn turn answer).1.combat.Agrees := by
  cases answer with
  | said raw => exact (Situation.agrees_applyAll _ _).mpr (.inl h)
  | failed e => exact h
  | late => exact h

private theorem agrees_amended (h : s.combat.Agrees) (hs : s.Amended a s') :
    s'.combat.Agrees := by
  cases hs with
  | restored _ hrestore =>
    rw [combat_restore hrestore]
    exact Combat.agrees_none
  | _ => exact h

/-- What an action comes to before the narrator answers leaves the fight consistent. -/
private theorem agrees_move (h : s.combat.Agrees) (a : Action) :
    (a.move s).session.combat.Agrees := by
  have hcomes := a.comes s
  generalize a.move s = m at hcomes
  cases hcomes with
  | refused e => exact h
  | amended signals hs => exact agrees_amended h hs
  | deed _ hd =>
    cases hd with
    | refused e => exact h
    | unjoined => exact h
    | idle dice => exact h
    | asking hstart ha =>
      rw [ha.session]
      exact hstart.combat.symm ▸ h
    | overflow hstart hb =>
      rw [hb.session]
      exact hstart.combat.symm ▸ h

private theorem agrees_settle (h : m.session.combat.Agrees) (answer : Answer) :
    (m.settle answer).1.combat.Agrees := by
  unfold Move.settle
  split
  · exact h
  · exact h
  · exact h
  · exact agrees_closeTurn h _ answer

/-- Of the directives that bear on a fight the last one decides: there is a fight on its grid, or at
its distance, or none; without any such directive the fight is as before. So at any time in the
course of a session, also while the narrator is asked, there is a fight exactly when it stands
somewhere. -/
theorem standoff_of_last :
    (∀ (s : Situation) (ds : List Directive),
      (s.applyAll ds).1.combat =
          (ds.filterMap Directive.standoff?).getLast?.elim s.combat .standing ∧
        ((s.applyAll ds).1.combat.Agrees ↔
          s.combat.Agrees ∨ ∃ d ∈ ds, d.standoff?.isSome = true)) ∧
    ∀ (settings : Settings) (dice : Dice) (actions : List (Action × Answer)),
      let reached := (start settings dice).follow actions
      reached.combat.Agrees ∧ ∀ a : Action, (a.move reached).session.combat.Agrees := by
  refine ⟨fun s ds => ⟨s.combat_applyAll ds, s.agrees_applyAll ds⟩, ?_⟩
  intro settings dice actions reached
  have hreached : reached.combat.Agrees :=
    follow_induction (p := fun s => s.combat.Agrees) (q := fun _ => True)
      (fun _ a answer _ h => agrees_settle (agrees_move h a) answer) (fun _ _ => trivial)
      Combat.agrees_none
  exact ⟨hreached, agrees_move hreached⟩

/-- The enemy comes into sight, and closer in the same reply. -/
example :
    ((start .usual (.ofWords [7])).follow
      [(.create (.ofIdentity "Bo" "Elf" "Bard" "male"), .late),
        (.play (.submit "Hello"), .said "DISTANCE_INFO:[30]\nDISTANCE_INFO:[4]")]).combat =
      ⟨true, some (.distance 4)⟩ := by
  decide +kernel

end Session

end Tabletop
