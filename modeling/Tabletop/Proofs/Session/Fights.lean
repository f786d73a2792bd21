import Tabletop.Proofs.Marker.Effects
import Tabletop.Proofs.Session.Course
import Tabletop.Proofs.Session.Start

/-!
# Fights and what is told of them

Markers put the party into a fight and end it in the order of the text. The notices of a turn go by
whether there are markers of either kind, as if those that begin a fight came first. The two agree
unless the reply ends a fight and begins one after that.
-/

namespace Tabletop

/-! ## Markers -/

namespace Directive

/-- Whether there is a fight after a marker. -/
def fighting (active : Bool) (d : Directive) : Bool :=
  if d.startsCombat then true else if d.endsCombat then false else active

/-- Markers end a fight, and begin one after they have ended the last. -/
def StartAfterEnd (ds : List Directive) : Prop :=
  ∃ before after, ds = before ++ .combatEnd :: after ∧ after.any startsCombat = true ∧
    after.any endsCombat = false

private theorem eq_combatEnd_of_endsCombat {d : Directive} (h : d.endsCombat = true) :
    d = .combatEnd := by
  cases d with
  | combatEnd => rfl
  | _ => cases h

private theorem exists_last_combatEnd {ds : List Directive} (h : ds.any endsCombat = true) :
    ∃ before after, ds = before ++ .combatEnd :: after ∧ after.any endsCombat = false := by
  induction ds with
  | nil => cases h
  | cons d ds ih =>
    by_cases hds : ds.any endsCombat = true
    · obtain ⟨before, after, hsplit, hafter⟩ := ih hds
      exact ⟨d :: before, after, by rw [hsplit, List.cons_append], hafter⟩
    · rw [Bool.not_eq_true] at hds
      have hd : d.endsCombat = true := by simpa [hds] using h
      exact ⟨[], ds, by rw [eq_combatEnd_of_endsCombat hd, List.nil_append], hds⟩

/-- Markers that end no fight leave one that is on, and one that they begin. -/
private theorem foldl_fighting_of_any_endsCombat {active : Bool} {ds : List Directive}
    (h : ds.any endsCombat = false) :
    ds.foldl fighting active = (active || ds.any startsCombat) := by
  induction ds generalizing active with
  | nil => simp
  | cons d ds ih =>
    obtain ⟨hd, hds⟩ := Bool.or_eq_false_iff.mp (List.any_cons.symm.trans h)
    rw [List.foldl_cons, ih hds, List.any_cons, fighting, hd]
    cases d.startsCombat <;> cases active <;> rfl

private theorem foldl_fighting_combatEnd {active : Bool} {before after : List Directive}
    (h : after.any endsCombat = false) :
    (before ++ .combatEnd :: after).foldl fighting active = after.any startsCombat := by
  rw [List.foldl_append, List.foldl_cons, foldl_fighting_of_any_endsCombat h]
  exact Bool.false_or _

end Directive

namespace Situation

private theorem active_apply (s : Situation) (d : Directive) :
    (s.apply d).1.combat.active = d.fighting s.combat.active := by
  rw [combat_apply]
  cases d <;> rfl

/-- Whether there is a fight after directives goes by the last of them that begins or ends one. -/
theorem active_applyAll (s : Situation) (ds : List Directive) :
    (s.applyAll ds).1.combat.active = ds.foldl Directive.fighting s.combat.active := by
  induction ds generalizing s with
  | nil => rfl
  | cons d ds ih =>
    rw [List.foldl_cons, ← active_apply]
    exact ih _

end Situation

/-! ## Notices -/

namespace Notice

/-- The notice tells of a fight that begins or ends. -/
def isCombat : Notice → Bool
  | .combatStarted | .combatEnded => true
  | _ => false

/-- Whether there is a fight, as far as somebody knows who is told so. -/
def believed (active : Bool) : Notice → Bool
  | .combatStarted => true
  | .combatEnded => false
  | _ => active

private theorem isCombat_of_isCrossing {n : Notice} (h : n.isCrossing) : n.isCombat = false := by
  cases n with
  | downed => rfl
  | revived => rfl
  | _ => cases h

private theorem isCombat_of_mem_ofVitals {before : List Int} {r : Roster} {n : Notice}
    (h : n ∈ ofVitals before r) : n.isCombat = false := by
  rcases List.mem_append.mp h with h | h
  · exact isCombat_of_isCrossing (isCrossing_of_mem_crossings h)
  · split at h
    · cases List.mem_singleton.mp h
      rfl
    · cases h

/-- Only notices of fights bear on what is believed of fights. -/
private theorem foldl_believed_filter (active : Bool) (ns : List Notice) :
    (ns.filter isCombat).foldl believed active = ns.foldl believed active := by
  rw [List.foldl_filter]
  congr
  funext active n
  cases n <;> rfl

end Notice

/-! ## Turns -/

namespace Session

private theorem isCombat_of_mem_victories {effects : List Effect} {n : Notice}
    (h : n ∈ effects.filterMap victory?) : n.isCombat = false := by
  obtain ⟨quest, rfl⟩ := mem_victories h
  rfl

private theorem isCombat_of_mem_combatNotices {active : Bool} {ds : List Directive} {n : Notice}
    (h : n ∈ combatNotices active ds) : n.isCombat = true := by
  rcases mem_combatNotices h with rfl | rfl <;> rfl

private theorem filter_isCombat_completeTurn {start : Session} {turn : Turn}
    (h : ∀ n ∈ turn.notices, n.isCrossing) (raw : String) :
    (start.completeTurn turn raw).2.2.notices.filter Notice.isCombat =
      combatNotices start.combat.active (Reply.directives (Reply.pieces raw.toList)) := by
  have hnone {ns : List Notice} (h : ∀ n ∈ ns, n.isCombat = false) :
      ns.filter Notice.isCombat = [] := by
    simpa [List.filter_eq_nil_iff] using h
  simp only [completeTurn, List.filter_append]
  rw [hnone fun n hn => Notice.isCombat_of_isCrossing (h n hn),
    hnone fun n hn => isCombat_of_mem_victories hn,
    hnone fun n hn => Notice.isCombat_of_mem_ofVitals hn,
    List.filter_eq_self.mpr fun n hn => isCombat_of_mem_combatNotices hn,
    List.nil_append, List.append_nil, List.append_nil]

private theorem count_combatNotices_le (active : Bool) (ds : List Directive) :
    (combatNotices active ds).count .combatStarted ≤ 1 ∧
      (combatNotices active ds).count .combatEnded ≤ 1 := by
  unfold combatNotices
  cases ds.any Directive.startsCombat <;> cases ds.any Directive.endsCombat <;> cases active <;>
    decide

/-- The end of a fight is told last. -/
private theorem foldl_believed_combatNotices (active : Bool) (ds : List Directive) :
    (combatNotices active ds).foldl Notice.believed active =
      if ds.any Directive.endsCombat then false else active || ds.any Directive.startsCombat := by
  unfold combatNotices
  cases ds.any Directive.startsCombat <;> cases ds.any Directive.endsCombat <;> cases active <;> rfl

/-- The notices of markers tell that there is a fight or that there is none as the markers leave it,
unless a fight begins after the last has ended. -/
private theorem believed_combatNotices (active : Bool) (ds : List Directive) :
    (¬ Directive.StartAfterEnd ds → (combatNotices active ds).foldl Notice.believed active =
        ds.foldl Directive.fighting active) ∧
      (Directive.StartAfterEnd ds → (combatNotices active ds).foldl Notice.believed active = false ∧
        ds.foldl Directive.fighting active = true) := by
  rw [foldl_believed_combatNotices]
  refine ⟨fun hnot => ?_, ?_⟩
  · by_cases hends : ds.any Directive.endsCombat = true
    · obtain ⟨before, after, hsplit, hafter⟩ := Directive.exists_last_combatEnd hends
      have hquiet : after.any Directive.startsCombat = false := by
        rw [Bool.eq_false_iff]
        exact fun hagain => hnot ⟨before, after, hsplit, hagain, hafter⟩
      rw [if_pos hends, hsplit, Directive.foldl_fighting_combatEnd hafter, hquiet]
    · rw [if_neg hends]
      rw [Bool.not_eq_true] at hends
      exact (Directive.foldl_fighting_of_any_endsCombat hends).symm
  · rintro ⟨before, after, hsplit, hagain, hafter⟩
    have hends : ds.any Directive.endsCombat = true := by
      rw [hsplit, List.any_append, List.any_cons]
      simp [Directive.endsCombat]
    exact ⟨if_pos hends, by rw [hsplit, Directive.foldl_fighting_combatEnd hafter, hagain]⟩

/-- Of a completed turn at most one fight is told to have begun and at most one to have ended. Who
goes by what is told, from whether there was a fight before the turn, knows whether there is one
after it, unless the narrator's markers begin a fight after they have ended the last; then there is
a fight that is told to be over. -/
theorem believed_of_completed {s : Session} {d : Deed} {raw : String} {outcome : Outcome}
    (h : ((d.move s).settle (.said raw)).2 = .ok (some outcome)) :
    let after := ((d.move s).settle (.said raw)).1
    let markers := Reply.directives (Reply.pieces raw.toList)
    let believed := outcome.notices.foldl Notice.believed s.combat.active
    outcome.notices.count .combatStarted ≤ 1 ∧ outcome.notices.count .combatEnded ≤ 1 ∧
      (¬ Directive.StartAfterEnd markers → believed = after.combat.active) ∧
      (Directive.StartAfterEnd markers → believed = false ∧ after.combat.active = true) := by
  intro after markers believed
  obtain ⟨start, line, turn, _, hstarts, ha, hraw, hafter, houtcome⟩ := exists_completed h
  cases hraw
  have hnotices : outcome.notices.filter Notice.isCombat =
      combatNotices s.combat.active markers := by
    rw [houtcome, ← hstarts.combat]
    exact filter_isCombat_completeTurn ha.crossings raw
  have hbelieved : believed =
      (combatNotices s.combat.active markers).foldl Notice.believed s.combat.active := by
    rw [← hnotices, Notice.foldl_believed_filter]
  have hactive : after.combat.active = markers.foldl Directive.fighting s.combat.active := by
    rw [← hstarts.combat]
    exact (congrArg (·.combat.active) hafter).trans (Situation.active_applyAll _ markers)
  have hcount : ∀ n : Notice, n.isCombat = true →
      outcome.notices.count n = (combatNotices s.combat.active markers).count n := by
    intro n hn
    rw [← hnotices, List.count_filter hn]
  rw [hcount _ rfl, hcount _ rfl, hbelieved, hactive]
  obtain ⟨hstarted, hended⟩ := count_combatNotices_le s.combat.active markers
  exact ⟨hstarted, hended, believed_combatNotices s.combat.active markers⟩

/-- An enemy comes into sight, and there is a fight. -/
theorem believed_of_completed_ambush :
    let s := (Session.start .usual (.ofWords [7])).run
      [.create (.ofIdentity "Bo" "Elf" "Bard" "male")]
    let raw := "DISTANCE_INFO:[30]"
    let after := (((Deed.submit "Hello").move s).settle (.said raw)).1
    let markers := Reply.directives (Reply.pieces raw.toList)
    after.combat.active = true ∧ ∃ outcome : Outcome,
      (((Deed.submit "Hello").move s).settle (.said raw)).2 = .ok (some outcome) ∧
      outcome.notices.count .combatStarted ≤ 1 ∧ outcome.notices.count .combatEnded ≤ 1 ∧
      (¬ Directive.StartAfterEnd markers →
        outcome.notices.foldl Notice.believed s.combat.active = after.combat.active) ∧
      (Directive.StartAfterEnd markers →
        outcome.notices.foldl Notice.believed s.combat.active = false ∧
          after.combat.active = true) := by
  obtain ⟨outcome, h⟩ := exists_outcome_of_isSome (by decide +kernel :
    (((Deed.submit "Hello").move ((Session.start .usual (.ofWords [7])).run
      [.create (.ofIdentity "Bo" "Elf" "Bard" "male")])).settle
        (.said "DISTANCE_INFO:[30]")).2.toOption.join.isSome)
  exact ⟨by decide +kernel, outcome, h, believed_of_completed h⟩

/-- A fight that is over is followed by another in the same reply: the notices tell of one that
begins and ends, and there is a fight. -/
theorem notices_of_second_fight :
    let s := (Session.start .usual (.ofWords [7])).run
      [.create (.ofIdentity "Bo" "Elf" "Bard" "male")]
    let settled := ((Deed.submit "Hello").move s).settle
      (.said "COMBAT_END\nA new foe.\nDISTANCE_INFO:[30]")
    s.combat.active = false ∧
      settled.2.toOption.join.map Outcome.notices = some [.combatStarted, .combatEnded] ∧
        settled.1.combat.active = true := by
  decide +kernel

end Session

end Tabletop
