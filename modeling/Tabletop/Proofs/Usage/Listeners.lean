import Mathlib.Data.List.TakeWhile
import Tabletop.Proofs.Usage.Window

/-!
# What listeners know

Listeners hear of every recorded call and of calls that the task drops. Of calls that are dropped
while somebody asks they hear nothing, and the task finds nothing left to drop: they know the usage
of a time before, until the next call is recorded or dropped by the task.
-/

namespace Tabletop.Usage

/-! ## What is heard -/

/-- What listeners hear over a course of acts, the latest last. -/
def hearings (u : Usage) : Course → List Hearing
  | [] => []
  | m :: later => (u.act m).2 ++ (u.act m).1.hearings later

/-- What a listener has heard last. -/
def lastHeard? (id : Nat) (heard : List Hearing) : Option Snapshot := heard.reverse.lookup id

/-- Calls have been dropped while somebody asked, and the listener has heard nothing since. -/
def Overlooked (u : Usage) (id : Nat) (course : Course) : Prop :=
  ∃ before time after, course = before ++ ⟨time, .query⟩ :: after ∧
    ((u.run before).query time).2.held < (u.run before).held ∧
    lastHeard? id (((u.run before).query time).2.hearings after) = none

variable {u : Usage} {course : Course} {m : Moment} {id : Nat}

theorem hearings_append (u : Usage) (course later : Course) :
    u.hearings (course ++ later) = u.hearings course ++ (u.run course).hearings later := by
  induction course generalizing u with
  | nil => rfl
  | cons m course ih =>
    rw [List.cons_append, hearings, hearings, ih, List.append_assoc]
    rfl

theorem hearings_concat (u : Usage) (course : Course) (m : Moment) :
    u.hearings (course ++ [m]) = u.hearings course ++ ((u.run course).act m).2 := by
  rw [hearings_append, hearings, hearings, List.append_nil]

theorem lastHeard?_append (id : Nat) (heard later : List Hearing) :
    lastHeard? id (heard ++ later) = (lastHeard? id later).or (lastHeard? id heard) := by
  rw [lastHeard?, List.reverse_append, List.lookup_append]
  rfl

private theorem lookup_map_pair (id : Nat) (ids : List Nat) (s : Snapshot) :
    (ids.map fun id => (id, s)).lookup id = if id ∈ ids then some s else none := by
  induction ids with
  | nil => rfl
  | cons first ids ih =>
    by_cases h : id = first
    · simp [h]
    · have hne : (id == first) = false := beq_false_of_ne h
      simp [List.lookup_cons, hne, h, ih]

/-- What is told is heard by those who listen. -/
theorem lastHeard?_announce (u : Usage) (id : Nat) :
    lastHeard? id u.announce = if id ∈ u.listeners then some u.snapshot else none := by
  rw [lastHeard?, announce, ← List.map_reverse, lookup_map_pair]
  simp only [List.mem_reverse]

/-! ## One act -/

/-- An act is told to all listeners, or to none; then it drops calls at most while somebody asks,
and whoever comes to listen is new. -/
theorem act_cases (u : Usage) (m : Moment) :
    m.act ≠ .query ∧ (u.act m).2 = (u.act m).1.announce ∧ (u.act m).1.listeners = u.listeners ∧
        (u.act m).1.nextListener = u.nextListener ∨
      (u.act m).2 = [] ∧ (u.act m).1.held ≤ u.held ∧
        ((u.act m).1.held = u.held ∨ m.act = .query) ∧
        u.nextListener ≤ (u.act m).1.nextListener ∧
        ∀ id ∈ (u.act m).1.listeners, id ∈ u.listeners ∨
          id = u.nextListener ∧ id < (u.act m).1.nextListener := by
  obtain ⟨time, a⟩ := m
  cases a with
  | record => exact .inl ⟨by simp, rfl, rfl, rfl⟩
  | query =>
    exact .inr ⟨rfl, u.held_prune_le time, .inr rfl, Nat.le_refl _, fun _ => .inl⟩
  | tick =>
    rcases u.tick_cases time with htick | ⟨htick, -⟩
    · rw [act, htick]
      exact .inl ⟨by simp, rfl, rfl, rfl⟩
    · rw [act, htick]
      exact .inr ⟨rfl, Nat.le_refl _, .inl rfl, Nat.le_refl _, fun _ => .inl⟩
  | subscribe =>
    refine .inr ⟨rfl, Nat.le_refl _, .inl rfl, Nat.le_succ _, fun id hid => ?_⟩
    rcases List.mem_append.mp hid with hid | hid
    · exact .inl hid
    · cases List.mem_singleton.mp hid
      exact .inr ⟨rfl, Nat.lt_succ_self _⟩
  | unsubscribe id =>
    exact .inr ⟨rfl, Nat.le_refl _, .inl rfl, Nat.le_refl _, fun _ hid =>
      .inl (List.mem_filter.mp hid).1⟩

private theorem run_query (u : Usage) (before : Course) (time : Nat) (after : Course) :
    u.run (before ++ ⟨time, .query⟩ :: after) = ((u.run before).query time).2.run after :=
  u.run_append before _

/-- Calls are overlooked after one more act if they were before, and the listener does not hear of
it, or if the act drops them while somebody asks. -/
theorem overlooked_concat_iff : Overlooked u id (course ++ [m]) ↔
    Overlooked u id course ∧ lastHeard? id ((u.run course).act m).2 = none ∨
      m.act = .query ∧ ((u.run course).act m).1.held < (u.run course).held := by
  constructor
  · rintro ⟨before, time, after, hsplit, hdrop, hsilent⟩
    rcases List.eq_nil_or_concat after with rfl | ⟨after, last, rfl⟩
    · obtain ⟨rfl, hm⟩ := List.append_inj' hsplit rfl
      cases hm
      exact .inr ⟨rfl, hdrop⟩
    · rw [List.concat_eq_append] at hsplit hsilent
      rw [← List.cons_append, ← List.append_assoc] at hsplit
      obtain ⟨rfl, hm⟩ := List.append_inj' hsplit rfl
      cases hm
      rw [hearings_concat, lastHeard?_append, Option.or_eq_none_iff] at hsilent
      refine .inl ⟨⟨before, time, after, rfl, hdrop, hsilent.2⟩, ?_⟩
      rw [run_query]
      exact hsilent.1
  · rintro (⟨⟨before, time, after, rfl, hdrop, hsilent⟩, hm⟩ | ⟨hquery, hdrop⟩)
    · refine ⟨before, time, after ++ [m], by simp, hdrop, ?_⟩
      rw [run_query] at hm
      rw [hearings_concat, lastHeard?_append, hm, hsilent]
      rfl
    · obtain ⟨time, a⟩ := m
      cases hquery
      exact ⟨course, time, [], rfl, hdrop, rfl⟩

/-! ## Courses of acts -/

/-- Listeners have numbers that were given out, and what one of them has heard last is the usage
that is held, exactly if nothing has been overlooked since. -/
structure Informed (u : Usage) (course : Course) : Prop where
  numbered : ∀ id ∈ (u.run course).listeners, id < (u.run course).nextListener
  unheard : ∀ id, (u.run course).nextListener ≤ id → lastHeard? id (u.hearings course) = none
  level : ∀ id ∈ (u.run course).listeners, ∀ s, lastHeard? id (u.hearings course) = some s →
    s.limit = u.limit ∧ (u.run course).held ≤ s.used ∧
      ((u.run course).held < s.used ↔ Overlooked u id course)

namespace Informed

/-- What is told to all who listen is what they have heard last. -/
private theorem told (h : Informed u course) (hne : m.act ≠ .query)
    (hheard : ((u.run course).act m).2 = ((u.run course).act m).1.announce)
    (hsame : ((u.run course).act m).1.listeners = (u.run course).listeners)
    (hnext : ((u.run course).act m).1.nextListener = (u.run course).nextListener) :
    Informed u (course ++ [m]) := by
  refine ⟨?_, ?_, ?_⟩
  · rw [run_concat, hsame, hnext]
    exact h.numbered
  · intro id hid
    rw [run_concat, hnext] at hid
    have hno : id ∉ (u.run course).listeners := fun hmem =>
      Nat.not_lt.mpr hid (h.numbered id hmem)
    rw [hearings_concat, lastHeard?_append, hheard, h.unheard id hid, lastHeard?_announce, hsame,
      if_neg hno]
    rfl
  · intro id hid s hs
    rw [run_concat] at hid
    have hlast : lastHeard? id ((u.run course).act m).2 =
        some ((u.run course).act m).1.snapshot := by
      rw [hheard, lastHeard?_announce, if_pos hid]
    rw [hearings_concat, lastHeard?_append, hlast] at hs
    cases hs
    have hlimit := (u.window_run (course ++ [m])).2
    rw [run_concat] at hlimit
    rw [overlooked_concat_iff, run_concat, hlast]
    refine ⟨hlimit, Nat.le_refl _, iff_of_false (Nat.lt_irrefl _) ?_⟩
    rintro (⟨-, hnone⟩ | ⟨hquery, -⟩)
    · cases hnone
    · exact hne hquery

/-- Where nothing is told, those who have heard anything know what they knew. -/
private theorem silent (h : Informed u course) (hheard : ((u.run course).act m).2 = [])
    (hle : ((u.run course).act m).1.held ≤ (u.run course).held)
    (hdrop : ((u.run course).act m).1.held = (u.run course).held ∨ m.act = .query)
    (hnext : (u.run course).nextListener ≤ ((u.run course).act m).1.nextListener)
    (hnew : ∀ id ∈ ((u.run course).act m).1.listeners, id ∈ (u.run course).listeners ∨
      id = (u.run course).nextListener ∧ id < ((u.run course).act m).1.nextListener) :
    Informed u (course ++ [m]) := by
  have hkept : u.hearings (course ++ [m]) = u.hearings course := by
    rw [hearings_concat, hheard, List.append_nil]
  refine ⟨?_, ?_, ?_⟩
  · rw [run_concat]
    intro id hid
    rcases hnew id hid with hold | ⟨-, hlt⟩
    · exact Nat.lt_of_lt_of_le (h.numbered id hold) hnext
    · exact hlt
  · intro id hid
    rw [run_concat] at hid
    rw [hkept]
    exact h.unheard id (Nat.le_trans hnext hid)
  · intro id hid s hs
    rw [run_concat] at hid
    rw [hkept] at hs
    have hold : id ∈ (u.run course).listeners := by
      rcases hnew id hid with hold | ⟨rfl, -⟩
      · exact hold
      · rw [h.unheard _ (Nat.le_refl _)] at hs
        cases hs
    obtain ⟨hlimit, hlevel, hiff⟩ := h.level id hold s hs
    have hnone : lastHeard? id [] = none := rfl
    rw [overlooked_concat_iff, run_concat, hheard, ← hiff]
    refine ⟨hlimit, Nat.le_trans hle hlevel, ?_⟩
    rcases hdrop with hsame | hquery
    · rw [hsame]
      simp [hnone]
    · simp only [hnone, hquery, and_true, true_and]
      omega

/-- Every act leaves listeners informed. -/
private theorem concat (h : Informed u course) (m : Moment) : Informed u (course ++ [m]) := by
  rcases (u.run course).act_cases m with ⟨hne, hheard, hsame, hnext⟩ |
    ⟨hheard, hle, hdrop, hnext, hnew⟩
  · exact h.told hne hheard hsame hnext
  · exact h.silent hheard hle hdrop hnext hnew

end Informed

/-- From a usage to which nobody listens yet, listeners are informed throughout. -/
private theorem informed_run (limit window : Nat) (course : Course) :
    Informed (empty limit window) course := by
  induction course using List.reverseRecOn with
  | nil => exact ⟨List.forall_mem_nil _, fun _ _ => rfl, List.forall_mem_nil _⟩
  | append_singleton course m ih => exact ih.concat m

private theorem prune_prune (u : Usage) (now : Nat) : (u.prune now).prune now = u.prune now :=
  congrArg (fun calls => { u with calls }) List.takeWhile_idem

/-- When a call has been recorded or the task has looked, whoever asks at once is told what is
held. -/
private theorem query_act (u : Usage) (now : Nat) {a : Act} (ha : a = .record ∨ a = .tick) :
    ((u.act ⟨now, a⟩).1.query now).1 = (u.act ⟨now, a⟩).1.snapshot := by
  rcases ha with rfl | rfl
  · exact congrArg snapshot (prune_prune _ now)
  · rcases u.tick_cases now with htick | ⟨htick, hheld⟩
    · rw [act, htick]
      exact congrArg snapshot (prune_prune _ now)
    · rw [act, htick]
      exact (Snapshot.mk.injEq ..).mpr ⟨hheld, rfl⟩

/-- When a call has been recorded or the task has looked, a listener that has heard anything knows
the usage of the moment, exactly if no calls were dropped while somebody asked after it last heard
something; and a call that is recorded is heard by all. -/
theorem heard_eq_query_iff (limit window : Nat) (course : Course) (now : Nat) {a : Act}
    (ha : a = .record ∨ a = .tick) {id : Nat} {s : Snapshot}
    (hid : id ∈ ((empty limit window).run (course ++ [⟨now, a⟩])).listeners)
    (hs : lastHeard? id ((empty limit window).hearings (course ++ [⟨now, a⟩])) = some s) :
    let current := (((empty limit window).run (course ++ [⟨now, a⟩])).query now).1
    (s = current ↔ ¬ Overlooked (empty limit window) id (course ++ [⟨now, a⟩])) ∧
      (a = .record → s = current) := by
  intro current
  obtain ⟨hlimit, hle, hiff⟩ := (informed_run limit window _).level id hid s hs
  have hcurrent : current = ((empty limit window).run (course ++ [⟨now, a⟩])).snapshot := by
    simp only [current, run_concat]
    exact query_act _ now ha
  have hused : s = current ↔ s.used = ((empty limit window).run (course ++ [⟨now, a⟩])).held := by
    have hlimit' := ((empty limit window).window_run (course ++ [⟨now, a⟩])).2
    obtain ⟨used, snapLimit⟩ := s
    rw [hcurrent, snapshot, Snapshot.mk.injEq, hlimit', and_iff_left hlimit]
  refine ⟨?_, ?_⟩
  · rw [hused, ← hiff]
    omega
  · rintro rfl
    have htold : lastHeard? id (((empty limit window).run course).act ⟨now, .record⟩).2 =
        some (((empty limit window).run course).act ⟨now, .record⟩).1.snapshot := by
      rw [run_concat] at hid
      exact (lastHeard?_announce _ id).trans (if_pos hid)
    rw [hearings_concat, lastHeard?_append, htold] at hs
    cases hs
    rw [hcurrent, run_concat]

/-- A call is still within the window when somebody asks, and has left it when the task looks:
whoever has heard of the call hears that it is gone. -/
theorem heard_eq_query_iff_recovered :
    let course : Course := [⟨0, .subscribe⟩, ⟨0, .record⟩, ⟨30000, .query⟩]
    let later := course ++ [⟨60000, .tick⟩]
    let u := empty defaultLimit defaultWindow
    0 ∈ (u.run later).listeners ∧ lastHeard? 0 (u.hearings later) = some ⟨0, 60⟩ ∧
      ¬ Overlooked u 0 later := by
  intro course later u
  have hid : 0 ∈ (u.run later).listeners := by decide
  have hs : lastHeard? 0 (u.hearings later) = some ⟨0, 60⟩ := by decide
  have hcurrent : (⟨0, 60⟩ : Snapshot) = ((u.run later).query 60000).1 := by decide
  exact ⟨hid, hs, (heard_eq_query_iff _ _ course 60000 (.inr rfl) hid hs).1.mp hcurrent⟩

/-- A call leaves the window, somebody asks, and the task finds nothing to drop: a listener that has
heard of the call does not hear that it is gone. -/
theorem heard_of_query_before_tick :
    let course : Course := [⟨0, .subscribe⟩, ⟨0, .record⟩, ⟨60000, .query⟩, ⟨60000, .tick⟩]
    let u := (empty defaultLimit defaultWindow).run course
    course.TimelyUntil 60000 ∧ 0 ∈ u.listeners ∧
      lastHeard? 0 ((empty defaultLimit defaultWindow).hearings course) = some ⟨1, 60⟩ ∧
      (u.query 60000).1 = ⟨0, 60⟩ := by
  decide

end Tabletop.Usage
