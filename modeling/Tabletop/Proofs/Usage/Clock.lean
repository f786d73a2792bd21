import Tabletop.Proofs.Usage.Listeners

/-!
# Usage on a clock

Whatever is done on a clock is a course of acts at times in order, the looks of the task among them:
one at the end of each window for as long as it runs. What is true of all such courses is true of
every clock.
-/

namespace Tabletop

namespace Usage

/-! ## Looks of the task -/

/-- The looks at the end of each of a number of windows, the first at a given time. -/
def looks (window : Nat) : Nat → Nat → Course
  | 0, _ => []
  | count + 1, now => ⟨now, .tick⟩ :: looks window count (now + window)

variable {window count now : Nat}

private theorem time_of_mem_looks {m : Moment} (h : m ∈ looks window count now) :
    now ≤ m.time ∧ m.time + window ≤ now + count * window := by
  induction count generalizing now with
  | zero => cases h
  | succ count ih =>
    rw [Nat.succ_mul]
    rcases List.mem_cons.mp h with rfl | h
    · dsimp only
      omega
    · obtain ⟨hafter, hbefore⟩ := ih h
      omega

private theorem pairwise_looks (window count now : Nat) :
    (looks window count now).Pairwise fun m later => m.time ≤ later.time := by
  induction count generalizing now with
  | zero => exact .nil
  | succ count ih =>
    refine .cons (fun m hm => ?_) (ih (now + window))
    have hafter := (time_of_mem_looks hm).1
    show now ≤ m.time
    omega

private theorem calls_looks (window count now : Nat) : (looks window count now).calls = [] := by
  induction count generalizing now with
  | zero => rfl
  | succ count ih => exact ih (now + window)

/-- Where no call is held there is none to drop. -/
private theorem tick_of_no_calls {u : Usage} (h : u.calls = []) (now : Nat) :
    u.tick now = (u, []) := by
  have hprune : u.prune now = u := by
    obtain ⟨limit, window, calls, listeners, nextListener⟩ := u
    cases h
    rfl
  unfold tick
  simp [hprune]

private theorem looks_of_no_calls {u : Usage} (h : u.calls = []) (window count now : Nat) :
    u.run (looks window count now) = u ∧ u.hearings (looks window count now) = [] := by
  induction count generalizing now with
  | zero => exact ⟨rfl, rfl⟩
  | succ count ih =>
    obtain ⟨hrun, hheard⟩ := ih (now + window)
    have htick : u.act ⟨now, .tick⟩ = (u, []) := tick_of_no_calls h now
    have hcons : u.run (looks window (count + 1) now) =
        (u.act ⟨now, .tick⟩).1.run (looks window count (now + window)) := rfl
    rw [hcons, looks, hearings, htick, hheard]
    exact ⟨hrun, rfl⟩

/-- Looking until no call is held comes to the same as looking every time. -/
theorem ticks_eq (u : Usage) (count now : Nat) :
    u.ticks count now =
      (u.run (looks u.window count now), u.hearings (looks u.window count now)) := by
  induction count generalizing u now with
  | zero => rfl
  | succ count ih =>
    rw [ticks]
    split
    · next hnone =>
      obtain ⟨hrun, hheard⟩ :=
        looks_of_no_calls (List.isEmpty_iff.mp hnone) u.window (count + 1) now
      rw [hrun, hheard]
    · have hwindow : (u.tick now).1.window = u.window := (u.window_act ⟨now, .tick⟩).1
      dsimp only
      rw [ih, hwindow]
      rfl

end Usage

namespace UsageClock

open Usage (Course Hearing)

/-! ## Courses of a clock -/

/-- What is done on a clock. -/
inductive Deed where
  | record
  | query
  | subscribe
  | unsubscribe (id : Nat)
  | startTask
  | stopTask
  | wait (ms : Nat)
  deriving DecidableEq, Repr

/-- How long a deed takes. -/
def Deed.duration : Deed → Nat
  | .wait ms => ms
  | _ => 0

/-- The time of the call that a deed records, if it records one. -/
def Deed.calls (now : Nat) : Deed → List Nat
  | .record => [now]
  | _ => []

/-- The times of the calls that deeds record, from a time on. -/
def callTimes : Nat → List Deed → List Nat
  | _, [] => []
  | now, d :: later => d.calls now ++ callTimes (now + d.duration) later

/-- The clock after a deed, and what listeners hear of it. -/
def perform (c : UsageClock) : Deed → UsageClock × List Hearing
  | .record => c.record
  | .query => (c.query.2, [])
  | .subscribe => ({ c with usage := c.usage.subscribe.1 }, [])
  | .unsubscribe id => ({ c with usage := (c.usage.unsubscribe id).1 }, [])
  | .startTask => (c.startTask, [])
  | .stopTask => (c.stopTask, [])
  | .wait ms => c.wait ms

/-- The clock after deeds, and all that listeners hear. -/
def performAll (c : UsageClock) : List Deed → UsageClock × List Hearing
  | [] => (c, [])
  | d :: later =>
    let (next, heard) := c.perform d
    let (last, rest) := next.performAll later
    (last, heard ++ rest)

/-- A clock shows the usage after a course of acts, none of them later than now, and the task is not
due before now. -/
structure Follows (limit window : Nat) (course : Course) (c : UsageClock) : Prop where
  timely : course.TimelyUntil c.now
  usage : c.usage = (Usage.empty limit window).run course
  due : ∀ d ∈ c.due, c.now ≤ d ∧ 0 < window

variable {limit window : Nat} {course : Course} {c : UsageClock}

theorem Follows.window_eq (h : Follows limit window course c) : c.usage.window = window := by
  rw [h.usage]
  exact ((Usage.empty limit window).window_run course).1

/-- Acts at the end of a course keep its order. -/
private theorem timelyUntil_append {more : Course} {stop : Nat} (h : course.TimelyUntil c.now)
    (hstop : c.now ≤ stop) (hsorted : more.Pairwise fun m later => m.time ≤ later.time)
    (hbounds : ∀ m ∈ more, c.now ≤ m.time ∧ m.time ≤ stop) :
    Course.TimelyUntil (course ++ more) stop := by
  refine ⟨List.pairwise_append.mpr ⟨h.1, hsorted, fun m hm later hlater => ?_⟩, fun m hm => ?_⟩
  · exact Nat.le_trans (h.2 m hm) (hbounds later hlater).1
  · rcases List.mem_append.mp hm with hm | hm
    · exact Nat.le_trans (h.2 m hm) hstop
    · exact (hbounds m hm).2

/-- An act at the moment is one more of the course. -/
private theorem Follows.concat (h : Follows limit window course c) (a : Usage.Act) :
    Follows limit window (course ++ [⟨c.now, a⟩])
      { c with usage := (c.usage.act ⟨c.now, a⟩).1 } := by
  refine ⟨timelyUntil_append h.timely (Nat.le_refl _) (List.pairwise_singleton ..) ?_, ?_, h.due⟩
  · exact List.forall_mem_singleton.mpr ⟨Nat.le_refl _, Nat.le_refl _⟩
  · rw [Usage.run_concat, ← h.usage]

/-- The looks of the task while time passes come before the end, and the next one does not. -/
private theorem wait_bounds {now due window : Nat} (hdue : now ≤ due) (hwindow : 0 < window)
    (stop : Nat) :
    let count := (stop - due + window - 1) / window
    (∀ m ∈ Usage.looks window count due, now ≤ m.time ∧ m.time ≤ stop) ∧
      stop ≤ due + count * window := by
  intro count
  have hsplit : window * count + (stop - due + window - 1) % window = stop - due + window - 1 :=
    Nat.div_add_mod ..
  have hrest := Nat.mod_lt (stop - due + window - 1) hwindow
  rw [Nat.mul_comm] at hsplit
  refine ⟨fun m hm => ?_, by omega⟩
  have hm := Usage.time_of_mem_looks hm
  omega

/-- Time passes, and the looks of the task join the course. -/
private theorem Follows.wait (h : Follows limit window course c) (ms : Nat) :
    ∃ more, Follows limit window (course ++ more) (c.wait ms).1 ∧
      (c.wait ms).2 = c.usage.hearings more ∧ Course.calls more = [] := by
  cases hd : c.due with
  | none =>
    have hwait : c.wait ms = ({ c with now := c.now + ms }, []) := by rw [UsageClock.wait, hd]
    rw [hwait]
    refine ⟨[], ⟨?_, ?_, ?_⟩, rfl, rfl⟩
    · exact timelyUntil_append h.timely (Nat.le_add_right ..) .nil (List.forall_mem_nil _)
    · rw [List.append_nil]
      exact h.usage
    · simp [hd]
  | some due =>
    obtain ⟨hdue, hwindow⟩ := h.due due (by simp [hd])
    let count := (c.now + ms - due + window - 1) / window
    have hwait : c.wait ms =
        ({ c with
            usage := c.usage.run (Usage.looks window count due)
            now := c.now + ms
            due := some (due + count * window) },
          c.usage.hearings (Usage.looks window count due)) := by
      rw [UsageClock.wait, hd]
      dsimp only
      rw [Usage.ticks_eq, h.window_eq]
    obtain ⟨hbounds, hnext⟩ := wait_bounds hdue hwindow (c.now + ms)
    rw [hwait]
    refine ⟨_, ⟨?_, ?_, ?_⟩, rfl, Usage.calls_looks ..⟩
    · exact timelyUntil_append h.timely (Nat.le_add_right ..) (Usage.pairwise_looks ..) hbounds
    · rw [Usage.run_append, ← h.usage]
    · intro d hd
      cases hd
      exact ⟨hnext, hwindow⟩

/-- Every deed on a clock adds acts to the end of its course. -/
theorem Follows.perform (h : Follows limit window course c) (d : Deed) :
    ∃ more, Follows limit window (course ++ more) (c.perform d).1 ∧
      (c.perform d).2 = c.usage.hearings more ∧ (c.perform d).1.now = c.now + d.duration ∧
      Course.calls more = d.calls c.now := by
  have hact (a : Usage.Act) : c.usage.hearings [⟨c.now, a⟩] = (c.usage.act ⟨c.now, a⟩).2 :=
    List.append_nil _
  cases d with
  | record => exact ⟨_, h.concat .record, (hact .record).symm, rfl, rfl⟩
  | query => exact ⟨_, h.concat .query, (hact .query).symm, rfl, rfl⟩
  | subscribe => exact ⟨_, h.concat .subscribe, (hact .subscribe).symm, rfl, rfl⟩
  | unsubscribe id =>
    exact ⟨_, h.concat (.unsubscribe id), (hact (.unsubscribe id)).symm, rfl, rfl⟩
  | startTask =>
    refine ⟨[], ⟨?_, ?_, ?_⟩, rfl, rfl, rfl⟩
    · rw [List.append_nil]
      exact h.timely
    · rw [List.append_nil]
      exact h.usage
    · intro d hd
      simp only [UsageClock.perform, startTask, h.window_eq] at hd
      split at hd
      · cases hd
      · next hwindow =>
        cases hd
        exact ⟨Nat.le_refl _, Nat.pos_of_ne_zero hwindow⟩
  | stopTask =>
    refine ⟨[], ⟨?_, ?_, by simp [UsageClock.perform, stopTask]⟩, rfl, rfl, rfl⟩
    · rw [List.append_nil]
      exact h.timely
    · rw [List.append_nil]
      exact h.usage
  | wait ms =>
    obtain ⟨more, hfollows, hheard, hcalls⟩ := h.wait ms
    refine ⟨more, hfollows, hheard, ?_, hcalls⟩
    simp only [UsageClock.perform, UsageClock.wait, Deed.duration]
    split <;> rfl

/-- Deeds on a clock add acts to the end of its course, one after another. -/
theorem Follows.performAll (h : Follows limit window course c) (ds : List Deed) :
    ∃ more, Follows limit window (course ++ more) (c.performAll ds).1 ∧
      (c.performAll ds).2 = c.usage.hearings more ∧ Course.calls more = callTimes c.now ds := by
  induction ds generalizing course c with
  | nil => exact ⟨[], by rwa [List.append_nil], rfl, rfl⟩
  | cons d later ih =>
    obtain ⟨first, hfirst, hheard, hnow, hcalls⟩ := h.perform d
    obtain ⟨rest, hrest, hlater, hcallsLater⟩ := ih hfirst
    refine ⟨first ++ rest, by rwa [← List.append_assoc], ?_, ?_⟩
    · have husage : (c.perform d).1.usage = c.usage.run first := by
        rw [hfirst.usage, Usage.run_append, ← h.usage]
      show (c.perform d).2 ++ ((c.perform d).1.performAll later).2 = _
      rw [hheard, hlater, husage, Usage.hearings_append]
    · rw [callTimes, ← hcalls, ← hnow, ← hcallsLater]
      exact List.flatMap_append

private theorem follows_start (limit window : Nat) : Follows limit window [] (start limit window) :=
  ⟨⟨.nil, List.forall_mem_nil _⟩, rfl, by simp [start]⟩

/-- Whatever is done on a clock, it follows a course with just the calls that are recorded on it,
and listeners hear what they hear over that course. -/
theorem exists_follows (limit window : Nat) (ds : List Deed) :
    ∃ course, Follows limit window course ((start limit window).performAll ds).1 ∧
      ((start limit window).performAll ds).2 = (Usage.empty limit window).hearings course ∧
      course.calls = callTimes 0 ds :=
  (follows_start limit window).performAll ds

/-- Whoever asks on a clock is told how many calls were recorded on it within the window. -/
theorem used_query (limit window : Nat) (ds : List Deed) :
    let last := ((start limit window).performAll ds).1
    last.query.1.used = (callTimes 0 ds).countP fun t => last.now - t < window := by
  intro last
  obtain ⟨course, hfollows, -, hcalls⟩ := exists_follows limit window ds
  have hheld := (Usage.holds_run limit window hfollows.timely).held_prune
  rw [← hfollows.usage, hfollows.window_eq, hcalls] at hheld
  exact hheld

end UsageClock

end Tabletop
