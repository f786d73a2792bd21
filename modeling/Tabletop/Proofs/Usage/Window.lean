import Mathlib.Data.List.Induction
import Tabletop.Usage

/-!
# The window of calls

Calls are recorded, old ones are dropped whenever somebody looks, and the answer is always the
number of the calls that were made within the window: dropping goes from the oldest call on, and
nothing that is dropped comes back into the window.
-/

namespace Tabletop.Usage

/-! ## Courses -/

/-- What is done to a usage. -/
inductive Act where
  | record
  | query
  | tick
  | subscribe
  | unsubscribe (id : Nat)
  deriving DecidableEq, Repr

/-- An act and the time of it. -/
structure Moment where
  time : Nat
  act : Act
  deriving DecidableEq, Repr

/-- The time of the call, if one is recorded. -/
def Moment.calls (m : Moment) : List Nat := if m.act = .record then [m.time] else []

theorem Moment.calls_of_ne {m : Moment} (h : m.act ≠ .record) : m.calls = [] := if_neg h

/-- What has been done to a usage, the latest last. -/
abbrev Course := List Moment

namespace Course

/-- The times of the recorded calls. -/
def calls (course : Course) : List Nat := course.flatMap Moment.calls

/-- No time comes before an earlier one, up to a time that none goes beyond. -/
def TimelyUntil (course : Course) (now : Nat) : Prop :=
  course.Pairwise (fun m later => m.time ≤ later.time) ∧ ∀ m ∈ course, m.time ≤ now

instance (course : Course) (now : Nat) : Decidable (course.TimelyUntil now) :=
  inferInstanceAs (Decidable (_ ∧ _))

variable {course : Course} {m : Moment} {now : Nat}

theorem calls_concat : calls (course ++ [m]) = course.calls ++ m.calls := by
  simp [calls]

/-- What comes last is done after all the rest. -/
theorem TimelyUntil.of_concat (h : TimelyUntil (course ++ [m]) now) :
    course.TimelyUntil m.time ∧ m.time ≤ now := by
  obtain ⟨hsorted, hnow⟩ := h
  obtain ⟨hcourse, -, hlast⟩ := List.pairwise_append.mp hsorted
  exact ⟨⟨hcourse, fun n hn => hlast n hn m (List.mem_singleton_self m)⟩, hnow m (by simp)⟩

end Course

/-- The usage after an act, and what listeners hear of it. -/
def act (u : Usage) (m : Moment) : Usage × List Hearing :=
  match m.act with
  | .record => u.record m.time
  | .query => ((u.query m.time).2, [])
  | .tick => u.tick m.time
  | .subscribe => (u.subscribe.1, [])
  | .unsubscribe id => ((u.unsubscribe id).1, [])

/-- The usage after a course of acts. -/
def run (u : Usage) (course : Course) : Usage := course.foldl (fun u m => (u.act m).1) u

theorem run_append (u : Usage) (course later : Course) :
    u.run (course ++ later) = (u.run course).run later := List.foldl_append

theorem run_concat (u : Usage) (course : Course) (m : Moment) :
    u.run (course ++ [m]) = ((u.run course).act m).1 := u.run_append course [m]

/-! ## The calls that are held -/

variable {u : Usage} {made : List Nat} {now : Nat}

/-- The times of the calls in batches, the oldest first. -/
def timesOf (bs : List CallBatch) : List Nat :=
  bs.reverse.flatMap fun b => List.replicate b.count b.time

/-- The times of the calls that are held, the oldest first. -/
def times (u : Usage) : List Nat := timesOf u.calls

private theorem timesOf_cons (b : CallBatch) (bs : List CallBatch) :
    timesOf (b :: bs) = timesOf bs ++ List.replicate b.count b.time := by
  simp [timesOf]

private theorem timesOf_append (bs old : List CallBatch) :
    timesOf (bs ++ old) = timesOf old ++ timesOf bs := by
  simp [timesOf]

private theorem mem_timesOf {bs : List CallBatch} {t : Nat} (h : t ∈ timesOf bs) :
    ∃ b ∈ bs, b.time = t := by
  obtain ⟨b, hb, ht⟩ := List.mem_flatMap.mp h
  exact ⟨b, List.mem_reverse.mp hb, (List.eq_of_mem_replicate ht).symm⟩

/-- As many calls are held as there are times of them. -/
theorem held_eq_length_times (u : Usage) : u.held = u.times.length := by
  unfold held times
  induction u.calls with
  | nil => rfl
  | cons b bs ih =>
    rw [List.foldr_cons, timesOf_cons, List.length_append, List.length_replicate, ih,
      Nat.add_comm]

/-- One more call is the latest of all. -/
private theorem timesOf_addCall (now : Nat) (bs : List CallBatch) :
    timesOf (addCall now bs) = timesOf bs ++ [now] := by
  cases bs with
  | nil => rfl
  | cons b bs =>
    simp only [addCall]
    split
    · next h =>
      rw [timesOf_cons, timesOf_cons, h, List.replicate_succ', List.append_assoc]
    · rw [timesOf_cons]
      rfl

/-- One more call joins the latest batch or is the first of one. -/
private theorem time_addCall (now : Nat) (bs : List CallBatch) :
    (addCall now bs).map CallBatch.time = bs.map CallBatch.time ∨
      (addCall now bs).map CallBatch.time = now :: bs.map CallBatch.time := by
  cases bs with
  | nil => exact .inr rfl
  | cons b bs =>
    simp only [addCall]
    split
    · next h =>
      left
      rw [List.map_cons, List.map_cons, h]
    · exact .inr rfl

/-- Of batches in order those that are dropped are out of the window. -/
private theorem outdated_of_mem_dropWhile {bs : List CallBatch}
    (h : (bs.map CallBatch.time).Pairwise (· ≥ ·)) {b : CallBatch}
    (hb : b ∈ bs.dropWhile fun b => u.inWindow now b.time) : u.window ≤ now - b.time := by
  induction bs with
  | nil => cases hb
  | cons first bs ih =>
    obtain ⟨hfirst, hbs⟩ := List.pairwise_cons.mp h
    rw [List.dropWhile_cons] at hb
    split at hb
    · exact ih hbs hb
    · next hout =>
      have hout : u.window ≤ now - first.time := by simpa [inWindow] using hout
      rcases List.mem_cons.mp hb with rfl | hb
      · exact hout
      · have hle : b.time ≤ first.time := hfirst _ (List.mem_map_of_mem hb)
        omega

/-- Calls are dropped from the oldest one on. -/
private theorem exists_times_eq_append_prune (u : Usage) (now : Nat) :
    ∃ outdated, u.times = outdated ++ (u.prune now).times ∧
      ((u.calls.map CallBatch.time).Pairwise (· ≥ ·) → ∀ t ∈ outdated, u.window ≤ now - t) := by
  refine ⟨timesOf (u.calls.dropWhile fun b => u.inWindow now b.time), ?_, fun h t ht => ?_⟩
  · rw [times, times, ← timesOf_append]
    exact congrArg timesOf List.takeWhile_append_dropWhile.symm
  · obtain ⟨b, hb, rfl⟩ := mem_timesOf ht
    exact outdated_of_mem_dropWhile h hb

/-- The calls that stay are all in the window. -/
private theorem inWindow_of_mem_times_prune {now t : Nat} (h : t ∈ (u.prune now).times) :
    u.inWindow now t = true := by
  obtain ⟨b, hb, rfl⟩ := mem_timesOf h
  exact List.all_eq_true.mp List.all_takeWhile b hb

/-- Of calls in order one may as well drop the oldest as long as it is out of the window. -/
theorem times_prune (h : (u.calls.map CallBatch.time).Pairwise (· ≥ ·)) (now : Nat) :
    (u.prune now).times = u.times.dropWhile fun t => !u.inWindow now t := by
  obtain ⟨outdated, hsplit, hout⟩ := u.exists_times_eq_append_prune now
  have hdropped : ∀ t ∈ outdated, (!u.inWindow now t) = true := fun t ht => by
    simpa [inWindow] using hout h t ht
  rw [hsplit, List.dropWhile_append_of_pos hdropped]
  cases htimes : (u.prune now).times with
  | nil => rfl
  | cons t times =>
    have hin : u.inWindow now t = true :=
      inWindow_of_mem_times_prune (htimes ▸ List.mem_cons_self ..)
    rw [List.dropWhile_cons_of_neg (by rw [hin]; decide)]

/-- Nobody is held who was not held before. -/
theorem held_prune_le (u : Usage) (now : Nat) : (u.prune now).held ≤ u.held := by
  obtain ⟨outdated, hsplit, -⟩ := u.exists_times_eq_append_prune now
  rw [held_eq_length_times, held_eq_length_times, hsplit, List.length_append]
  exact Nat.le_add_left ..

/-- The calls that are held stand in order, none of them is later than now, and of the calls that
were made the others are the first ones and out of the window. -/
structure Holds (u : Usage) (made : List Nat) (now : Nat) : Prop where
  latestFirst : (u.calls.map CallBatch.time).Pairwise (· ≥ ·)
  past : ∀ t ∈ u.calls.map CallBatch.time, t ≤ now
  dropped : ∃ old, made = old ++ u.times ∧ ∀ t ∈ old, u.window ≤ now - t

namespace Holds

/-- What is out of the window stays out of it. -/
private theorem later (h : u.Holds made now) {now' : Nat} (hle : now ≤ now') :
    u.Holds made now' := by
  obtain ⟨old, hmade, hold⟩ := h.dropped
  refine ⟨h.latestFirst, fun t ht => Nat.le_trans (h.past t ht) hle, old, hmade, fun t ht => ?_⟩
  have hout := hold t ht
  omega

/-- Only calls that are out of the window are dropped. -/
private theorem prune (h : u.Holds made now) : (u.prune now).Holds made now := by
  have hsub : ((u.prune now).calls.map CallBatch.time).Sublist (u.calls.map CallBatch.time) :=
    (List.takeWhile_sublist _).map _
  obtain ⟨old, hmade, hold⟩ := h.dropped
  obtain ⟨outdated, hsplit, houtdated⟩ := u.exists_times_eq_append_prune now
  refine ⟨h.latestFirst.sublist hsub, fun t ht => h.past t (hsub.subset ht), old ++ outdated,
    by rw [hmade, hsplit, List.append_assoc], fun t ht => ?_⟩
  rcases List.mem_append.mp ht with ht | ht
  · exact hold t ht
  · exact houtdated h.latestFirst t ht

/-- A call that is made now comes after all others. -/
private theorem addCall (h : u.Holds made now) :
    Holds { u with calls := Usage.addCall now u.calls } (made ++ [now]) now := by
  obtain ⟨old, hmade, hold⟩ := h.dropped
  refine ⟨?_, ?_, old, ?_, hold⟩
  · rcases time_addCall now u.calls with htimes | htimes
    · rw [htimes]
      exact h.latestFirst
    · rw [htimes]
      exact List.pairwise_cons.mpr ⟨h.past, h.latestFirst⟩
  · rcases time_addCall now u.calls with htimes | htimes
    · rw [htimes]
      exact h.past
    · rw [htimes]
      exact List.forall_mem_cons.mpr ⟨Nat.le_refl now, h.past⟩
  · rw [times, timesOf_addCall, hmade, List.append_assoc]
    rfl

/-- Who listens makes no difference. -/
private theorem of_listeners (h : u.Holds made now) (listeners : List Nat) (nextListener : Nat) :
    Holds { u with listeners, nextListener } made now := ⟨h.latestFirst, h.past, h.dropped⟩

/-- What is held after somebody has looked are the calls within the window. -/
theorem held_prune (h : u.Holds made now) :
    (u.prune now).held = made.countP fun t => now - t < u.window := by
  obtain ⟨old, hmade, hold⟩ := h.prune.dropped
  have hnone : old.countP (fun t => now - t < u.window) = 0 := by
    rw [List.countP_eq_zero]
    intro t ht
    have hout : u.window ≤ now - t := hold t ht
    simpa using hout
  have hall : (u.prune now).times.countP (fun t => now - t < u.window) =
      (u.prune now).times.length := by
    rw [List.countP_eq_length]
    exact fun t ht => inWindow_of_mem_times_prune ht
  rw [hmade, List.countP_append, hnone, hall, Nat.zero_add, held_eq_length_times]

end Holds

/-! ## Courses of acts -/

/-- The task drops calls and tells of it, or it finds none to drop. -/
theorem tick_cases (u : Usage) (now : Nat) :
    u.tick now = (u.prune now, (u.prune now).announce) ∨
      u.tick now = (u, []) ∧ (u.prune now).held = u.held := by
  unfold tick
  dsimp only
  split
  · next h => exact .inr ⟨rfl, h⟩
  · exact .inl rfl

/-- An act adds the call that it records, and drops only what is out of the window. -/
theorem Holds.act {m : Moment} (h : u.Holds made m.time) :
    (u.act m).1.Holds (made ++ m.calls) m.time := by
  obtain ⟨time, a⟩ := m
  cases a with
  | record => exact h.addCall.prune
  | query =>
    rw [Moment.calls_of_ne (by simp), List.append_nil]
    exact h.prune
  | tick =>
    rw [Moment.calls_of_ne (by simp), List.append_nil, Usage.act]
    rcases u.tick_cases time with htick | ⟨htick, -⟩
    · rw [htick]
      exact h.prune
    · rw [htick]
      exact h
  | subscribe =>
    rw [Moment.calls_of_ne (by simp), List.append_nil]
    exact h.of_listeners _ _
  | unsubscribe id =>
    rw [Moment.calls_of_ne (by simp), List.append_nil]
    exact h.of_listeners _ _

theorem window_act (u : Usage) (m : Moment) :
    (u.act m).1.window = u.window ∧ (u.act m).1.limit = u.limit := by
  obtain ⟨time, a⟩ := m
  cases a with
  | tick =>
    rw [act]
    rcases u.tick_cases time with htick | ⟨htick, -⟩
    · rw [htick]
      exact ⟨rfl, rfl⟩
    · rw [htick]
      exact ⟨rfl, rfl⟩
  | _ => exact ⟨rfl, rfl⟩

theorem window_run (u : Usage) (course : Course) :
    (u.run course).window = u.window ∧ (u.run course).limit = u.limit := by
  induction course using List.reverseRecOn with
  | nil => exact ⟨rfl, rfl⟩
  | append_singleton course m ih =>
    rw [run_concat]
    obtain ⟨hwindow, hlimit⟩ := (u.run course).window_act m
    exact ⟨hwindow.trans ih.1, hlimit.trans ih.2⟩

/-- A course of acts at times in order keeps to the calls that it records. -/
theorem holds_run (limit window : Nat) {course : Course} (h : course.TimelyUntil now) :
    ((empty limit window).run course).Holds course.calls now := by
  induction course using List.reverseRecOn generalizing now with
  | nil => exact ⟨.nil, List.forall_mem_nil _, [], rfl, List.forall_mem_nil _⟩
  | append_singleton course m ih =>
    obtain ⟨hcourse, hnow⟩ := h.of_concat
    rw [run_concat, Course.calls_concat]
    exact (ih hcourse).act.later hnow

/-- Whoever asks is told how many calls were made within the window, and what they leave of the
limit. When calls were made is all that matters; who asked before does not. -/
theorem query_run (limit window : Nat) {course : Course} {now : Nat}
    (h : course.TimelyUntil now) :
    let answer := (((empty limit window).run course).query now).1
    answer.used = course.calls.countP (fun t => now - t < window) ∧ answer.limit = limit ∧
      (answer.remaining : Int) = max 0 ((limit : Int) - answer.used) ∧
      ∀ other : Course, other.TimelyUntil now → other.calls.Perm course.calls →
        (((empty limit window).run other).query now).1 = answer := by
  have hused : ∀ {course : Course}, course.TimelyUntil now →
      (((empty limit window).run course).query now).1 =
        ⟨course.calls.countP fun t => now - t < window, limit⟩ := by
    intro course h
    obtain ⟨hwindow, hlimit⟩ := (empty limit window).window_run course
    have hheld := (holds_run limit window h).held_prune
    rw [hwindow] at hheld
    exact (Snapshot.mk.injEq ..).mpr ⟨hheld, hlimit⟩
  rw [hused h]
  refine ⟨rfl, rfl, ?_, fun other hother hcalls => ?_⟩
  · simp only [Snapshot.remaining]
    omega
  · rw [hused hother, hcalls.countP_eq]

/-- Of four calls one has just left the window when somebody asks, and the two that were made at one
time are still within it. -/
theorem query_run_four :
    let course : Course := [⟨0, .record⟩, ⟨30, .record⟩, ⟨60, .query⟩, ⟨60, .record⟩,
      ⟨60, .record⟩, ⟨89, .tick⟩]
    let answer := (((empty 1 60).run course).query 90).1
    course.TimelyUntil 90 ∧ course.calls = [0, 30, 60, 60] ∧ answer.used = 2 ∧
      answer.remaining = 0 := by
  intro course answer
  have h : course.TimelyUntil 90 := by decide
  obtain ⟨hused, -, hremaining, -⟩ := query_run 1 60 h
  have htwo : answer.used = 2 := hused
  refine ⟨h, rfl, htwo, ?_⟩
  have hnone : (answer.remaining : Int) = max 0 (((1 : Nat) : Int) - answer.used) := hremaining
  omega

end Tabletop.Usage
