import Mathlib.Data.List.Perm.Subperm
import Tabletop.Scene.Board

/-!
# Requests that race

Requests for pictures are resolved in any order, with a picture or without, while others are issued.
What the board shows, and whether it waits for anything, follows from what has happened to its
requests.
-/

namespace Tabletop

/-- Something that happens to a board. -/
inductive Happening where
  | issued
  | resolved (id : Nat) (image : Option SceneImage)
  deriving DecidableEq, Repr

namespace Happening

/-- A request is issued. -/
def isIssue : Happening → Bool
  | .issued => true
  | .resolved .. => false

/-- The request that is resolved. -/
def id? : Happening → Option Nat
  | .issued => none
  | .resolved id _ => some id

/-- The picture that a request is resolved with, after the request. -/
def picture? : Happening → Option (Nat × SceneImage)
  | .issued => none
  | .resolved id image => image.map (id, ·)

end Happening

/-! ## Histories -/

/-- What has happened to a board, the latest last. -/
abbrev History := List Happening

namespace History

/-- How many requests have been issued. They are numbered from one on. -/
def requests (hs : History) : Nat := hs.countP Happening.isIssue

/-- The requests that have been resolved. -/
def resolved (hs : History) : List Nat := hs.filterMap Happening.id?

/-- The pictures that have come, each after its request. -/
def pictures (hs : History) : List (Nat × SceneImage) := hs.filterMap Happening.picture?

/-- A request has been issued and not resolved. -/
structure Unresolved (hs : History) (id : Nat) : Prop where
  pos : 1 ≤ id
  issued : id ≤ hs.requests
  notResolved : id ∉ hs.resolved

/-- A history in which only requests are resolved that have been issued, and each once. -/
inductive Race : History → Prop
  | start : Race []
  | issue {hs : History} : Race hs → Race (hs ++ [.issued])
  | resolve {hs : History} {id : Nat} (image : Option SceneImage) :
    Race hs → hs.Unresolved id → Race (hs ++ [.resolved id image])

variable {hs : History} {id : Nat} {image : Option SceneImage}

@[simp]
theorem requests_issue : requests (hs ++ [.issued]) = hs.requests + 1 := by
  simp [requests, Happening.isIssue]

@[simp]
theorem requests_resolve : requests (hs ++ [.resolved id image]) = hs.requests := by
  simp [requests, Happening.isIssue]

@[simp]
theorem resolved_issue : resolved (hs ++ [.issued]) = hs.resolved := by
  simp [resolved, Happening.id?]

@[simp]
theorem resolved_resolve : resolved (hs ++ [.resolved id image]) = hs.resolved ++ [id] := by
  simp [resolved, Happening.id?]

@[simp]
theorem pictures_issue : pictures (hs ++ [.issued]) = hs.pictures := by
  simp [pictures, Happening.picture?]

@[simp]
theorem pictures_resolve_none :
    pictures (hs ++ [.resolved id none]) = hs.pictures := by
  simp [pictures, Happening.picture?]

@[simp]
theorem pictures_resolve_some {picture : SceneImage} :
    pictures (hs ++ [.resolved id (some picture)]) = hs.pictures ++ [(id, picture)] := by
  simp [pictures, Happening.picture?]

/-- A picture that has come resolved its request. -/
theorem mem_resolved_of_mem_pictures {p : Nat × SceneImage} (h : p ∈ hs.pictures) :
    p.1 ∈ hs.resolved := by
  obtain ⟨e, he, hp⟩ := List.mem_filterMap.mp h
  cases e with
  | issued => cases hp
  | resolved id image =>
    obtain ⟨picture, -, rfl⟩ := Option.map_eq_some_iff.mp hp
    exact List.mem_filterMap.mpr ⟨_, he, rfl⟩

namespace Race

/-- Only requests that have been issued are resolved. -/
theorem mem_range' (h : Race hs) {id : Nat} (hid : id ∈ hs.resolved) :
    1 ≤ id ∧ id ≤ hs.requests := by
  induction h with
  | start => cases hid
  | issue _ ih =>
    rw [resolved_issue] at hid
    rw [requests_issue]
    have hbounds := ih hid
    omega
  | resolve image _ hopen ih =>
    rw [resolved_resolve] at hid
    rw [requests_resolve]
    rcases List.mem_append.mp hid with hid | hid
    · exact ih hid
    · cases List.mem_singleton.mp hid
      exact ⟨hopen.pos, hopen.issued⟩

private theorem nodup (h : Race hs) : hs.resolved.Nodup := by
  induction h with
  | start => exact List.nodup_nil
  | issue _ ih => rwa [resolved_issue]
  | resolve image _ hopen ih =>
    rw [resolved_resolve]
    refine List.nodup_append.mpr ⟨ih, by simp, ?_⟩
    rintro other hmem _ hid rfl
    rw [List.mem_singleton.mp hid] at hmem
    exact hopen.notResolved hmem

/-- Fewer requests are resolved than issued exactly when some request is unresolved. -/
private theorem length_lt_iff (h : Race hs) :
    hs.resolved.length < hs.requests ↔ ∃ id, hs.Unresolved id := by
  constructor
  · intro hlt
    by_contra hnone
    have hall : List.range' 1 hs.requests ⊆ hs.resolved := by
      intro id hid
      by_contra hmem
      rw [List.mem_range'_1] at hid
      exact hnone ⟨id, hid.1, by omega, hmem⟩
    have hle := (List.subperm_of_subset List.nodup_range' hall).length_le
    rw [List.length_range'] at hle
    omega
  · rintro ⟨id, hopen⟩
    have hall : id :: hs.resolved ⊆ List.range' 1 hs.requests := by
      intro other hmem
      rw [List.mem_range'_1]
      rcases List.mem_cons.mp hmem with rfl | hmem
      · have hpos := hopen.pos
        have hissued := hopen.issued
        omega
      · have hbounds := h.mem_range' hmem
        omega
    have hnodup : (id :: hs.resolved).Nodup := List.nodup_cons.mpr ⟨hopen.notResolved, h.nodup⟩
    have hle := (List.subperm_of_subset hnodup hall).length_le
    rw [List.length_range', List.length_cons] at hle
    exact hle

/-- With a request that is issued there is one more that is unresolved. -/
theorem unresolved_issue_iff (h : Race hs) {id : Nat} :
    Unresolved (hs ++ [.issued]) id ↔ id = hs.requests + 1 ∨ hs.Unresolved id := by
  constructor
  · rintro ⟨hpos, hissued, hopen⟩
    rw [requests_issue] at hissued
    rw [resolved_issue] at hopen
    rcases Nat.eq_or_lt_of_le hissued with heq | hlt
    · exact .inl heq
    · exact .inr ⟨hpos, Nat.le_of_lt_succ hlt, hopen⟩
  · rintro (rfl | hopen)
    · refine ⟨by omega, Nat.le_of_eq requests_issue.symm, fun hmem => ?_⟩
      rw [resolved_issue] at hmem
      have hbounds := h.mem_range' hmem
      omega
    · refine ⟨hopen.pos, ?_, ?_⟩
      · rw [requests_issue]
        exact Nat.le_succ_of_le hopen.issued
      · rw [resolved_issue]
        exact hopen.notResolved

end Race

/-- A request that is resolved is the only one that is unresolved no longer. -/
theorem unresolved_resolve_iff {other : Nat} :
    Unresolved (hs ++ [.resolved id image]) other ↔ hs.Unresolved other ∧ other ≠ id := by
  constructor
  · rintro ⟨hpos, hissued, hopen⟩
    rw [requests_resolve] at hissued
    rw [resolved_resolve, List.mem_append, List.mem_singleton, not_or] at hopen
    exact ⟨⟨hpos, hissued, hopen.1⟩, hopen.2⟩
  · rintro ⟨hopen, hne⟩
    refine ⟨hopen.pos, ?_, ?_⟩
    · rw [requests_resolve]
      exact hopen.issued
    · rw [resolved_resolve, List.mem_append, List.mem_singleton, not_or]
      exact ⟨hopen.notResolved, hne⟩

end History

/-! ## Boards -/

namespace Board

open History (Race Unresolved)

/-- The board after something has happened to it. -/
def after (b : Board) : Happening → Board
  | .issued => b.issue.1
  | .resolved id image => (b.resolve id image).1

/-- The board after a history. -/
def run (b : Board) (hs : History) : Board := hs.foldl after b

/-- A request is resolved with a picture that is shown, or nothing but the count changes. -/
theorem resolve_cases (b : Board) (id : Nat) (image : Option SceneImage) :
    (∃ picture, image = some picture ∧ b.admits id = true ∧
      b.resolve id image =
        ({ b with pending := b.pending - 1, current := some picture, shown := id }, true)) ∨
    (image = none ∨ b.admits id = false) ∧
      b.resolve id image = ({ b with pending := b.pending - 1 }, false) := by
  cases image with
  | none => exact .inr ⟨.inl rfl, rfl⟩
  | some picture =>
    cases hadmits : b.admits id with
    | true => exact .inl ⟨picture, rfl, rfl, if_pos hadmits⟩
    | false => exact .inr ⟨.inr rfl, if_neg (Bool.eq_false_iff.mp hadmits)⟩

theorem run_issue (b : Board) (hs : History) :
    b.run (hs ++ [.issued]) = (b.run hs).issue.1 := by
  rw [run, List.foldl_append]
  rfl

theorem run_resolve (b : Board) (hs : History) (id : Nat) (image : Option SceneImage) :
    b.run (hs ++ [.resolved id image]) = ((b.run hs).resolve id image).1 := by
  rw [run, List.foldl_append]
  rfl

/-- What a board holds goes by what has happened to its requests. -/
structure Follows (b : Board) (hs : History) : Prop where
  issued : b.issued = hs.requests
  pending : b.pending + hs.resolved.length = hs.requests
  current : ∀ picture, b.current = some picture ↔ (b.shown, picture) ∈ hs.pictures
  shown : b.shown = 0 ∨ b.current.isSome
  latest : b.discardStale = false → b.current = hs.pictures.getLast?.map Prod.snd
  newest : b.discardStale = true → ∀ p ∈ hs.pictures, p.1 ≤ b.shown

namespace Follows

variable {b : Board} {hs : History} {id : Nat}

private theorem start (discardStale : Bool) : (Board.empty discardStale).Follows [] where
  issued := rfl
  pending := rfl
  current picture := by simp [Board.empty, History.pictures]
  shown := .inl rfl
  latest _ := rfl
  newest _ p hp := by cases hp

/-- Where no picture comes and none is shown, only the counts change. -/
private theorem of_same {b' : Board} {hs' : History} (h : b.Follows hs)
    (hissued : b'.issued = hs'.requests)
    (hpending : b'.pending + hs'.resolved.length = hs'.requests)
    (hcurrent : b'.current = b.current) (hshown : b'.shown = b.shown)
    (hstale : b'.discardStale = b.discardStale) (hpictures : hs'.pictures = hs.pictures) :
    b'.Follows hs' where
  issued := hissued
  pending := hpending
  current := by
    rw [hcurrent, hshown, hpictures]
    exact h.current
  shown := by
    rw [hcurrent, hshown]
    exact h.shown
  latest := by
    rw [hcurrent, hstale, hpictures]
    exact h.latest
  newest := by
    rw [hshown, hstale, hpictures]
    exact h.newest

private theorem issue (h : b.Follows hs) : b.issue.1.Follows (hs ++ [.issued]) := by
  refine h.of_same ?_ ?_ rfl rfl rfl History.pictures_issue
  · rw [History.requests_issue, ← h.issued]
    rfl
  · have hpending := h.pending
    simp only [Board.issue, History.resolved_issue, History.requests_issue]
    omega

/-- The request whose picture is shown has been resolved. -/
private theorem shown_ne (h : b.Follows hs) (hopen : hs.Unresolved id) : b.shown ≠ id := by
  rintro rfl
  rcases h.shown with hzero | hsome
  · have hpos := hopen.pos
    omega
  · obtain ⟨picture, hp⟩ := Option.isSome_iff_exists.mp hsome
    exact hopen.notResolved (History.mem_resolved_of_mem_pictures ((h.current picture).mp hp))

private theorem issued_resolve (h : b.Follows hs) (image : Option SceneImage) :
    b.issued = History.requests (hs ++ [.resolved id image]) := by
  rw [History.requests_resolve]
  exact h.issued

private theorem pending_resolve (h : b.Follows hs) (hr : hs.Race) (hopen : hs.Unresolved id)
    (image : Option SceneImage) :
    b.pending - 1 + (History.resolved (hs ++ [.resolved id image])).length =
      History.requests (hs ++ [.resolved id image]) := by
  have hpending := h.pending
  have hlt := hr.length_lt_iff.mpr ⟨id, hopen⟩
  rw [History.resolved_resolve, History.requests_resolve, List.length_append,
    List.length_singleton]
  omega

private theorem shows (h : b.Follows hs) (hr : hs.Race) (hopen : hs.Unresolved id)
    (hadmits : b.admits id = true) (picture : SceneImage) :
    Follows { b with pending := b.pending - 1, current := some picture, shown := id }
      (hs ++ [.resolved id (some picture)]) where
  issued := h.issued_resolve _
  pending := h.pending_resolve hr hopen _
  current other := by
    have hnew : (id, other) ∉ hs.pictures := fun hmem =>
      hopen.notResolved (History.mem_resolved_of_mem_pictures hmem)
    simp [hnew, eq_comm]
  shown := .inr rfl
  latest _ := by simp
  newest hstale := by
    have hle : b.shown ≤ id := by
      have hstale : b.discardStale = true := hstale
      simpa [admits, hstale] using hadmits
    rw [History.pictures_resolve_some]
    intro p hp
    rcases List.mem_append.mp hp with hp | hp
    · exact Nat.le_trans (h.newest hstale p hp) hle
    · cases List.mem_singleton.mp hp
      exact Nat.le_refl id

private theorem discards (h : b.Follows hs) (hr : hs.Race) (hopen : hs.Unresolved id)
    (hadmits : b.admits id = false) (picture : SceneImage) :
    Follows { b with pending := b.pending - 1 } (hs ++ [.resolved id (some picture)]) := by
  obtain ⟨hstale, hlt⟩ : b.discardStale = true ∧ id < b.shown := by
    simpa [admits] using hadmits
  refine ⟨h.issued_resolve _, h.pending_resolve hr hopen _, fun other => ?_, h.shown,
    fun hkeep => ?_, fun _ => ?_⟩
  · rw [History.pictures_resolve_some, List.mem_append, List.mem_singleton]
    have hne : (b.shown, other) ≠ (id, picture) := fun heq =>
      h.shown_ne hopen (congrArg Prod.fst heq)
    exact (h.current other).trans (or_iff_left hne).symm
  · rw [hkeep] at hstale
    cases hstale
  · rw [History.pictures_resolve_some]
    intro p hp
    rcases List.mem_append.mp hp with hp | hp
    · exact h.newest hstale p hp
    · cases List.mem_singleton.mp hp
      exact Nat.le_of_lt hlt

/-- A resolved request keeps a board in step with its history. -/
private theorem resolve (h : b.Follows hs) (hr : hs.Race) (hopen : hs.Unresolved id)
    (image : Option SceneImage) :
    (b.resolve id image).1.Follows (hs ++ [.resolved id image]) := by
  rcases b.resolve_cases id image with ⟨picture, rfl, hadmits, heq⟩ | ⟨hkept, heq⟩
  · rw [heq]
    exact h.shows hr hopen hadmits picture
  · rw [heq]
    cases image with
    | none =>
      exact h.of_same (h.issued_resolve _) (h.pending_resolve hr hopen _) rfl rfl rfl
        History.pictures_resolve_none
    | some picture =>
      obtain hnone | hstale := hkept
      · cases hnone
      · exact h.discards hr hopen hstale picture

end Follows

/-- After a history in which every issued request is resolved at most once, what a board holds goes
by that history. -/
theorem follows_run {hs : History} (h : hs.Race) (discardStale : Bool) :
    ((Board.empty discardStale).run hs).Follows hs := by
  induction h with
  | start => exact .start discardStale
  | issue _ ih =>
    rw [run_issue]
    exact ih.issue
  | resolve image hr hopen ih =>
    rw [run_resolve]
    exact ih.resolve hr hopen image

private theorem discardStale_run (b : Board) (hs : History) :
    (b.run hs).discardStale = b.discardStale := by
  induction hs generalizing b with
  | nil => rfl
  | cons e hs ih =>
    refine (ih (b.after e)).trans ?_
    cases e with
    | issued => rfl
    | resolved id image =>
      rcases b.resolve_cases id image with ⟨picture, -, -, heq⟩ | ⟨-, heq⟩
      · rw [after, heq]
      · rw [after, heq]

private theorem shown_le_after {b : Board} (hstale : b.discardStale = true) (e : Happening) :
    b.shown ≤ (b.after e).shown := by
  cases e with
  | issued => exact Nat.le_refl _
  | resolved id image =>
    rcases b.resolve_cases id image with ⟨picture, -, hadmits, heq⟩ | ⟨-, heq⟩
    · rw [after, heq]
      simpa [admits, hstale] using hadmits
    · exact Nat.le_of_eq (by rw [after, heq])

/-- Where stale pictures are discarded, the number of the request that is shown never falls. -/
private theorem shown_le_run {b : Board} (hstale : b.discardStale = true) (later : History) :
    b.shown ≤ (b.run later).shown := by
  induction later generalizing b with
  | nil => exact Nat.le_refl _
  | cons e later ih =>
    have hstale' : (b.after e).discardStale = true := (discardStale_run b [e]).trans hstale
    exact Nat.le_trans (shown_le_after hstale e) (ih hstale')

namespace Follows

variable {b : Board} {hs : History}

/-- A board waits while some request is unresolved. -/
theorem isGenerating_iff (h : b.Follows hs) (hr : hs.Race) :
    b.isGenerating = true ↔ ∃ id, hs.Unresolved id := by
  rw [← hr.length_lt_iff, isGenerating, decide_eq_true_eq]
  have hpending := h.pending
  omega

private theorem current_iff (h : b.Follows hs) (hr : hs.Race) (hstale : b.discardStale = true)
    (picture : SceneImage) :
    b.current = some picture ↔
      ∃ id, (id, picture) ∈ hs.pictures ∧ ∀ p ∈ hs.pictures, p.1 ≤ id := by
  rw [h.current]
  constructor
  · intro hshown
    exact ⟨b.shown, hshown, h.newest hstale⟩
  · rintro ⟨id, hmem, hmax⟩
    have hle : id ≤ b.shown := h.newest hstale _ hmem
    have hpos := (hr.mem_range' (History.mem_resolved_of_mem_pictures hmem)).1
    have hsome : b.current.isSome := h.shown.resolve_left (by omega)
    obtain ⟨other, hother⟩ := Option.isSome_iff_exists.mp hsome
    have hge : b.shown ≤ id := hmax _ ((h.current other).mp hother)
    rwa [Nat.le_antisymm hge hle]

/-- Whoever resolves a request is told whether its picture has come to be shown. -/
private theorem resolve_iff (h : b.Follows hs) {id : Nat} (hopen : hs.Unresolved id)
    (image : Option SceneImage) :
    ((b.resolve id image).2 = true ↔ (b.resolve id image).1.shown = id) ∧
      (b.resolve id image).1.current = if (b.resolve id image).2 then image else b.current := by
  rcases b.resolve_cases id image with ⟨picture, rfl, -, heq⟩ | ⟨-, heq⟩
  · rw [heq]
    exact ⟨iff_of_true rfl rfl, rfl⟩
  · rw [heq]
    exact ⟨iff_of_false Bool.false_ne_true (h.shown_ne hopen), rfl⟩

end Follows

/-- However requests race, the board waits exactly while some request is unresolved, and it shows
the picture of the request that succeeded last or, where stale pictures are discarded, of the one
issued last among those that succeeded. Whoever resolves a request is told whether its picture has
come to be shown, and failures leave what is shown. -/
theorem current_of_race (discardStale : Bool) {hs : History} (h : hs.Race) :
    let b := (Board.empty discardStale).run hs
    b.issue.2 = hs.requests + 1 ∧
    (b.isGenerating = true ↔ ∃ id, hs.Unresolved id) ∧
    (∀ picture, b.current = some picture ↔ (b.shown, picture) ∈ hs.pictures) ∧
    (discardStale = false → b.current = hs.pictures.getLast?.map Prod.snd) ∧
    (discardStale = true →
      (∀ picture, b.current = some picture ↔
        ∃ id, (id, picture) ∈ hs.pictures ∧ ∀ p ∈ hs.pictures, p.1 ≤ id) ∧
      ∀ later, b.shown ≤ (b.run later).shown) ∧
    ∀ id image, hs.Unresolved id →
      let (resolved, isShown) := b.resolve id image
      b.shown ≠ id ∧ (isShown = true ↔ resolved.shown = id) ∧
        resolved.current = (if isShown then image else b.current) ∧
        (image = none → resolved.current = b.current) := by
  intro b
  have hb : b.Follows hs := follows_run h discardStale
  have hdiscard : b.discardStale = discardStale := discardStale_run _ hs
  refine ⟨congrArg (· + 1) hb.issued, hb.isGenerating_iff h, hb.current,
    fun hkeep => hb.latest (hdiscard.trans hkeep), fun hstale => ?_, fun id image hopen => ?_⟩
  · have hstale := hdiscard.trans hstale
    exact ⟨hb.current_iff h hstale, shown_le_run hstale⟩
  · obtain ⟨htold, hcurrent⟩ := hb.resolve_iff hopen image
    refine ⟨hb.shown_ne hopen, htold, hcurrent, fun hnone => ?_⟩
    cases hnone
    rfl

/-- Of four requests the second is resolved before the first, the third fails and the last is under
way. A board that discards stale pictures keeps the second picture, and any other shows the
first. -/
theorem current_of_race_four :
    let old : SceneImage := ⟨"A gate", "old"⟩
    let new : SceneImage := ⟨"A hall", "new"⟩
    let hs : History := [.issued, .issued, .resolved 2 (some new), .issued, .resolved 1 (some old),
      .resolved 3 none, .issued]
    hs.Race ∧ ((empty true).run hs).isGenerating = true ∧
      ((empty true).run hs).current = some new ∧ ((empty false).run hs).current = some old := by
  intro old new hs
  have hrace : hs.Race := by
    have hissued : Race [.issued, .issued] := Race.start.issue.issue
    have hsecond := hissued.resolve (some new)
      (⟨by decide, by decide, by decide⟩ : Unresolved _ 2)
    have hfirst := hsecond.issue.resolve (some old)
      (⟨by decide, by decide, by decide⟩ : Unresolved _ 1)
    have hthird := hfirst.resolve none (⟨by decide, by decide, by decide⟩ : Unresolved _ 3)
    exact hthird.issue
  obtain ⟨-, hgenerating, -, -, hstale, -⟩ := current_of_race true hrace
  obtain ⟨-, -, -, hlatest, -⟩ := current_of_race false hrace
  refine ⟨hrace, hgenerating.mpr ⟨4, by decide, by decide, by decide⟩, ?_, hlatest rfl⟩
  exact ((hstale rfl).1 new).mpr ⟨2, by decide, by decide⟩

end Board

end Tabletop
