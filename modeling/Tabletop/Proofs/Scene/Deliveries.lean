import Tabletop.Proofs.Scene.Races
import Tabletop.Scene.Studio

/-!
# What a studio owes

A studio owes a picture, or word of its failure, for every request from when it is issued, and
resolves the request once. Whatever the painter does and however long it takes, the board is one
after a race of its requests, and it waits exactly while the studio has work to do.
-/

namespace Tabletop

/-! ## Boards with requests in hand -/

/-- A board after a race of its requests, of which those listed are unresolved. -/
def Board.Owes (discardStale : Bool) (b : Board) (ids : List Nat) : Prop :=
  ∃ hs : History, hs.Race ∧ b = (Board.empty discardStale).run hs ∧ ids.Nodup ∧
    ∀ id, id ∈ ids ↔ hs.Unresolved id

namespace Board.Owes

variable {discardStale : Bool} {b : Board} {id : Nat} {ids : List Nat}

private theorem start (discardStale : Bool) : (Board.empty discardStale).Owes discardStale [] := by
  refine ⟨[], .start, rfl, List.nodup_nil, fun id => ⟨fun hid => absurd hid List.not_mem_nil, ?_⟩⟩
  rintro ⟨hpos, hissued, -⟩
  have hnone : id ≤ 0 := hissued
  omega

private theorem perm {ids' : List Nat} (h : b.Owes discardStale ids) (hp : ids.Perm ids') :
    b.Owes discardStale ids' := by
  obtain ⟨hs, hr, hb, hnodup, hopen⟩ := h
  exact ⟨hs, hr, hb, hp.nodup_iff.mp hnodup, fun id => hp.mem_iff.symm.trans (hopen id)⟩

/-- A request that is issued is owed. -/
private theorem issue (h : b.Owes discardStale ids) :
    b.issue.1.Owes discardStale (b.issue.2 :: ids) := by
  obtain ⟨hs, hr, rfl, hnodup, hopen⟩ := h
  have hid : ((Board.empty discardStale).run hs).issue.2 = hs.requests + 1 :=
    congrArg (· + 1) (Board.follows_run hr discardStale).issued
  rw [hid]
  refine ⟨hs ++ [.issued], hr.issue, (Board.run_issue _ hs).symm, ?_, fun id => ?_⟩
  · refine List.nodup_cons.mpr ⟨fun hmem => ?_, hnodup⟩
    have hle := ((hopen _).mp hmem).issued
    omega
  · rw [List.mem_cons, hopen, hr.unresolved_issue_iff]

/-- A request that is resolved is owed no longer. -/
private theorem resolve (h : b.Owes discardStale (id :: ids)) (image : Option SceneImage) :
    (b.resolve id image).1.Owes discardStale ids := by
  obtain ⟨hs, hr, rfl, hnodup, hopen⟩ := h
  obtain ⟨hnew, hnodup⟩ := List.nodup_cons.mp hnodup
  refine ⟨hs ++ [.resolved id image], hr.resolve image ((hopen id).mp List.mem_cons_self),
    (Board.run_resolve _ hs id image).symm, hnodup, fun other => ?_⟩
  rw [History.unresolved_resolve_iff, ← hopen, List.mem_cons]
  constructor
  · intro hmem
    refine ⟨.inr hmem, ?_⟩
    rintro rfl
    exact hnew hmem
  · rintro ⟨hmem, hne⟩
    exact hmem.resolve_left hne

/-- A board waits while anything is owed. -/
private theorem isGenerating_iff (h : b.Owes discardStale ids) :
    b.isGenerating = true ↔ ids ≠ [] := by
  obtain ⟨hs, hr, rfl, -, hopen⟩ := h
  rw [(Board.follows_run hr discardStale).isGenerating_iff hr]
  constructor
  · rintro ⟨id, hid⟩
    exact List.ne_nil_of_mem ((hopen id).mpr hid)
  · intro hne
    obtain ⟨id, hid⟩ := List.exists_mem_of_ne_nil ids hne
    exact ⟨id, (hopen id).mp hid⟩

end Board.Owes

/-! ## Studios -/

namespace Studio

variable {σ : Type} {paint : String → StateM σ (Nat × Option String)} {discardStale : Bool}
  {s : Studio}

/-- The requests that a studio has to resolve. -/
def owed (s : Studio) : List Nat := s.waiting.map Prod.fst ++ s.sketches.map Sketch.id

private theorem owes_request (h : s.board.Owes discardStale s.owed) (description : String) :
    (s.request description).board.Owes discardStale (s.request description).owed := by
  refine h.issue.perm ?_
  simp only [owed, request, List.map_append, List.map_cons, List.map_nil, List.append_assoc]
  exact List.perm_middle.symm

private theorem owes_foldl_resolve {ks : List Sketch}
    (h : s.board.Owes discardStale (ks.map Sketch.id ++ s.owed)) :
    (ks.foldl resolve s).board.Owes discardStale (ks.foldl resolve s).owed := by
  induction ks generalizing s with
  | nil => exact h
  | cons k ks ih => exact ih (Board.Owes.resolve h k.image)

private theorem owes_settle (h : s.board.Owes discardStale s.owed) (isReady : Nat → Bool) :
    (s.settle isReady).board.Owes discardStale (s.settle isReady).owed := by
  rw [settle, List.partition_eq_filter_filter]
  apply owes_foldl_resolve
  refine h.perm ?_
  have hsorted := List.mergeSort_perm (s.sketches.filter fun k => isReady k.due)
    fun a b => decide (a.due ≤ b.due)
  have hparted := List.filter_append_perm (fun k : Sketch => isReady k.due) s.sketches
  have hall := ((hsorted.append_right _).trans hparted).map Sketch.id
  rw [List.map_append] at hall
  exact (hall.symm.append_left _).trans (List.perm_append_comm_assoc _ _ _)

/-- Work on a request begins, with others waiting. -/
private theorem owes_beginOne {r : Nat × String} {more : List Nat}
    (h : s.board.Owes discardStale (r.1 :: (more ++ s.owed))) (w : σ) :
    ((s.beginOne paint r).run w).1.board.Owes discardStale
      (more ++ ((s.beginOne paint r).run w).1.owed) := by
  simp only [beginOne, StateT.run_bind, StateT.run_pure]
  let taken := ((paint r.2).run w).1
  let sketch : Sketch := ⟨r.1, s.now + taken.1, taken.2.map fun url => ⟨r.2, url⟩⟩
  show (if taken.1 = 0 then s.recordCall.resolve sketch
    else { s.recordCall with sketches := s.sketches ++ [sketch] } : Studio).board.Owes _
      (more ++ (if taken.1 = 0 then s.recordCall.resolve sketch
    else { s.recordCall with sketches := s.sketches ++ [sketch] } : Studio).owed)
  split
  · exact h.resolve sketch.image
  · refine h.perm ((List.perm_append_singleton r.1 (more ++ s.owed)).symm.trans (.of_eq ?_))
    simp [owed, recordCall, sketch]

private theorem owes_foldlM {rs : List (Nat × String)}
    (h : s.board.Owes discardStale (rs.map Prod.fst ++ s.owed)) (w : σ) :
    ((rs.foldlM (beginOne paint) s).run w).1.board.Owes discardStale
      ((rs.foldlM (beginOne paint) s).run w).1.owed := by
  induction rs generalizing s w with
  | nil => exact h
  | cons r rs ih =>
    rw [List.foldlM_cons, StateT.run_bind]
    exact ih (owes_beginOne h w) _

private theorem owes_pause (h : s.board.Owes discardStale s.owed) (w : σ) :
    ((s.pause paint).run w).1.board.Owes discardStale ((s.pause paint).run w).1.owed :=
  owes_foldlM (owes_settle h _) w

private theorem owes_wait (h : s.board.Owes discardStale s.owed) (ms : Nat) (w : σ) :
    ((s.wait paint ms).run w).1.board.Owes discardStale ((s.wait paint ms).run w).1.owed := by
  unfold wait
  split
  · exact h
  · rw [StateT.run_bind]
    exact owes_settle (owes_pause h w) _

private theorem owes_await (h : s.board.Owes discardStale s.owed) (id : Nat) (w : σ) :
    ((s.await paint id).run w).1.1.board.Owes discardStale ((s.await paint id).run w).1.1.owed := by
  unfold await
  split
  · exact h
  · rw [StateT.run_bind]
    have hpaused : ((s.pause paint).run w).1.board.Owes discardStale
        ((s.pause paint).run w).1.owed := owes_pause h w
    dsimp only [bind]
    split
    · exact hpaused
    · exact owes_settle hpaused _

/-! ## Demands -/

/-- What can be asked of a studio. -/
inductive Demand where
  | request (description : String)
  | recordCall
  | pause
  | wait (ms : Nat)
  | await (id : Nat)
  deriving DecidableEq, Repr

/-- A studio after it has met a demand. -/
def meet (paint : String → StateM σ (Nat × Option String)) (s : Studio) : Demand → StateM σ Studio
  | .request description => pure (s.request description)
  | .recordCall => pure s.recordCall
  | .pause => s.pause paint
  | .wait ms => s.wait paint ms
  | .await id => Prod.fst <$> s.await paint id

private theorem owes_meet (h : s.board.Owes discardStale s.owed) (demand : Demand) (w : σ) :
    ((s.meet paint demand).run w).1.board.Owes discardStale
      ((s.meet paint demand).run w).1.owed := by
  cases demand with
  | request description => exact owes_request h description
  | recordCall => exact h
  | pause => exact owes_pause h w
  | wait ms => exact owes_wait h ms w
  | await id => exact owes_await h id w

private theorem owes_foldlM_meet (h : s.board.Owes discardStale s.owed) (demands : List Demand)
    (w : σ) : ((demands.foldlM (meet paint) s).run w).1.board.Owes discardStale
      ((demands.foldlM (meet paint) s).run w).1.owed := by
  induction demands generalizing s w with
  | nil => exact h
  | cons demand demands ih =>
    rw [List.foldlM_cons, StateT.run_bind]
    exact ih (owes_meet h demand w) _

/-- Whatever is asked of a studio, and however the painter works, the board is one after a race in
which every request is resolved at most once, and it waits exactly while there are requests on which
work has not begun or is not done. -/
theorem isGenerating_meet (paint : String → StateM σ (Nat × Option String)) (discardStale : Bool)
    (usage : Usage) (demands : List Demand) (w : σ) :
    let s := ((demands.foldlM (meet paint) (start discardStale usage)).run w).1
    (∃ hs : History, hs.Race ∧ s.board = (Board.empty discardStale).run hs) ∧
      (s.board.isGenerating = true ↔ s.waiting ≠ [] ∨ s.sketches ≠ []) := by
  intro s
  have howes : s.board.Owes discardStale s.owed :=
    owes_foldlM_meet (Board.Owes.start discardStale) demands w
  constructor
  · obtain ⟨hs, hr, hb, -⟩ := howes
    exact ⟨hs, hr, hb⟩
  · rw [howes.isGenerating_iff, owed, ne_eq, List.append_eq_nil_iff, List.map_eq_nil_iff,
      List.map_eq_nil_iff, not_and_or]

end Studio

end Tabletop
