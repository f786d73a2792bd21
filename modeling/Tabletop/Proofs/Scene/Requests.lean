import Tabletop.Scene.Studio

/-!
# Requests of the studio

Time that passes resolves requests and begins work on them, but asks for no picture.
-/

namespace Tabletop.Studio

variable {σ : Type} {paint : String → StateM σ (Nat × Option String)}

private theorem issued_resolve (s : Studio) (k : Sketch) :
    (s.resolve k).board.issued = s.board.issued := by
  unfold resolve Board.resolve
  cases k.image with
  | none => rfl
  | some image =>
    simp only
    split <;> rfl

private theorem issued_foldl_resolve (s : Studio) (ks : List Sketch) :
    (ks.foldl resolve s).board.issued = s.board.issued := by
  induction ks generalizing s with
  | nil => rfl
  | cons k ks ih => rw [List.foldl_cons, ih, issued_resolve]

private theorem issued_settle (s : Studio) (isReady : Nat → Bool) :
    (s.settle isReady).board.issued = s.board.issued := issued_foldl_resolve _ _

private theorem issued_beginOne (s : Studio) (r : Nat × String) (w : σ) :
    ((s.beginOne paint r).run w).1.board.issued = s.board.issued := by
  simp only [beginOne, StateT.run_bind, StateT.run_pure]
  show (if ((paint r.2).run w).1.1 = 0 then _ else _ : Studio).board.issued = _
  split
  · rw [issued_resolve]
    rfl
  · rfl

private theorem issued_foldlM (s : Studio) (rs : List (Nat × String)) (w : σ) :
    ((rs.foldlM (beginOne paint) s).run w).1.board.issued = s.board.issued := by
  induction rs generalizing s w with
  | nil => rfl
  | cons r rs ih =>
    rw [List.foldlM_cons, StateT.run_bind]
    exact (ih _ _).trans (issued_beginOne s r w)

private theorem issued_pause (s : Studio) (w : σ) :
    ((s.pause paint).run w).1.board.issued = s.board.issued :=
  (issued_foldlM _ _ w).trans (issued_settle s _)

/-- Nothing is asked for while time passes. -/
theorem issued_wait (s : Studio) (ms : Nat) (w : σ) :
    ((s.wait paint ms).run w).1.board.issued = s.board.issued := by
  unfold wait
  split
  · rfl
  · rw [StateT.run_bind]
    exact (issued_settle _ _).trans (issued_pause s w)

end Tabletop.Studio
