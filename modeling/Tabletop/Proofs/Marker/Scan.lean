import Tabletop.Marker.Reply
import Tabletop.Proofs.Marker.Opening

/-!
# The scan of a reply

`FallsInto` says which pieces a text falls into, one piece at a time: a marker where one stands,
and else a character of prose. The scan passes over openings that begin no marker without looking at
them again; `fallsInto_pieces` says that nothing is missed by that.
-/

namespace Tabletop.Reply

open Grammar (Marker markerAt? markerOf? openingAt?)

/-! ## Markers in a text -/

/-- The character before what follows a text that has one, or none, before it. -/
def lastOf (before : Option Char) (cs : List Char) : Option Char := cs.getLast?.or before

/-- What follows a first character has its last one before it. -/
theorem lastOf_cons (before : Option Char) (c : Char) (cs : List Char) :
    lastOf before (c :: cs) = lastOf (some c) cs := by
  cases h : cs.getLast? <;> simp [lastOf, List.getLast?_cons, h]

/-- Of two texts the last character counts. -/
theorem lastOf_append (before : Option Char) (cs ds : List Char) :
    lastOf before (cs ++ ds) = lastOf (lastOf before cs) ds := by
  simp [lastOf, List.getLast?_append, Option.or_assoc]

/-- A marker found at the start of a text is the start of that text. -/
theorem exists_eq_source_append {k : Keyword} {cs : List Char} {m : Marker}
    (h : markerOf? k cs = some m) : ∃ rest, cs = m.source ++ rest := by
  obtain ⟨r, hr, h⟩ := Option.bind_eq_some_iff.mp h
  obtain ⟨d, -, he⟩ := Option.bind_eq_some_iff.mp h
  cases he
  exact ⟨r.rest, (Pattern.text_append_rest hr).symm⟩

private theorem matchStart_pattern_ne_nil {k : Keyword} {cs : List Char} {m : Pattern.Match}
    (h : (Grammar.pattern k).matchStart cs = some m) : m.text ≠ [] := by
  have hfirst : ∃ p a b, Grammar.pattern k = .seq (.seq (.one p) a) b := by
    cases k <;> exact ⟨_, _, _, rfl⟩
  obtain ⟨p, a, b, hp⟩ := hfirst
  rw [hp] at h
  obtain ⟨m₁, m₂, h₁, -, rfl⟩ := Pattern.matchStart_seq_eq_some_iff.mp h
  obtain ⟨m₃, m₄, h₃, -, rfl⟩ := Pattern.matchStart_seq_eq_some_iff.mp h₁
  obtain ⟨c, -, -, he⟩ := Pattern.matchStart_one_eq_some_iff.mp h₃
  rw [he]
  simp

/-- A marker has characters. -/
theorem source_ne_nil {k : Keyword} {cs : List Char} {m : Marker} (h : markerOf? k cs = some m) :
    m.source ≠ [] := by
  obtain ⟨r, hr, h⟩ := Option.bind_eq_some_iff.mp h
  obtain ⟨d, -, he⟩ := Option.bind_eq_some_iff.mp h
  cases he
  exact matchStart_pattern_ne_nil hr

/-! ## Pieces one at a time -/

/-- A text after `before` falls into pieces. -/
inductive FallsInto : Option Char → List Char → List Piece → Prop
  | done {before : Option Char} : FallsInto before [] []
  | prose {before : Option Char} {c : Char} {cs : List Char} {ps : List Piece} :
    markerAt? before (c :: cs) = none → FallsInto (some c) cs ps →
      FallsInto before (c :: cs) (.prose c :: ps)
  | marker {before : Option Char} {m : Marker} {rest : List Char} {ps : List Piece} :
    m.source ≠ [] → markerAt? before (m.source ++ rest) = some m →
      FallsInto (lastOf before m.source) rest ps →
        FallsInto before (m.source ++ rest) (.marker m :: ps)

/-- A text falls into pieces in one way only. -/
theorem FallsInto.unique {before : Option Char} {cs : List Char} {ps qs : List Piece}
    (hp : FallsInto before cs ps) (hq : FallsInto before cs qs) : ps = qs := by
  induction hp generalizing qs with
  | done =>
    generalize he : ([] : List Char) = cs at hq
    cases hq with
    | done => rfl
    | prose => cases he
    | marker hne => exact absurd (List.append_eq_nil_iff.mp he.symm).1 hne
  | @prose before c cs ps hn _ ih =>
    generalize he : c :: cs = ds at hq
    cases hq with
    | done => cases he
    | prose _ h => cases he; rw [ih h]
    | marker _ hm _ => rw [he, hm] at hn; cases hn
  | @marker before m rest ps hne hm _ ih =>
    generalize he : m.source ++ rest = ds at hq
    cases hq with
    | done => exact absurd (List.append_eq_nil_iff.mp he).1 hne
    | prose hn _ => rw [← he, hm] at hn; cases hn
    | marker _ hm' h =>
      rw [← he, hm] at hm'
      cases hm'
      rw [ih (List.append_cancel_left he ▸ h)]

/-! ## The scan -/

/-- No opening stands at the first places of a text. -/
def Passes (before : Option Char) (n : Nat) (cs : List Char) : Prop :=
  ∀ a b, cs = a ++ b → a.length < n → openingAt? (lastOf before a) b = none

private theorem Passes.tail {before : Option Char} {n : Nat} {c : Char} {cs : List Char}
    (h : Passes before (n + 1) (c :: cs)) : Passes (some c) n cs := by
  intro a b he hn
  rw [← lastOf_cons before c a]
  exact h (c :: a) b (by rw [he, List.cons_append]) (by simpa using hn)

private theorem markerAt?_eq_none {before : Option Char} {cs : List Char}
    (h : openingAt? before cs = none) : markerAt? before cs = none := by
  unfold markerAt?
  rw [h]
  rfl

private theorem markerAt?_of_openingAt? {before : Option Char} {cs o : List Char} {k : Keyword}
    (h : openingAt? before cs = some (k, o)) : markerAt? before cs = markerOf? k cs := by
  unfold markerAt?
  rw [h]
  rfl

private theorem passes_opening {before : Option Char} {k : Keyword} {c : Char} {o rest : List Char}
    (h : openingAt? before (c :: o ++ rest) = some (k, c :: o)) :
    Passes (some c) o.length (o ++ rest) := by
  intro a b he hn
  rcases List.append_eq_append_iff.mp he with ⟨s, rfl, -⟩ | ⟨s, rfl, rfl⟩
  · rw [List.length_append] at hn
    omega
  · cases s with
    | nil => simp at hn
    | cons d s =>
      rcases List.eq_nil_or_concat a with rfl | ⟨a, e, rfl⟩
      · exact Grammar.openingAt?_within (a := []) h
      · rw [List.concat_eq_append] at *
        have hw : openingAt? before ((c :: a) ++ e :: d :: s ++ rest) =
            some (k, (c :: a) ++ e :: d :: s) := by simpa using h
        rw [lastOf_append]
        exact Grammar.openingAt?_within hw

private theorem piecesFrom_of_none {before : Option Char} {c : Char} {cs : List Char}
    (h : openingAt? before (c :: cs) = none) :
    piecesFrom before (.passed 0) (c :: cs) = .prose c :: piecesFrom (some c) (.passed 0) cs := by
  simp [piecesFrom, h]

private theorem piecesFrom_of_some {before : Option Char} {c : Char} {cs o : List Char}
    {k : Keyword} {m : Marker} (h : openingAt? before (c :: cs) = some (k, o))
    (hm : markerOf? k (c :: cs) = some m) :
    piecesFrom before (.passed 0) (c :: cs) =
      .marker m :: piecesFrom (some c) (.marked (m.source.length - 1)) cs := by
  simp [piecesFrom, h, hm]

private theorem piecesFrom_of_miss {before : Option Char} {c : Char} {cs o : List Char}
    {k : Keyword} (h : openingAt? before (c :: cs) = some (k, o))
    (hm : markerOf? k (c :: cs) = none) :
    piecesFrom before (.passed 0) (c :: cs) =
      .prose c :: piecesFrom (some c) (.passed (o.length - 1)) cs := by
  simp [piecesFrom, h, hm]

/-- Whatever lies ahead of it, the scan finds the pieces that a text falls into after `before`. -/
private structure Follows (before : Option Char) (cs : List Char) : Prop where
  marked (n : Nat) :
    FallsInto (lastOf before (cs.take n)) (cs.drop n) (piecesFrom before (.marked n) cs)
  passed {n : Nat} : Passes before n cs → FallsInto before cs (piecesFrom before (.passed n) cs)

private theorem passes_zero (before : Option Char) (cs : List Char) : Passes before 0 cs := by
  intro a b _ hn
  exact absurd hn (Nat.not_lt_zero _)

namespace Follows

variable {before : Option Char} {c : Char} {cs o : List Char} {k : Keyword} {m : Marker}

private theorem fallsInto_marker (h : Follows (some c) cs)
    (ho : openingAt? before (c :: cs) = some (k, o)) (hk : markerOf? k (c :: cs) = some m) :
    FallsInto before (c :: cs) (piecesFrom before (.passed 0) (c :: cs)) := by
  have hm := markerAt?_of_openingAt? ho
  rw [piecesFrom_of_some ho hk]
  obtain ⟨rest, hrest⟩ := exists_eq_source_append hk
  cases hs : m.source with
  | nil => exact absurd hs (source_ne_nil hk)
  | cons d s =>
    rw [hs, List.cons_append, List.cons.injEq] at hrest
    obtain ⟨rfl, rfl⟩ := hrest
    have hafter := h.marked s.length
    rw [List.take_left, List.drop_left, ← lastOf_cons before, ← hs] at hafter
    have hlen : m.source.length - 1 = s.length := by
      rw [hs, List.length_cons, Nat.add_sub_cancel]
    rw [← List.cons_append, ← hs] at hm hk ⊢
    rw [hlen]
    exact .marker (source_ne_nil hk) (hm.trans hk) hafter

private theorem fallsInto_miss (h : Follows (some c) cs)
    (ho : openingAt? before (c :: cs) = some (k, o)) (hk : markerOf? k (c :: cs) = none) :
    FallsInto before (c :: cs) (piecesFrom before (.passed 0) (c :: cs)) := by
  have hm := markerAt?_of_openingAt? ho
  rw [piecesFrom_of_miss ho hk]
  apply FallsInto.prose (hm.trans hk)
  apply h.passed
  obtain ⟨-, rest, he, hopens⟩ := Grammar.openingAt?_eq_some_iff.mp ho
  obtain ⟨d, o', rfl, -⟩ := hopens.isWordChar_head
  rw [List.cons_append, List.cons.injEq] at he
  obtain ⟨rfl, rfl⟩ := he
  exact passes_opening ho

/-- Where nothing lies ahead the next character is looked at. -/
private theorem fallsInto (h : Follows (some c) cs) :
    FallsInto before (c :: cs) (piecesFrom before (.passed 0) (c :: cs)) := by
  cases ho : openingAt? before (c :: cs) with
  | none =>
    rw [piecesFrom_of_none ho]
    exact .prose (markerAt?_eq_none ho) (h.passed (passes_zero _ _))
  | some r =>
    cases hk : markerOf? r.1 (c :: cs) with
    | some m => exact h.fallsInto_marker ho hk
    | none => exact h.fallsInto_miss ho hk

end Follows

-- By induction on the text: what is marked is left out, what is passed holds no opening, and the
-- place after either is scanned afresh.
private theorem follows (cs : List Char) : ∀ before, Follows before cs := by
  induction cs with
  | nil =>
    intro before
    constructor
    · intro n
      rw [List.drop_nil, piecesFrom]
      exact .done
    · intro n _
      rw [piecesFrom]
      exact .done
  | cons c cs ih =>
    intro before
    constructor
    · intro n
      cases n with
      | zero => exact (ih (some c)).fallsInto
      | succ n =>
        rw [piecesFrom, List.take_succ_cons, lastOf_cons]
        exact (ih (some c)).marked n
    · intro n hn
      cases n with
      | zero => exact (ih (some c)).fallsInto
      | succ n =>
        have h₀ : openingAt? before (c :: cs) = none := hn [] (c :: cs) rfl (Nat.succ_pos n)
        rw [piecesFrom]
        exact .prose (markerAt?_eq_none h₀) ((ih (some c)).passed hn.tail)

/-- A text falls into the pieces that the scan finds. -/
theorem fallsInto_pieces (cs : List Char) : FallsInto none cs (pieces cs) :=
  (follows cs none).passed (passes_zero none cs)

private theorem FallsInto.exists_markerOf? {before : Option Char} {cs : List Char}
    {ps : List Piece} (h : FallsInto before cs ps) :
    ∀ m, .marker m ∈ ps → ∃ k rest, markerOf? k rest = some m := by
  induction h with
  | done => simp
  | prose _ _ ih => simpa using ih
  | @marker before n rest ps _ hn _ ih =>
    obtain ⟨⟨k, o⟩, -, hm⟩ := Option.bind_eq_some_iff.mp hn
    simpa using ⟨⟨k, _, hm⟩, ih⟩

/-- A marker of a text is what a kind reads somewhere. -/
theorem exists_markerOf?_of_mem_pieces {cs : List Char} {m : Grammar.Marker}
    (h : .marker m ∈ pieces cs) : ∃ k rest, markerOf? k rest = some m :=
  (fallsInto_pieces cs).exists_markerOf? m h

end Tabletop.Reply
