import Tabletop.Proofs.Marker.Scan
import Tabletop.Proofs.Text.Bytes

/-!
# Where the markers of a reply stand

The markers that the scan reports stand in the text, in order and apart from each other; any other
place where an opening stands begins no marker.
-/

namespace Tabletop.Reply

open Grammar (Marker markerAt? markerOf? openingAt?)
open Text (byteLength byteLength_append byteLength_concat byteLength_pos)

/-- A marker stands in a text between its offsets: no word character comes before it, the word that
it starts with names its kind, and the reading of that kind from there on gives its directive and
covers its bytes. -/
def Stands (cs : List Char) (p : Placed) : Prop :=
  ∃ before source after k o,
    cs = before ++ (source ++ after) ∧ p.start = byteLength before ∧
      p.stop = byteLength before + byteLength source ∧
        openingAt? before.getLast? (source ++ after) = some (k, o) ∧
          Keyword.ofName? (String.ofList (o.takeWhile Text.isWordChar)) = some k ∧
            markerOf? k (source ++ after) = some ⟨p.directive, source⟩

/-- An offset lies in one of the markers. -/
def Covered (ps : List Placed) (offset : Nat) : Prop :=
  ∃ p ∈ ps, p.start ≤ offset ∧ offset < p.stop

private theorem lastOf_getLast? (pre cs : List Char) :
    lastOf pre.getLast? cs = (pre ++ cs).getLast? := by
  rw [lastOf, List.getLast?_append]

private theorem exists_opening {before : Option Char} {cs : List Char} {m : Marker}
    (h : markerAt? before cs = some m) :
    ∃ k o, openingAt? before cs = some (k, o) ∧ markerOf? k cs = some m := by
  obtain ⟨⟨k, o⟩, ho, hm⟩ := Option.bind_eq_some_iff.mp h
  exact ⟨k, o, ho, hm⟩

/-- A marker stands where the scan finds it. -/
private theorem stands_of_markerAt? {pre rest : List Char} {m : Marker}
    (h : markerAt? pre.getLast? (m.source ++ rest) = some m) :
    Stands (pre ++ (m.source ++ rest))
      ⟨m.directive, byteLength pre, byteLength pre + byteLength m.source⟩ := by
  obtain ⟨k, o, ho, hm⟩ := exists_opening h
  exact ⟨pre, m.source, rest, k, o, rfl, rfl, rfl, ho, Grammar.ofName?_of_openingAt? ho, hm⟩

/-- The markers of a text after `pre` stand in the whole, behind `pre`. -/
private theorem stands_of_mem {before : Option Char} {cs : List Char} {ps : List Piece}
    (h : FallsInto before cs ps) : ∀ pre : List Char, pre.getLast? = before →
      ∀ p ∈ placedFrom (byteLength pre) ps, Stands (pre ++ cs) p ∧ byteLength pre ≤ p.start := by
  induction h with
  | done =>
    intro pre _ p hp
    cases hp
  | @prose before c cs ps _ _ ih =>
    intro pre _ p hp
    rw [placedFrom, ← byteLength_concat] at hp
    obtain ⟨hs, hle⟩ := ih (pre ++ [c]) (by simp) p hp
    rw [List.append_assoc] at hs
    rw [byteLength_concat] at hle
    exact ⟨hs, by omega⟩
  | @marker before m rest ps _ hm _ ih =>
    intro pre hb p hp
    subst hb
    rw [placedFrom, List.mem_cons] at hp
    rcases hp with rfl | hp
    · exact ⟨stands_of_markerAt? hm, Nat.le_refl _⟩
    · rw [← byteLength_append] at hp
      obtain ⟨hs, hle⟩ := ih (pre ++ m.source) (lastOf_getLast? pre m.source).symm p hp
      rw [List.append_assoc] at hs
      rw [byteLength_append] at hle
      exact ⟨hs, by omega⟩

private theorem start_lt_stop {cs : List Char} {p : Placed} (h : Stands cs p) :
    p.start < p.stop := by
  obtain ⟨before, source, after, k, o, -, hstart, hstop, -, -, hm⟩ := h
  have hpos := byteLength_pos (source_ne_nil hm)
  simp only at hpos
  omega

private theorem stop_le {cs : List Char} {p : Placed} (h : Stands cs p) :
    p.stop ≤ byteLength cs := by
  obtain ⟨before, source, after, k, o, rfl, -, hstop, -⟩ := h
  rw [hstop, byteLength_append, byteLength_append]
  omega

/-- Markers come one behind the other. -/
private theorem pairwise_placedFrom {before : Option Char} {cs : List Char} {ps : List Piece}
    (h : FallsInto before cs ps) : ∀ pre : List Char, pre.getLast? = before →
      (placedFrom (byteLength pre) ps).Pairwise fun p q => p.stop ≤ q.start := by
  induction h with
  | done =>
    intro pre _
    exact .nil
  | @prose before c cs ps _ _ ih =>
    intro pre _
    rw [placedFrom, ← byteLength_concat]
    exact ih (pre ++ [c]) (by simp)
  | @marker before m rest ps _ _ hrest ih =>
    intro pre hb
    have hlast : (pre ++ m.source).getLast? = lastOf before m.source := by
      rw [← lastOf_getLast?, hb]
    rw [placedFrom, ← byteLength_append]
    refine .cons (fun q hq => ?_) (ih (pre ++ m.source) hlast)
    exact (stands_of_mem hrest (pre ++ m.source) hlast q hq).2

/-- Where an opening stands outside the markers, its kind reads nothing. -/
private theorem markerOf?_of_not_covered {before : Option Char} {cs : List Char} {ps : List Piece}
    (h : FallsInto before cs ps) : ∀ pre : List Char, pre.getLast? = before →
      ∀ a b k o, cs = a ++ b → ¬Covered (placedFrom (byteLength pre) ps) (byteLength (pre ++ a)) →
        openingAt? (pre ++ a).getLast? b = some (k, o) → markerOf? k b = none := by
  induction h with
  | done =>
    intro pre _ a b k o he _ ho
    obtain ⟨-, hb⟩ := List.append_eq_nil_iff.mp he.symm
    rw [hb] at ho
    obtain ⟨-, r, he, hopens⟩ := Grammar.openingAt?_eq_some_iff.mp ho
    obtain ⟨c, o', rfl, -⟩ := hopens.isWordChar_head
    cases he
  | @prose before c cs ps hn _ ih =>
    intro pre hb a b k o he hc ho
    cases a with
    | nil =>
      rw [List.nil_append] at he
      rw [List.append_nil, hb, ← he] at ho
      rw [markerAt?, ho] at hn
      rw [← he]
      exact hn
    | cons d a =>
      rw [List.cons_append, List.cons.injEq] at he
      obtain ⟨rfl, he⟩ := he
      rw [List.append_cons] at hc ho
      rw [placedFrom, ← byteLength_concat] at hc
      exact ih (pre ++ [c]) (by simp) a b k o he hc ho
  | @marker before m rest ps _ _ _ ih =>
    intro pre hb a b k o he hc ho
    -- the place lies in the marker, or else behind it
    by_cases hlt : byteLength a < byteLength m.source
    · refine absurd ⟨_, List.mem_cons_self, ?_, ?_⟩ hc
      · rw [byteLength_append]
        exact Nat.le_add_right _ _
      · rw [byteLength_append]
        exact Nat.add_lt_add_left hlt _
    · obtain ⟨s, rfl, rfl⟩ := Text.exists_append_of_byteLength_le he (Nat.le_of_not_lt hlt)
      have hlast : (pre ++ m.source).getLast? = lastOf before m.source := by
        rw [← lastOf_getLast?, hb]
      rw [← List.append_assoc] at hc ho
      refine ih (pre ++ m.source) hlast s b k o rfl (fun hcovered => hc ?_) ho
      obtain ⟨p, hp, hle, hlt⟩ := hcovered
      refine ⟨p, ?_, hle, hlt⟩
      rw [byteLength_append] at hp
      exact List.mem_cons_of_mem _ hp

/-- The scan is sound and complete: each marker that it reports stands in the text within its
bounds, no two overlap, they come in the order of the text, and an opening outside them begins no
marker. -/
theorem placed_sound_complete (cs : List Char) :
    (∀ p ∈ placed (pieces cs), Stands cs p ∧ p.start < p.stop ∧ p.stop ≤ byteLength cs) ∧
      (placed (pieces cs)).Pairwise (fun p q => p.stop ≤ q.start) ∧
        ∀ before after k o, cs = before ++ after →
          ¬Covered (placed (pieces cs)) (byteLength before) →
            openingAt? before.getLast? after = some (k, o) → markerOf? k after = none := by
  have h := fallsInto_pieces cs
  refine ⟨fun p hp => ?_, pairwise_placedFrom h [] rfl, fun before after k o he hc ho => ?_⟩
  · have hs := (stands_of_mem h [] rfl p hp).1
    rw [List.nil_append] at hs
    exact ⟨hs, start_lt_stop hs, stop_le hs⟩
  · exact markerOf?_of_not_covered h [] rfl before after k o he hc ho

end Tabletop.Reply
