import Tabletop.Proofs.Marker.Stretches
import Tabletop.Proofs.Marker.Unmarked

/-!
# What becomes of lines without markers

Cleaning leaves most lines alone that hold no byte of a marker. But the line after a marker that
takes its line feed stands in the same stretch as that marker: what is left of the stretch before it
is joined to it, and if it is blank it goes for one that the marker has emptied. And where a gap
stands before two markers that touch, the second marker takes away what the first one's removal was
measured by; such a removal may hit a blank line further on.
-/

namespace Tabletop

/-- The piece is a marker that leaves nothing in its place. -/
def Piece.leavesNothing : Piece → Bool
  | .prose _ => false
  | .marker m => m.directive.replacement.toList.isEmpty

namespace Reply

open Text (byteLength splitChars)

/-- The unmarked line that a stretch ends in, if cleaning does not touch it: nothing else is left of
the stretch, and the line is not blank, or it is the whole stretch and blank lines count. -/
def spared? (blanks : Bool) (g : List Piece) : Option (List Char) :=
  let markers := g.takeWhile Piece.leavesNothing
  (prose? (g.dropWhile Piece.leavesNothing)).filter fun line =>
    (markers.isEmpty && blanks) ||
      (markers.getLast?.all Piece.takesBreak && !line.all Text.isBlank)

/-- The unmarked lines of a reply that cleaning does not touch. -/
def spared (blanks : Bool) (ps : List Piece) : List (List Char) :=
  (stretches ps).filterMap (spared? blanks)

variable {g ps : List Piece} {blanks : Bool} {line : List Char}

/-! ## Lines that are spared -/

private theorem spared?_eq_some (h : spared? blanks g = some line) :
    ∃ markers, g = markers ++ line.map .prose ∧ (∀ p ∈ markers, p.leavesNothing = true) ∧
      (markers = [] ∧ blanks = true ∨
        markers.getLast?.all Piece.takesBreak = true ∧ line.all Text.isBlank = false) := by
  obtain ⟨hline, hcounts⟩ := Option.filter_eq_some_iff.mp h
  refine ⟨g.takeWhile Piece.leavesNothing, ?_, List.all_eq_true.mp List.all_takeWhile, ?_⟩
  · rw [← eq_map_of_prose? hline, List.takeWhile_append_dropWhile]
  · simpa using hcounts

/-- Markers that leave nothing, at the start of a line, leave their removals there. -/
private theorem writePieces_markers {markers : List Piece} (rs : List Nat) (ps : List Piece)
    (h : ∀ p ∈ markers, p.leavesNothing = true) :
    writePieces ⟨[], rs⟩ (markers ++ ps) = writePieces ⟨[], rs ++ markers.map fun _ => 0⟩ ps := by
  induction markers generalizing rs with
  | nil => simp
  | cons p markers ih =>
    have hrest := fun rs => ih rs fun q hq => h q (List.mem_cons_of_mem _ hq)
    cases p with
    | prose c => exact absurd (h _ (List.mem_cons_self ..)) (by simp [Piece.leavesNothing])
    | marker m =>
      have hempty : m.directive.replacement.toList.isEmpty = true := h _ (List.mem_cons_self ..)
      have hnone : (if closesGap (nextChar (markers ++ ps)) = true then
          ([] : List Char).dropWhile Grammar.isGap else []) = [] := by
        split <;> rfl
      simp only [List.cons_append, writePieces, hempty, if_true, hnone, hrest]
      simp [Text.byteLength]

/-- A line that is spared survives as it is. -/
private theorem survives_of_spared? (h : spared? blanks g = some line) :
    survives blanks g = true ∧ written g = line := by
  obtain ⟨markers, rfl, hmarkers, hcounts⟩ := spared?_eq_some h
  have hdraft : writePieces ⟨[], []⟩ (markers ++ line.map .prose) =
      ⟨line.reverse, markers.map fun _ => 0⟩ := by
    rw [writePieces_markers [] _ hmarkers, ← List.append_nil (line.map Piece.prose),
      Line.writePieces_prose]
    simp [writePieces]
  have hwritten : written (markers ++ line.map .prose) = line := by
    rw [written, hdraft, List.reverse_reverse]
  refine ⟨?_, hwritten⟩
  rw [survives, hwritten, removed, hdraft]
  rcases hcounts with ⟨rfl, rfl⟩ | ⟨-, hline⟩
  · simp
  · simp [hline]

private theorem spared_sublist_survives (gs : List (List Piece)) :
    (gs.filterMap (spared? blanks)).Sublist ((gs.filter (survives blanks)).map written) := by
  induction gs with
  | nil => exact List.Sublist.refl _
  | cons g gs ih =>
    cases h : spared? blanks g with
    | none =>
      rw [List.filterMap_cons_none h, List.filter_cons]
      split
      · exact ih.cons _
      · exact ih
    | some line =>
      obtain ⟨hsurvives, hwritten⟩ := survives_of_spared? h
      rw [List.filterMap_cons_some h, List.filter_cons_of_pos hsurvives, List.map_cons, hwritten]
      exact ih.cons_cons line

/-! ## Unmarked lines of stretches -/

private theorem lines_intercalate {gs : List (List Piece)} (hne : gs ≠ [])
    (h : ∀ g ∈ gs, .prose '\n' ∉ g) : lines ([.prose '\n'].intercalate gs) = gs.flatMap lines := by
  induction gs with
  | nil => exact absurd rfl hne
  | cons g gs ih =>
    cases gs with
    | nil => simp
    | cons g' gs =>
      rw [List.intercalate_cons_cons, List.append_assoc, List.singleton_append,
        lines_append_feed (h g (List.mem_cons_self ..)), List.flatMap_cons,
        ih (by simp) fun k hk => h k (List.mem_cons_of_mem _ hk)]

/-- The lines of a reply are those of its stretches. -/
private theorem lines_eq_flatMap (ps : List Piece) : lines ps = (stretches ps).flatMap lines := by
  have hne : stretches ps ≠ [] := List.splitOn_ne_nil _ _
  have h := lines_intercalate hne fun g hg => lineFeed_not_mem hg
  rwa [stretches, List.intercalate_splitOn] at h

private theorem unbroken_map (h : '\n' ∉ line) : Unbroken (line.map .prose) := by
  constructor
  · simpa using h
  · intro p hp
    obtain ⟨c, -, rfl⟩ := List.mem_map.mp hp
    rfl

/-- A line that is spared is an unmarked line of its stretch. -/
private theorem spared?_sublist (hg : .prose '\n' ∉ g) (h : spared? blanks g = some line) :
    [line].Sublist ((lines g).filterMap prose?) := by
  obtain ⟨markers, rfl, -, hcounts⟩ := spared?_eq_some h
  have hline : '\n' ∉ line := by simpa using fun hm => hg (List.mem_append_right _ hm)
  have hlast : (lines (line.map .prose)).filterMap prose? = [line] := by
    rw [lines_of_unbroken (unbroken_map hline)]
    simp [prose?_map]
  rcases List.eq_nil_or_concat markers with rfl | ⟨front, p, rfl⟩
  · rw [List.nil_append, hlast]
  · have htakes : p.takesBreak = true := by
      rcases hcounts with ⟨hnone, -⟩ | ⟨hlast, -⟩
      · simp at hnone
      · simpa using hlast
    cases p with
    | prose c => cases htakes
    | marker m =>
      obtain ⟨k, ks, hlines⟩ := exists_lines_append_taken htakes front (line.map .prose)
      rw [List.concat_eq_append, List.append_assoc, List.singleton_append, hlines,
        ← List.cons_append, List.filterMap_append, hlast]
      exact List.sublist_append_right _ _

private theorem filterMap_sublist_flatMap {α β : Type} {f : α → Option β} {h : α → List β}
    {xs : List α} (hsub : ∀ x ∈ xs, ∀ y, f x = some y → [y].Sublist (h x)) :
    (xs.filterMap f).Sublist (xs.flatMap h) := by
  induction xs with
  | nil => exact List.Sublist.refl _
  | cons x xs ih =>
    have hrest := ih fun y hy => hsub y (List.mem_cons_of_mem _ hy)
    rw [List.flatMap_cons]
    cases hx : f x with
    | none =>
      rw [List.filterMap_cons_none hx]
      exact hrest.trans (List.sublist_append_right _ _)
    | some y =>
      rw [List.filterMap_cons_some hx, ← List.singleton_append]
      exact (hsub x (List.mem_cons_self ..) y hx).append hrest

/-- The lines that are spared are unmarked. -/
theorem spared_sublist_unmarked (blanks : Bool) (cs : List Char) :
    (spared blanks (pieces cs)).Sublist (unmarked cs) := by
  rw [unmarked_eq, lines_eq_flatMap, List.filterMap_flatMap]
  exact filterMap_sublist_flatMap fun g hg line h => spared?_sublist (lineFeed_not_mem hg) h

private theorem spared?_eq_prose? (h : ∀ p ∈ g, p.takesBreak = false) :
    spared? true g = prose? g := by
  have hsplit := List.takeWhile_append_dropWhile (p := Piece.leavesNothing) (l := g)
  rcases List.eq_nil_or_concat (g.takeWhile Piece.leavesNothing) with hnone | ⟨front, p, hlast⟩
  · rw [hnone, List.nil_append] at hsplit
    simp only [spared?, hnone, hsplit, List.isEmpty_nil, Bool.and_self, Bool.true_or]
    cases prose? g <;> rfl
  · rw [List.concat_eq_append] at hlast
    have hp : p ∈ g.takeWhile Piece.leavesNothing := by simp [hlast]
    have hleaves := List.all_eq_true.mp List.all_takeWhile p hp
    have htakes : p.takesBreak = false := h p ((List.takeWhile_sublist _).subset hp)
    have hmarker : prose? g = none := by
      cases p with
      | prose c => cases hleaves
      | marker m => exact prose?_of_marker ((List.takeWhile_sublist _).subset hp)
    simp [spared?, hlast, htakes, hmarker]

/-- Where no marker takes a line feed all unmarked lines are spared, if blank lines count. -/
theorem spared_eq_unmarked {cs : List Char} (h : ∀ p ∈ pieces cs, p.takesBreak = false) :
    spared true (pieces cs) = unmarked cs := by
  have hstretch : ∀ g ∈ stretches (pieces cs), ∀ p ∈ g, p.takesBreak = false := fun g hg p hp =>
    h p ((infix_of_mem_stretches hg).subset hp)
  have hlines : (stretches (pieces cs)).flatMap lines = stretches (pieces cs) := by
    have hone : ∀ g ∈ stretches (pieces cs), lines g = [g] := fun g hg =>
      lines_of_unbroken ⟨lineFeed_not_mem hg, hstretch g hg⟩
    rw [List.flatMap_congr hone, List.flatMap_singleton']
  rw [unmarked_eq, lines_eq_flatMap, hlines, spared]
  exact List.filterMap_congr fun g hg => spared?_eq_prose? (hstretch g hg)

/-! ## Cleaning -/

private theorem keeps_spared_of_steady (cs : List Char) (hs : blanks = true → Steady (pieces cs)) :
    Keeps (spared blanks (pieces cs)) (clean (pieces cs)).toList := by
  have hneat : ∀ m, .marker m ∈ pieces cs → m.Neat := fun m => neat_of_mem_pieces
  obtain ⟨whole, htrim, hkept⟩ := keeps_survives hneat hs
  rw [clean, String.toList_ofList]
  exact ⟨whole, htrim, (spared_sublist_survives _).trans hkept⟩

/-- Cleaning does not touch the lines that are spared: players read them unchanged, each as a line
of its own and in order, up to the blanks trimmed from both ends of the text. They are unmarked
lines. In a steady reply blank lines count among them, and if no marker in it takes a line feed they
are all the unmarked lines that there are. -/
theorem keeps_spared (raw : String) :
    (∀ blanks, (spared blanks (pieces raw.toList)).Sublist (unmarked raw.toList)) ∧
      let ps := pieces raw.toList
      let shown := (clean ps).toList
      Keeps (spared false ps) shown ∧ (Steady ps → Keeps (spared true ps) shown) ∧
        (Steady ps → (∀ p ∈ ps, p.takesBreak = false) → Keeps (unmarked raw.toList) shown) := by
  refine ⟨fun blanks => ?_, ?_, fun hs => ?_, fun hs ht => ?_⟩
  · exact spared_sublist_unmarked blanks raw.toList
  · exact keeps_spared_of_steady raw.toList (by simp)
  · exact keeps_spared_of_steady raw.toList fun _ => hs
  · rw [← spared_eq_unmarked ht]
    exact keeps_spared_of_steady raw.toList fun _ => hs

/-- A reply without scenes keeps its paragraphs. -/
theorem keeps_spared_door :
    let raw := "A door.\n\nCOMBAT_END\nIt opens."
    unmarked raw.toList = ["A door.".toList, [], "It opens.".toList] ∧
      Keeps (unmarked raw.toList) (clean (pieces raw.toList)).toList := by
  intro raw
  have hs : Steady (pieces raw.toList) := by decide +kernel
  have ht : ∀ p ∈ pieces raw.toList, p.takesBreak = false := by decide +kernel
  exact ⟨by decide +kernel, (keeps_spared raw).2.2.2 hs ht⟩

/-- Lines whose joined text has nothing to trim are shown only if it is, with others between. -/
private theorem Keeps.sublist {lines : List (List Char)} {shown : List Char}
    (h : Keeps lines shown) (ht : Text.Tight (['\n'].intercalate lines)) :
    (['\n'].intercalate lines).Sublist shown := by
  obtain ⟨whole, rfl, hsub⟩ := h
  apply ht.sublist_trimChars
  have hjoined := Text.intercalate_sublist ['\n'] hsub
  rwa [Text.splitChars_eq_splitOnP, ← List.splitOn_eq_splitOnP, List.intercalate_splitOn] at hjoined

/-- The blank line behind a scene is not shown. -/
theorem not_keeps_unmarked_hall :
    let raw := "First.\nAMBIANCE:[A hall]\n\nSecond."
    ¬ Keeps (unmarked raw.toList) (clean (pieces raw.toList)).toList := by
  intro raw h
  have hlines : unmarked raw.toList = ["First.".toList, [], "Second.".toList] := by decide +kernel
  have hshown : clean (pieces raw.toList) = "First.\nSecond." := by decide +kernel
  rw [hlines, hshown] at h
  have hsub := h.sublist ⟨by decide +kernel, by decide +kernel, by decide +kernel⟩
  revert hsub
  decide +kernel

end Reply

end Tabletop
