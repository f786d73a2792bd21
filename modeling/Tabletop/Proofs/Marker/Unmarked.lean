import Tabletop.Proofs.Marker.Breaks
import Tabletop.Proofs.Marker.Placement
import Tabletop.Proofs.Text.Splitting

/-!
# Lines without markers

A line of a reply is unmarked if none of its bytes belongs to a marker. Such a line is a line of
prose among the pieces of the reply, where a line ends at a line feed or with the marker that the
line feed belongs to.
-/

namespace Tabletop

/-- The piece is a marker that the line feed behind it belongs to. -/
def Piece.takesBreak : Piece → Bool
  | .prose _ => false
  | .marker m => m.source.getLast? == some '\n'

namespace Reply

open Text (byteLength byteLength_append byteLength_pos splitChars)

/-- A line that starts at a byte offset holds a byte of one of the markers. -/
def holdsMarker (spans : List Placed) (at_ : Nat) (line : List Char) : Bool :=
  spans.any fun p => max at_ p.start < min (at_ + byteLength line) p.stop

/-- The lines of a text from a byte offset on that hold no byte of a marker. -/
def unmarkedFrom (spans : List Placed) : Nat → List (List Char) → List (List Char)
  | _, [] => []
  | at_, line :: lines =>
    let rest := unmarkedFrom spans (at_ + byteLength line + 1) lines
    if holdsMarker spans at_ line then rest else line :: rest

/-- The lines of a reply that hold no byte of a marker. -/
def unmarked (cs : List Char) : List (List Char) :=
  unmarkedFrom (placed (pieces cs)) 0 (splitChars (· == '\n') cs)

/-- A line holds a byte of a marker if one of its bytes is covered. -/
theorem holdsMarker_iff {spans : List Placed} {at_ : Nat} {line : List Char} :
    holdsMarker spans at_ line = true ↔
      ∃ offset, at_ ≤ offset ∧ offset < at_ + byteLength line ∧ Covered spans offset := by
  simp only [holdsMarker, List.any_eq_true, decide_eq_true_eq]
  constructor
  · rintro ⟨p, hp, hlt⟩
    exact ⟨max at_ p.start, by omega, by omega, p, hp, by omega, by omega⟩
  · rintro ⟨offset, hle, hlt, p, hp, hstart, hstop⟩
    exact ⟨p, hp, by omega⟩

/-! ## Lines of pieces -/

/-- Pieces line by line: a line ends at a line feed, or with the marker that the line feed belongs
to. -/
def lines : List Piece → List (List Piece)
  | [] => [[]]
  | p :: ps =>
    if p = .prose '\n' then [] :: lines ps
    else if p.takesBreak then [p] :: lines ps
    else (lines ps).modifyHead (p :: ·)

/-- The text of a line of prose. -/
def prose? (line : List Piece) : Option (List Char) :=
  line.mapM fun
    | .prose c => some c
    | .marker _ => none

/-- No line ends within the pieces. -/
def Unbroken (l : List Piece) : Prop := .prose '\n' ∉ l ∧ ∀ p ∈ l, p.takesBreak = false

/-- Pieces fall into lines. -/
private inductive Lined : List Piece → List (List Piece) → Prop
  | last {l : List Piece} : Unbroken l → Lined l [l]
  | feed {l ps : List Piece} {ls : List (List Piece)} :
    Unbroken l → Lined ps ls → Lined (l ++ .prose '\n' :: ps) (l :: ls)
  | taken {l ps : List Piece} {ls : List (List Piece)} {m : Grammar.Marker} :
    Unbroken l → (Piece.marker m).takesBreak = true → Lined ps ls →
      Lined (l ++ .marker m :: ps) ((l ++ [.marker m]) :: ls)

variable {l ps : List Piece} {ls : List (List Piece)} {at_ : Nat} {m : Grammar.Marker}

private theorem unbroken_nil : Unbroken [] := ⟨by simp, by simp⟩

private theorem Unbroken.cons {p : Piece} (h : Unbroken l) (hfeed : p ≠ .prose '\n')
    (htakes : p.takesBreak = false) : Unbroken (p :: l) :=
  ⟨by simpa using ⟨hfeed.symm, h.1⟩, by simpa using ⟨htakes, h.2⟩⟩

private theorem Lined.cons {p : Piece} (h : Lined ps ls) (hfeed : p ≠ .prose '\n')
    (htakes : p.takesBreak = false) : Lined (p :: ps) (ls.modifyHead (p :: ·)) := by
  cases h with
  | last hl => exact .last (hl.cons hfeed htakes)
  | feed hl hrest => exact .feed (hl.cons hfeed htakes) hrest
  | taken hl hm hrest => exact .taken (hl.cons hfeed htakes) hm hrest

private theorem lined_lines (ps : List Piece) : Lined ps (lines ps) := by
  induction ps with
  | nil => exact .last unbroken_nil
  | cons p ps ih =>
    rw [lines]
    split
    · next hfeed =>
      rw [hfeed]
      exact .feed unbroken_nil ih
    · next hfeed =>
      split
      · next htakes =>
        cases p with
        | prose c => cases htakes
        | marker m => exact .taken unbroken_nil htakes ih
      · next htakes => exact ih.cons hfeed (Bool.eq_false_iff.mpr htakes)

private theorem lines_ne_nil (ps : List Piece) : lines ps ≠ [] := by
  induction ps with
  | nil => exact List.cons_ne_nil _ _
  | cons p ps ih =>
    rw [lines]
    split
    · exact List.cons_ne_nil _ _
    · split
      · exact List.cons_ne_nil _ _
      · obtain ⟨l, ls, hls⟩ := List.exists_cons_of_ne_nil ih
        rw [hls]
        exact List.cons_ne_nil _ _

/-- Pieces within which no line ends are one line. -/
theorem lines_of_unbroken (h : Unbroken l) : lines l = [l] := by
  induction l with
  | nil => rfl
  | cons p l ih =>
    have hfeed : p ≠ .prose '\n' := fun he => h.1 (he ▸ List.mem_cons_self ..)
    have htakes : ¬ p.takesBreak = true := by simp [h.2 p (List.mem_cons_self ..)]
    have hrest : Unbroken l :=
      ⟨fun hm => h.1 (List.mem_cons_of_mem _ hm), fun q hq => h.2 q (List.mem_cons_of_mem _ hq)⟩
    rw [lines, if_neg hfeed, if_neg htakes, ih hrest]
    rfl

/-- The first line feed of prose ends a line. -/
theorem lines_append_feed (h : .prose '\n' ∉ l) (ps : List Piece) :
    lines (l ++ .prose '\n' :: ps) = lines l ++ lines ps := by
  induction l with
  | nil => simp [lines]
  | cons p l ih =>
    have hfeed : p ≠ .prose '\n' := fun he => h (he ▸ List.mem_cons_self ..)
    have hrest := ih fun hm => h (List.mem_cons_of_mem _ hm)
    rw [List.cons_append, lines, lines, if_neg hfeed, if_neg hfeed, hrest]
    split
    · rfl
    · obtain ⟨k, ks, hks⟩ := List.exists_cons_of_ne_nil (lines_ne_nil l)
      rw [hks]
      rfl

/-- A marker that takes its line feed ends a line. -/
theorem exists_lines_append_taken (hm : (Piece.marker m).takesBreak = true) (l ps : List Piece) :
    ∃ k ks, lines (l ++ .marker m :: ps) = k :: (ks ++ lines ps) := by
  induction l with
  | nil => exact ⟨[.marker m], [], by rw [List.nil_append, lines, if_neg (by simp), if_pos hm]; rfl⟩
  | cons p l ih =>
    obtain ⟨k, ks, hks⟩ := ih
    rw [List.cons_append, lines, hks]
    split
    · exact ⟨[], k :: ks, rfl⟩
    · split
      · exact ⟨[p], k :: ks, rfl⟩
      · exact ⟨p :: k, ks, rfl⟩

/-! ## Lines of prose -/

/-- A line of prose is its text. -/
theorem prose?_map (cs : List Char) : prose? (cs.map .prose) = some cs := by
  induction cs with
  | nil => rfl
  | cons c cs ih =>
    rw [prose?] at ih
    simp [prose?, ih]

/-- A line with a marker is no line of prose. -/
theorem prose?_of_marker (h : .marker m ∈ l) : prose? l = none := by
  induction l with
  | nil => cases h
  | cons p l ih =>
    cases p with
    | marker n => rfl
    | prose c =>
      have hrest : prose? l = none := ih (by simpa using h)
      rw [prose?] at hrest
      simp [prose?, hrest]

private theorem prose_or_marker (l : List Piece) :
    (∃ cs : List Char, l = cs.map .prose) ∨ ∃ m, .marker m ∈ l := by
  induction l with
  | nil => exact .inl ⟨[], rfl⟩
  | cons p l ih =>
    cases p with
    | marker m => exact .inr ⟨m, List.mem_cons_self ..⟩
    | prose c =>
      rcases ih with ⟨cs, hcs⟩ | ⟨m, hm⟩
      · exact .inl ⟨c :: cs, by rw [hcs, List.map_cons]⟩
      · exact .inr ⟨m, List.mem_cons_of_mem _ hm⟩

/-- A line that is prose is its text piece by piece. -/
theorem eq_map_of_prose? {cs : List Char} (h : prose? l = some cs) : l = cs.map .prose := by
  rcases prose_or_marker l with ⟨ds, rfl⟩ | ⟨m, hm⟩
  · rw [prose?_map] at h
    cases h
    rfl
  · rw [prose?_of_marker hm] at h
    cases h

/-! ## Texts and markers of lines -/

/-- The text of pieces. -/
def text (ps : List Piece) : List Char := ps.flatMap Piece.source

private theorem text_append (l ps : List Piece) : text (l ++ ps) = text l ++ text ps :=
  List.flatMap_append

private theorem text_map (cs : List Char) : text (cs.map .prose) = cs := by
  induction cs with
  | nil => rfl
  | cons c cs ih => exact congrArg (c :: ·) ih

private theorem takesBreak_iff (hm : m.Neat) :
    (Piece.marker m).takesBreak = true ↔
      ∃ front, front ≠ [] ∧ '\n' ∉ front ∧ m.source = front ++ ['\n'] := by
  rw [Piece.takesBreak, beq_iff_eq]
  constructor
  · intro hlast
    obtain ⟨front, hne, hfront, hsource | ⟨hsource, -⟩⟩ := hm.line
    · rw [hsource] at hlast
      exact absurd (List.mem_of_getLast? hlast) hfront
    · exact ⟨front, hne, hfront, hsource⟩
  · rintro ⟨front, -, -, hsource⟩
    simp [hsource]

/-- The text of a line holds no line feed. -/
private theorem lineFeed_not_mem_text (h : Unbroken l) (hneat : ∀ m, .marker m ∈ l → m.Neat) :
    '\n' ∉ text l := by
  intro hm
  obtain ⟨p, hp, hfeed⟩ := List.mem_flatMap.mp hm
  cases p with
  | prose c =>
    rw [← List.mem_singleton.mp hfeed] at hp
    exact h.1 hp
  | marker m =>
    obtain ⟨front, hne, hfront, hsource | ⟨hsource, -⟩⟩ := (hneat m hp).line
    · exact hfront (hsource ▸ hfeed)
    · have htakes := (takesBreak_iff (hneat m hp)).mpr ⟨front, hne, hfront, hsource⟩
      rw [h.2 _ hp] at htakes
      cases htakes

/-- The markers of pieces behind others stand behind them. -/
theorem placedFrom_append (at_ : Nat) (l ps : List Piece) :
    placedFrom at_ (l ++ ps) = placedFrom at_ l ++ placedFrom (at_ + byteLength (text l)) ps := by
  induction l generalizing at_ with
  | nil => rfl
  | cons p l ih =>
    cases p with
    | prose c => simp [placedFrom, ih, text, Piece.source, byteLength, Nat.add_assoc]
    | marker m => simp [placedFrom, ih, text, Piece.source, Nat.add_assoc]

private theorem placedFrom_map (at_ : Nat) (cs : List Char) :
    placedFrom at_ (cs.map .prose) = [] := by
  induction cs generalizing at_ with
  | nil => rfl
  | cons c cs ih => exact ih _

/-- The markers of pieces stand where the pieces do. -/
theorem bounds_of_mem_placedFrom {p : Placed} (h : p ∈ placedFrom at_ ps) :
    at_ ≤ p.start ∧ p.stop ≤ at_ + byteLength (text ps) := by
  induction ps generalizing at_ with
  | nil => cases h
  | cons q ps ih =>
    have hbytes : byteLength (text (q :: ps)) = byteLength q.source + byteLength (text ps) :=
      byteLength_append q.source (text ps)
    cases q with
    | prose c =>
      obtain ⟨hstart, hstop⟩ := ih h
      have hc : byteLength (Piece.prose c).source = c.utf8Size := rfl
      omega
    | marker m =>
      have hm : byteLength (Piece.marker m).source = byteLength m.source := rfl
      rcases List.mem_cons.mp h with rfl | h
      · dsimp only
        omega
      · obtain ⟨hstart, hstop⟩ := ih h
        omega

private theorem exists_mem_placedFrom (at_ : Nat) (h : .marker m ∈ l) (hne : m.source ≠ []) :
    ∃ p ∈ placedFrom at_ l, at_ ≤ p.start ∧ p.start < at_ + byteLength (text l) ∧
      p.start < p.stop := by
  obtain ⟨before, after, rfl⟩ := List.append_of_mem h
  have hpos := byteLength_pos hne
  have hbytes : byteLength (text (before ++ .marker m :: after)) =
      byteLength (text before) + (byteLength m.source + byteLength (text after)) := by
    rw [text_append, byteLength_append]
    exact congrArg (_ + ·) (byteLength_append m.source (text after))
  refine ⟨⟨m.directive, at_ + byteLength (text before),
    at_ + byteLength (text before) + byteLength m.source⟩, ?_, ?_, ?_, ?_⟩
  · rw [placedFrom_append]
    exact List.mem_append_right _ (List.mem_cons_self ..)
  all_goals
    dsimp only
    omega

/-! ## Bytes of lines -/

/-- Markers before and behind a line hold none of its bytes. -/
private theorem holdsMarker_append {old here later : List Placed} {line : List Char}
    (hold : ∀ p ∈ old, p.stop ≤ at_) (hlater : ∀ p ∈ later, at_ + byteLength line ≤ p.start) :
    holdsMarker (old ++ (here ++ later)) at_ line = holdsMarker here at_ line := by
  have hnone {ps : List Placed} (h : ∀ p ∈ ps, p.stop ≤ at_ ∨ at_ + byteLength line ≤ p.start) :
      holdsMarker ps at_ line = false := by
    rw [holdsMarker, List.any_eq_false]
    intro p hp
    have hp' := h p hp
    simp only [decide_eq_true_eq]
    omega
  have hbefore := hnone fun p hp => .inl (hold p hp)
  have hbehind := hnone fun p hp => .inr (hlater p hp)
  unfold holdsMarker at *
  rw [List.any_append, List.any_append, hbefore, hbehind, Bool.false_or, Bool.or_false]

/-- A line of pieces holds a byte of a marker unless it is prose. -/
private theorem holdsMarker_text (hneat : ∀ m, .marker m ∈ l → m.Neat) :
    holdsMarker (placedFrom at_ l) at_ (text l) = (prose? l).isNone := by
  rcases prose_or_marker l with ⟨cs, rfl⟩ | ⟨m, hm⟩
  · rw [placedFrom_map, prose?_map]
    rfl
  · obtain ⟨p, hp, hstart, hlt, hstop⟩ :=
      exists_mem_placedFrom at_ hm (hneat m hm).source_ne_nil
    obtain ⟨-, hle⟩ := bounds_of_mem_placedFrom hp
    rw [prose?_of_marker hm, holdsMarker, List.any_eq_true.mpr ⟨p, hp, by
      simp only [decide_eq_true_eq]
      omega⟩]
    rfl

section Steps

variable {old later : List Placed} {rest : List (List Char)}

/-- The markers of pieces end with the pieces. -/
private theorem stop_le_of_append {next : Nat} (hold : ∀ p ∈ old, p.stop ≤ at_)
    (hnext : at_ + byteLength (text l) ≤ next) : ∀ p ∈ old ++ placedFrom at_ l, p.stop ≤ next := by
  intro p hp
  rcases List.mem_append.mp hp with hp | hp
  · have hstop := hold p hp
    omega
  · have hstop := (bounds_of_mem_placedFrom hp).2
    omega

/-- A line counts if it is prose. -/
private theorem unmarkedFrom_cons (hneat : ∀ m, .marker m ∈ l → m.Neat)
    (hold : ∀ p ∈ old, p.stop ≤ at_) (hlater : ∀ p ∈ later, at_ + byteLength (text l) ≤ p.start) :
    unmarkedFrom (old ++ (placedFrom at_ l ++ later)) at_ (text l :: rest) =
      (prose? l).toList ++
        unmarkedFrom (old ++ (placedFrom at_ l ++ later)) (at_ + byteLength (text l) + 1) rest := by
  rw [unmarkedFrom, holdsMarker_append hold hlater, holdsMarker_text hneat]
  cases h : prose? l with
  | none => rfl
  | some cs =>
    rw [eq_map_of_prose? h, text_map]
    rfl

/-- A line that a marker stands on with its line feed does not count. -/
private theorem unmarkedFrom_taken {front : List Char} (hne : front ≠ [])
    (hsource : m.source = front ++ ['\n']) :
    unmarkedFrom (old ++ (placedFrom at_ (l ++ [.marker m]) ++ later)) at_
        ((text l ++ front) :: rest) =
      unmarkedFrom (old ++ (placedFrom at_ (l ++ [.marker m]) ++ later))
        (at_ + byteLength (text (l ++ [.marker m]))) rest := by
  have hpos := byteLength_pos hne
  have hline := byteLength_append (text l) front
  have hbytes : byteLength m.source = byteLength front + 1 := by
    rw [hsource]
    exact byteLength_append front ['\n']
  have hwhole : byteLength (text (l ++ [.marker m])) =
      byteLength (text l) + byteLength m.source := by
    rw [text_append, byteLength_append]
    simp [text, Piece.source]
  have hholds : holdsMarker (old ++ (placedFrom at_ (l ++ [.marker m]) ++ later)) at_
      (text l ++ front) = true := by
    rw [placedFrom_append]
    refine List.any_eq_true.mpr ⟨⟨m.directive, at_ + byteLength (text l),
      at_ + byteLength (text l) + byteLength m.source⟩, by simp [placedFrom], ?_⟩
    rw [decide_eq_true_eq]
    dsimp only
    omega
  have hnext : at_ + byteLength (text l ++ front) + 1 =
      at_ + byteLength (text (l ++ [.marker m])) := by omega
  rw [unmarkedFrom, hholds, if_pos rfl, hnext]

end Steps

/-- Among the lines of pieces that lie behind other markers those that hold no byte of a marker are
the lines of prose. -/
private theorem unmarkedFrom_text (h : Lined ps ls) (hneat : ∀ m, .marker m ∈ ps → m.Neat)
    {old : List Placed} (hold : ∀ p ∈ old, p.stop ≤ at_) :
    unmarkedFrom (old ++ placedFrom at_ ps) at_ (splitChars (· == '\n') (text ps)) =
      ls.filterMap prose? := by
  induction h generalizing at_ old with
  | @last l hl =>
    have hstep : unmarkedFrom (old ++ (placedFrom at_ l ++ [])) at_ [text l] = _ :=
      unmarkedFrom_cons hneat hold (by simp)
    rw [List.append_nil] at hstep
    rw [Text.splitChars_of_not_mem (lineFeed_not_mem_text hl hneat), hstep]
    cases h : prose? l <;> simp [unmarkedFrom, h]
  | @feed l ps ls hl hrest ih =>
    have hleft : ∀ m, .marker m ∈ l → m.Neat := fun m hm => hneat m (by simp [hm])
    have hright : ∀ m, .marker m ∈ ps → m.Neat := fun m hm => hneat m (by simp [hm])
    have htext : text (l ++ .prose '\n' :: ps) = text l ++ '\n' :: text ps := text_append l _
    have hplaced : placedFrom at_ (l ++ .prose '\n' :: ps) =
        placedFrom at_ l ++ placedFrom (at_ + byteLength (text l) + 1) ps := placedFrom_append ..
    have hbehind : ∀ p ∈ placedFrom (at_ + byteLength (text l) + 1) ps,
        at_ + byteLength (text l) ≤ p.start := fun p hp =>
      (Nat.le_succ _).trans (bounds_of_mem_placedFrom hp).1
    rw [htext, hplaced, Text.splitChars_append_cons (lineFeed_not_mem_text hl hleft),
      unmarkedFrom_cons hleft hold hbehind, ← List.append_assoc,
      ih hright (stop_le_of_append hold (Nat.le_succ _))]
    cases h : prose? l <;> simp [h]
  | @taken l ps ls m hl hm hrest ih =>
    have hleft : ∀ n, .marker n ∈ l → n.Neat := fun n hn => hneat n (by simp [hn])
    have hright : ∀ n, .marker n ∈ ps → n.Neat := fun n hn => hneat n (by simp [hn])
    obtain ⟨front, hne, hfront, hsource⟩ := (takesBreak_iff (hneat m (by simp))).mp hm
    have htext : text (l ++ .marker m :: ps) = (text l ++ front) ++ '\n' :: text ps := by
      rw [text_append, List.append_assoc]
      have hm : text (.marker m :: ps) = m.source ++ text ps := rfl
      rw [hm, hsource, List.append_assoc, List.singleton_append]
    have hline : '\n' ∉ text l ++ front := by
      rw [List.mem_append, not_or]
      exact ⟨lineFeed_not_mem_text hl hleft, hfront⟩
    have hplaced : placedFrom at_ (l ++ .marker m :: ps) = placedFrom at_ (l ++ [.marker m]) ++
        placedFrom (at_ + byteLength (text (l ++ [.marker m]))) ps := by
      rw [← placedFrom_append, List.append_assoc, List.singleton_append]
    have hnone : prose? (l ++ [.marker m]) = none := prose?_of_marker (m := m) (by simp)
    rw [htext, hplaced, Text.splitChars_append_cons hline, unmarkedFrom_taken hne hsource,
      ← List.append_assoc, ih hright (stop_le_of_append hold (Nat.le_refl _)),
      List.filterMap_cons_none hnone]

/-- The unmarked lines of a reply are the lines of prose among its pieces. -/
theorem unmarked_eq (cs : List Char) : unmarked cs = (lines (pieces cs)).filterMap prose? := by
  have hneat : ∀ m, .marker m ∈ pieces cs → m.Neat := fun m => neat_of_mem_pieces
  have h : unmarkedFrom ([] ++ placedFrom 0 (pieces cs)) 0
      (splitChars (· == '\n') (text (pieces cs))) = _ :=
    unmarkedFrom_text (lined_lines (pieces cs)) hneat (by simp)
  rw [text, source_pieces] at h
  exact h

end Reply

end Tabletop
