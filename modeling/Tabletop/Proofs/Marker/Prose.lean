import Tabletop.Proofs.Marker.Cleaning
import Tabletop.Proofs.Marker.Unmarked

/-!
# What cleaning leaves of the prose

Gaps before markers, lines that markers leave empty and the ends of a reply are blanks, and cleaning
takes nothing else away. What players read has every other character of the reply in which each
marker has given way to what it leaves.
-/

namespace Tabletop

/-- What players read of a piece. -/
def Piece.shown : Piece → List Char
  | .prose c => [c]
  | .marker m => m.directive.replacement.toList

namespace Reply

open Text (byteLength solid solid_append solid_reverse solid_of_blank)

/-- A text from a byte offset on in which the bytes of each marker have given way to what the marker
leaves. -/
def substitute : Nat → List Placed → List Char → List Char
  | _, [], cs => cs
  | at_, p :: ps, cs =>
    let prose := takeBytes (p.start - at_) cs
    let rest := cs.drop prose.length
    let source := takeBytes (p.stop - p.start) rest
    prose ++ p.directive.replacement.toList ++ substitute p.stop ps (rest.drop source.length)

variable {ps : List Piece} {cs : List Char} {at_ : Nat}

/-! ## Markers given way -/

private theorem takeBytes_zero (cs : List Char) : takeBytes 0 cs = [] := by
  cases cs <;> rfl

private theorem takeBytes_byteLength_append (cs ds : List Char) :
    takeBytes (byteLength cs) (cs ++ ds) = cs := by
  induction cs with
  | nil => exact takeBytes_zero ds
  | cons c cs ih =>
    have hpos := c.utf8Size_pos
    rw [byteLength, List.cons_append, takeBytes, if_neg (by omega), Nat.add_sub_cancel_left, ih]

/-- A character before all markers stays. -/
private theorem substitute_cons {places : List Placed} {c : Char}
    (h : ∀ p ∈ places, at_ + c.utf8Size ≤ p.start) (cs : List Char) :
    substitute at_ places (c :: cs) = c :: substitute (at_ + c.utf8Size) places cs := by
  cases places with
  | nil => rfl
  | cons p places =>
    have hpos := c.utf8Size_pos
    have hle := h p List.mem_cons_self
    have hprose : takeBytes (p.start - at_) (c :: cs) =
        c :: takeBytes (p.start - (at_ + c.utf8Size)) cs := by
      rw [takeBytes, if_neg (by omega), Nat.sub_add_eq]
    simp only [substitute, hprose, List.length_cons, List.drop_succ_cons, List.cons_append]

/-- In the text of pieces each marker gives way to what players read of it. -/
theorem substitute_placedFrom (at_ : Nat) (ps : List Piece) :
    substitute at_ (placedFrom at_ ps) (text ps) = ps.flatMap Piece.shown := by
  induction ps generalizing at_ with
  | nil => rfl
  | cons q ps ih =>
    rw [List.flatMap_cons]
    cases q with
    | prose c =>
      have hbehind : ∀ p ∈ placedFrom (at_ + c.utf8Size) ps, at_ + c.utf8Size ≤ p.start :=
        fun p hp => (bounds_of_mem_placedFrom hp).1
      rw [placedFrom, ← ih]
      exact substitute_cons hbehind _
    | marker m =>
      have htext : text (.marker m :: ps) = m.source ++ text ps := rfl
      simp only [htext, placedFrom, Piece.shown, substitute, Nat.sub_self, takeBytes_zero,
        List.length_nil, List.drop_zero, List.nil_append, Nat.add_sub_cancel_left,
        takeBytes_byteLength_append, List.drop_left, ih]

/-! ## Blanks taken away -/

private theorem isBlank_of_isGap {c : Char} (h : Grammar.isGap c = true) :
    Text.isBlank c = true := by
  by_contra hnot
  rw [Grammar.isGap_of_not_blank (Bool.eq_false_iff.mpr hnot)] at h
  cases h

/-- Of the text before a marker at most a gap is taken away. -/
private theorem solid_writePieces (d : Draft) (ps : List Piece) :
    solid (writePieces d ps).written =
      (solid (ps.flatMap Piece.shown)).reverse ++ solid d.written := by
  induction ps generalizing d with
  | nil => rfl
  | cons q ps ih =>
    rw [List.flatMap_cons, solid_append, List.reverse_append, List.append_assoc, ← solid_reverse,
      ← solid_reverse, ← solid_append q.shown.reverse]
    cases q with
    | prose c =>
      rw [writePieces, ih, solid_reverse]
      rfl
    | marker m =>
      simp only [writePieces]
      split
      · next hempty =>
        rw [ih, Piece.shown, List.isEmpty_iff.mp hempty, solid_reverse]
        dsimp only
        split
        · rw [Text.solid_dropWhile fun _ => isBlank_of_isGap]
          rfl
        · rfl
      · rw [ih, Piece.shown, solid_reverse]

/-- Only blank lines are left out. -/
private theorem flatMap_solid_keptLines (rs : List Nat) (at_ : Nat) (lines : List (List Char)) :
    (keptLines rs at_ lines).flatMap solid = lines.flatMap solid := by
  induction lines generalizing at_ with
  | nil => rfl
  | cons line lines ih =>
    rw [keptLines]
    split
    · next h =>
      rw [ih, List.flatMap_cons, solid_of_blank (Bool.and_eq_true_iff.mp h).2, List.nil_append]
    · rw [List.flatMap_cons, ih, List.flatMap_cons]

private theorem intercalate_splitChars (cs : List Char) :
    ['\n'].intercalate (Text.splitChars (· == '\n') cs) = cs := by
  rw [Text.splitChars_eq_splitOnP, ← List.splitOn_eq_splitOnP, List.intercalate_splitOn]

private theorem solid_dropEmptied (rs : List Nat) (cs : List Char) :
    solid (dropEmptied rs cs) = solid cs := by
  have hfeed : ['\n'].all Text.isBlank = true := rfl
  rw [dropEmptied, Text.joinChars_eq_intercalate, Text.solid_intercalate hfeed,
    flatMap_solid_keptLines, ← Text.solid_intercalate hfeed, intercalate_splitChars]

private theorem solid_cleanChars (ps : List Piece) :
    solid (cleanChars ps) = solid (ps.flatMap Piece.shown) := by
  rw [cleanChars, Text.solid_trimChars, solid_dropEmptied, solid_reverse, solid_writePieces]
  simp [solid]

/-! ## Replies without markers -/

private theorem keptLines_nil (at_ : Nat) (lines : List (List Char)) :
    keptLines [] at_ lines = lines := by
  induction lines generalizing at_ with
  | nil => rfl
  | cons line lines ih => simp [keptLines, ih]

private theorem eq_map_of_placedFrom (h : placedFrom at_ ps = []) :
    ps = (text ps).map .prose := by
  induction ps generalizing at_ with
  | nil => rfl
  | cons q ps ih =>
    cases q with
    | prose c => exact congrArg (.prose c :: ·) (ih h)
    | marker m => cases h

private theorem cleanChars_map_prose (cs : List Char) :
    cleanChars (cs.map .prose) = Text.trimChars cs := by
  have hdraft : writePieces ⟨[], []⟩ (cs.map .prose ++ []) = ⟨cs.reverse ++ [], []⟩ :=
    Line.writePieces_prose ⟨[], []⟩ cs []
  rw [List.append_nil, List.append_nil] at hdraft
  simp only [cleanChars, hdraft, List.reverse_reverse, dropEmptied, keptLines_nil,
    Text.joinChars_eq_intercalate, intercalate_splitChars]

/-- Cleaning eats no prose: but for blanks, what players read of a reply is the reply with each
marker given way to what it leaves. Where there is no marker, the reply is trimmed and no more. -/
theorem solid_clean (reply : String) :
    solid (clean (pieces reply.toList)).toList =
        solid (substitute 0 (placed (pieces reply.toList)) reply.toList) ∧
      (placed (pieces reply.toList) = [] → clean (pieces reply.toList) = Text.trim reply) := by
  have htext : text (pieces reply.toList) = reply.toList := source_pieces reply.toList
  constructor
  · rw [clean, String.toList_ofList, solid_cleanChars, placed]
    -- The markers give way in the text that the pieces make up.
    nth_rewrite 3 [← htext]
    rw [substitute_placedFrom]
  · intro hnone
    rw [clean, eq_map_of_placedFrom hnone, cleanChars_map_prose, htext, Text.trim]

/-- A blow and a find, of which a gap goes and a name stays, and a greeting. -/
theorem solid_clean_find :
    let ps := pieces "Alas! DAMAGE:Bo,4\n\nA ITEM:[Ring] (Tag: gem).".toList
    clean ps = "Alas!\n\nA Ring." ∧
      solid (clean ps).toList = solid (substitute 0 (placed ps)
        "Alas! DAMAGE:Bo,4\n\nA ITEM:[Ring] (Tag: gem).".toList) ∧
      placed (pieces "Well met. ".toList) = [] ∧
        clean (pieces "Well met. ".toList) = Text.trim "Well met. " :=
  have hnone : placed (pieces "Well met. ".toList) = [] := by decide +kernel
  ⟨by decide +kernel, (solid_clean _).1, hnone, (solid_clean _).2 hnone⟩

end Reply

end Tabletop
