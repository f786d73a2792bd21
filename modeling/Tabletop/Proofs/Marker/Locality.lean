import Tabletop.Proofs.Marker.Unmarked
import Tabletop.Proofs.Pattern.Locality

/-!
# Markers line by line

A line feed parts a reply: the markers before it are those of the text up to it, and the markers
behind it are those of the text behind it. `placed_append_line` says so with their places.
-/

namespace Tabletop

/-- A marker further on in a text. -/
def Placed.shift (n : Nat) (p : Placed) : Placed := ⟨p.directive, n + p.start, n + p.stop⟩

namespace Grammar

variable {before : Option Char}

/-- Only the pattern of a scene takes a line feed, and none goes further. -/
private theorem confinedBy_pattern (k : Keyword) : (pattern k).confinedBy '\n' = true := by
  cases k <;> decide +kernel

private theorem confinedBy_opening (k : Keyword) : (opening k).confinedBy '\n' = true := by
  cases k <;> decide +kernel

/-- What comes behind a line feed makes no difference to an opening before it. -/
theorem openingAt?_append_line (before : Option Char) (cs more : List Char) :
    openingAt? before (cs ++ '\n' :: more) = openingAt? before (cs ++ ['\n']) := by
  have hkind (k : Keyword) : ((opening k).matchStart (cs ++ '\n' :: more)).map (k, ·.text) =
      ((opening k).matchStart (cs ++ ['\n'])).map (k, ·.text) := by
    rw [Pattern.matchStart_append_of_confinedBy (confinedBy_opening k), Option.map_map]
    rfl
  simp only [openingAt?, hkind]

/-- What comes behind a line feed makes no difference to a marker before it. -/
theorem markerAt?_append_line (before : Option Char) (cs more : List Char) :
    markerAt? before (cs ++ '\n' :: more) = markerAt? before (cs ++ ['\n']) := by
  have hkind (k : Keyword) :
      markerOf? k (cs ++ '\n' :: more) = markerOf? k (cs ++ ['\n']) := by
    rw [markerOf?, markerOf?, Pattern.matchStart_append_of_confinedBy (confinedBy_pattern k)]
    cases (pattern k).matchStart (cs ++ ['\n']) <;> rfl
  simp only [markerAt?, openingAt?_append_line, hkind]

/-- Only its kind of neighbour matters to a marker. -/
theorem markerAt?_congr {b b' : Option Char} (h : b.any Text.isWordChar = b'.any Text.isWordChar)
    (cs : List Char) : markerAt? b cs = markerAt? b' cs := by
  rw [markerAt?, markerAt?, openingAt?_congr h]

end Grammar

namespace Reply

open Grammar (Marker markerAt?)
open Text (byteLength byteLength_append)

variable {before : Option Char} {cs : List Char} {ps qs : List Piece}

/-- Only the kind of neighbour before it matters to the pieces of a text. -/
theorem FallsInto.congr {b b' : Option Char} (hb : b.any Text.isWordChar = b'.any Text.isWordChar)
    (h : FallsInto b cs ps) : FallsInto b' cs ps := by
  cases h with
  | done => exact .done
  | prose hn hrest => exact .prose (Grammar.markerAt?_congr hb _ ▸ hn) hrest
  | @marker _ m rest ps hne hm hrest =>
    apply FallsInto.marker hne (Grammar.markerAt?_congr hb _ ▸ hm)
    have hlast : lastOf b' m.source = lastOf b m.source := by
      simp [lastOf, List.getLast?_eq_some_getLast hne]
    rw [hlast]
    exact hrest

/-- A text up to a line feed falls into the same pieces with more behind the line feed. -/
theorem FallsInto.append_line {more : List Char} (h : FallsInto before (cs ++ ['\n']) ps)
    (hmore : FallsInto (some '\n') more qs) :
    FallsInto before (cs ++ '\n' :: more) (ps ++ qs) := by
  generalize htext : cs ++ ['\n'] = text at h
  induction h generalizing cs with
  | done => simp at htext
  | @prose before c rest ps hn hrest ih =>
    rw [← htext, ← Grammar.markerAt?_append_line before cs more] at hn
    cases cs with
    | nil =>
      rw [List.nil_append, List.cons.injEq] at htext
      obtain ⟨rfl, rfl⟩ := htext
      obtain rfl := hrest.unique .done
      exact .prose hn hmore
    | cons d cs =>
      rw [List.cons_append, List.cons.injEq] at htext
      obtain ⟨rfl, hcs⟩ := htext
      exact .prose hn (ih hcs)
  | @marker before m rest ps hne hm hrest ih =>
    rw [← htext, ← Grammar.markerAt?_append_line before cs more] at hm
    rcases List.eq_nil_or_concat rest with rfl | ⟨s, d, rfl⟩
    · -- the line feed belongs to the marker
      have hsource : cs ++ '\n' :: more = m.source ++ more := by
        rw [← List.append_nil m.source, ← htext, List.append_assoc, List.singleton_append]
      have hlast : lastOf before m.source = some '\n' := by
        rw [← List.append_nil m.source, ← htext, lastOf_append]
        rfl
      obtain rfl := hrest.unique .done
      rw [hsource] at hm ⊢
      exact .marker hne hm (hlast ▸ hmore)
    · rw [List.concat_eq_append, ← List.append_assoc] at htext
      obtain ⟨rfl, hd⟩ := List.append_inj' htext rfl
      rw [List.append_assoc] at hm ⊢
      exact .marker hne hm (ih (by rw [List.concat_eq_append, hd]))

/-- The pieces of a text are those of the text up to a line feed and those of the text behind
it. -/
theorem pieces_append_line (cs more : List Char) :
    pieces (cs ++ '\n' :: more) = pieces (cs ++ ['\n']) ++ pieces more := by
  have hmore : FallsInto (some '\n') more (pieces more) :=
    (fallsInto_pieces more).congr (by decide)
  exact (fallsInto_pieces _).unique ((fallsInto_pieces _).append_line hmore)

private theorem placedFrom_add (n at_ : Nat) (ps : List Piece) :
    placedFrom (n + at_) ps = (placedFrom at_ ps).map (Placed.shift n) := by
  induction ps generalizing at_ with
  | nil => rfl
  | cons p ps ih =>
    cases p with
    | prose c =>
      rw [placedFrom, placedFrom, Nat.add_assoc]
      exact ih _
    | marker m =>
      rw [placedFrom, placedFrom, Nat.add_assoc]
      exact congrArg (_ :: ·) (ih _)

/-- A line feed parts the markers of a reply: those before it are the markers of the text up to it,
and those behind it are the markers of the text behind it, moved on by the bytes before. -/
theorem placed_append_line (cs more : List Char) :
    placed (pieces (cs ++ '\n' :: more)) =
      placed (pieces (cs ++ ['\n'])) ++
        (placed (pieces more)).map (Placed.shift (byteLength cs + 1)) := by
  have hbytes : byteLength (text (pieces (cs ++ ['\n']))) = byteLength cs + 1 := by
    rw [text, source_pieces, byteLength_append]
    rfl
  rw [pieces_append_line, placed, placedFrom_append, hbytes, Nat.zero_add]
  exact congrArg (_ ++ ·) (placedFrom_add (byteLength cs + 1) 0 (pieces more))

end Reply

end Tabletop
