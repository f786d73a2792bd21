import Tabletop.Proofs.Marker.Lines
import Tabletop.Proofs.Text.Bytes

/-!
# What players read of a reply

Of a reply by lines the players read the lines that are no markers, with every item by its name
alone. The text written first still has a line for each marker but those of scenes; a removal stands
at its start, and that is how the line is known for one that the removal has emptied.
-/

namespace Tabletop.Reply.Line

open Text (byteLength byteLength_append byteLength_reverse)

/-! ## The text as written first -/

/-- What is left of a line without its markers. -/
def left (l : Line) : List Char := (l.shown?.getD "").toList

/-- The removal of a line that starts at a byte offset, if it is one. -/
def removed (at_ : Nat) (l : Line) : List Nat := if l.shown?.isSome then [] else [at_]

/-- What is left of the lines; of a scene even the break is gone. -/
def leftLines : List Line → List (List Char)
  | [] => []
  | [l] => [l.left]
  | l :: m :: ls => if l.isScene then leftLines (m :: ls) else l.left :: leftLines (m :: ls)

/-- Where the line after a line starts. -/
def next (at_ : Nat) (l : Line) : Nat := if l.isScene then at_ else at_ + byteLength l.left + 1

/-- The removals of lines that start at a byte offset. -/
def removals : Nat → List Line → List Nat
  | _, [] => []
  | at_, [l] => l.removed at_
  | at_, l :: m :: ls => l.removed at_ ++ removals (l.next at_) (m :: ls)

/-- No gap can be trimmed away from the end of what is written. -/
def AtLineStart (written : List Char) : Prop := written.dropWhile Grammar.isGap = written

/-- Prose is written as it stands. -/
theorem writePieces_prose (d : Draft) (cs : List Char) (ps : List Piece) :
    writePieces d (cs.map .prose ++ ps) = writePieces ⟨cs.reverse ++ d.written, d.removals⟩ ps := by
  induction cs generalizing d with
  | nil => rfl
  | cons c cs ih =>
    rw [List.map_cons, List.cons_append, writePieces, ih]
    simp

private theorem writePieces_removed {d : Draft} {m : Grammar.Marker} {ps : List Piece}
    (hm : m.directive.replacement = "") (hstart : AtLineStart d.written) :
    writePieces d (.marker m :: ps) =
      writePieces ⟨d.written, d.removals ++ [byteLength d.written]⟩ ps := by
  have hempty : m.directive.replacement.toList.isEmpty = true := by
    rw [hm]
    rfl
  have hwritten : (if closesGap (nextChar ps) = true then
      d.written.dropWhile Grammar.isGap else d.written) = d.written := by
    split
    · exact hstart
    · rfl
  simp only [writePieces, hempty, if_true, hwritten]

private theorem replacement_of_ne_item {d : Directive} (h : d.keyword ≠ .item) :
    d.replacement = "" := by
  cases d with
  | item => exact absurd rfl h
  | _ => rfl

private theorem writePieces_pieces {d : Draft} {l : Line} {ps : List Piece} (hw : l.WellFormed)
    (hstart : AtLineStart d.written) :
    writePieces d (l.pieces ++ ps) =
      writePieces ⟨l.left.reverse ++ d.written,
        d.removals ++ l.removed (byteLength d.written)⟩ ps := by
  cases l with
  | prose s =>
    rw [pieces, writePieces_prose]
    simp [left, shown?, removed]
  | marker e =>
    rw [pieces, List.singleton_append, writePieces_removed (replacement_of_ne_item hw.2) hstart]
    simp [left, shown?, removed]
  | found pre name tag post =>
    have hne : name.toList.isEmpty = false := by
      simpa using hw.2.1.1.1
    rw [pieces, List.append_assoc, List.cons_append, writePieces_prose]
    simp only [writePieces, Directive.replacement, hne, Bool.false_eq_true, if_false]
    rw [writePieces_prose]
    simp [left, shown?, removed]

/-- What is written once a line and its break are. -/
private def broken (written : List Char) (l : Line) : List Char :=
  if l.isScene then written else '\n' :: (l.left.reverse ++ written)

private theorem writePieces_brokenPieces {d : Draft} {l : Line} {ps : List Piece}
    (hw : l.WellFormed) (hstart : AtLineStart d.written) :
    writePieces d (l.brokenPieces ++ ps) =
      writePieces ⟨broken d.written l, d.removals ++ l.removed (byteLength d.written)⟩ ps := by
  have hbreak (he : l.isScene = false) : writePieces d (l.pieces ++ [.prose '\n'] ++ ps) =
      writePieces ⟨broken d.written l, d.removals ++ l.removed (byteLength d.written)⟩ ps := by
    rw [List.append_assoc, writePieces_pieces hw hstart, broken, he]
    rfl
  cases l with
  | prose s => exact hbreak rfl
  | found pre name tag post => exact hbreak rfl
  | marker e =>
    by_cases ha : e.keyword = .ambiance
    · have hscene : (marker e).isScene = true := by rw [isScene, ha]; rfl
      rw [brokenPieces, if_pos ha, List.singleton_append,
        writePieces_removed (replacement_of_ne_item hw.2) hstart, broken, hscene]
      rfl
    · rw [brokenPieces, if_neg ha]
      exact hbreak (by simpa [isScene] using ha)

private theorem atLineStart_broken {written : List Char} {l : Line} (h : AtLineStart written) :
    AtLineStart (broken written l) := by
  unfold broken
  split
  · exact h
  · rfl

private theorem byteLength_broken (written : List Char) (l : Line) :
    byteLength (broken written l) = l.next (byteLength written) := by
  unfold broken next
  split
  · rfl
  · have hbreak : ('\n' : Char).utf8Size = 1 := rfl
    rw [byteLength, byteLength_append, byteLength_reverse, hbreak]
    omega

private theorem leftLines_ne_nil (l : Line) (ls : List Line) : leftLines (l :: ls) ≠ [] := by
  induction ls generalizing l with
  | nil => exact List.cons_ne_nil _ _
  | cons m ls ih =>
    rw [leftLines]
    split
    · exact ih m
    · exact List.cons_ne_nil _ _

private theorem reverse_leftLines (l m : Line) (ls : List Line) (written : List Char) :
    (['\n'].intercalate (leftLines (m :: ls))).reverse ++ broken written l =
      (['\n'].intercalate (leftLines (l :: m :: ls))).reverse ++ written := by
  rw [broken, leftLines]
  split
  · rfl
  · rw [List.intercalate_cons_of_ne_nil (leftLines_ne_nil m ls)]
    simp

/-- The text as written first is what is left of the lines, with the removals of the others. -/
private theorem writePieces_joinedPieces (lines : List Line) (d : Draft)
    (hw : ∀ l ∈ lines, l.WellFormed) (hstart : AtLineStart d.written) :
    writePieces d (joinedPieces lines) =
      ⟨(['\n'].intercalate (leftLines lines)).reverse ++ d.written,
        d.removals ++ removals (byteLength d.written) lines⟩ := by
  induction lines generalizing d with
  | nil => simp [joinedPieces, writePieces, leftLines, removals]
  | cons l ls ih =>
    have hl : l.WellFormed := hw l (by simp)
    cases ls with
    | nil =>
      have h : writePieces d (l.pieces ++ []) = _ := writePieces_pieces hl hstart
      rw [List.append_nil] at h
      rw [joinedPieces, h, leftLines, List.intercalate_singleton]
      rfl
    | cons m ls =>
      rw [joinedPieces, writePieces_brokenPieces hl hstart,
        ih ⟨broken d.written l, _⟩ (fun k hk => hw k (by simp [hk])) (atLineStart_broken hstart)]
      simp only
      rw [reverse_leftLines, byteLength_broken, removals, List.append_assoc]

/-! ## The lines that are kept -/

private theorem removed_of_isSome {at_ : Nat} {l : Line} (h : l.shown?.isSome) :
    l.removed at_ = [] := if_pos h

private theorem removed_of_eq_none {at_ : Nat} {l : Line} (h : l.shown? = none) :
    l.removed at_ = [at_] := by
  rw [removed, h]
  rfl

private theorem eq_of_mem_removed {r at_ : Nat} {l : Line} (h : r ∈ l.removed at_) : r = at_ := by
  unfold removed at h
  split at h
  · cases h
  · exact List.mem_singleton.mp h

private theorem le_of_mem_append_removed {r at_ : Nat} {l : Line} {old : List Nat}
    (hold : ∀ r ∈ old, r ≤ at_) (h : r ∈ old ++ l.removed at_) : r ≤ at_ := by
  rcases List.mem_append.mp h with h | h
  · exact hold r h
  · exact Nat.le_of_eq (eq_of_mem_removed h)

private theorem le_of_mem_removals {r at_ : Nat} {lines : List Line} (h : r ∈ removals at_ lines) :
    at_ ≤ r := by
  induction lines generalizing at_ with
  | nil => cases h
  | cons l ls ih =>
    cases ls with
    | nil => exact Nat.le_of_eq (eq_of_mem_removed h).symm
    | cons m ls =>
      rw [removals] at h
      rcases List.mem_append.mp h with h | h
      · exact Nat.le_of_eq (eq_of_mem_removed h).symm
      · refine Nat.le_trans ?_ (ih h)
        unfold next
        split <;> omega

private theorem all_isBlank_left {l : Line} (hw : l.WellFormed) (hs : l.shown?.isSome)
    (hb : l.isBlank = false) : l.left.all Text.isBlank = false := by
  cases l with
  | prose s => exact hb
  | marker d => cases hs
  | found pre name tag post =>
    obtain ⟨c, cs, hcs, -, hc⟩ := hw.2.1.1.exists_cons
    simp [left, shown?, hcs, hc]

private theorem keptLines_cons {rs : List Nat} {at_ : Nat} {l : Line} {rest : List (List Char)}
    (hw : l.WellFormed) (hmarker : l.shown? = none → at_ ∈ rs)
    (hshown : l.shown?.isSome →
      ∀ r ∈ rs, at_ ≤ r → r ≤ at_ + byteLength l.left → l.isBlank = false) :
    keptLines rs at_ (l.left :: rest) =
      l.shown?.toList.map String.toList ++ keptLines rs (at_ + byteLength l.left + 1) rest := by
  cases hs : l.shown? with
  | none =>
    have hleft : l.left = [] := by rw [left, hs]; rfl
    have hany : rs.any (fun r => decide (at_ ≤ r) && decide (r ≤ at_ + byteLength [])) = true :=
      List.any_eq_true.mpr ⟨at_, hmarker hs, by simp⟩
    rw [hleft, keptLines, hany]
    rfl
  | some s =>
    have hsome : l.shown?.isSome := by rw [hs]; rfl
    have hleft : l.left = s.toList := by rw [left, hs]; rfl
    rw [keptLines]
    split
    · next h =>
      simp only [Bool.and_eq_true, List.any_eq_true, decide_eq_true_eq] at h
      obtain ⟨⟨r, hr, hle, hge⟩, hall⟩ := h
      rw [all_isBlank_left hw hsome (hshown hsome r hr hle hge)] at hall
      cases hall
    · simp [hleft]

-- By induction on the lines: the removals up to here lie before the line at hand, except that the
-- one of a scene right before it may lie at its start.
private theorem keptLines_leftLines (lines : List Line) (old : List Nat) (at_ : Nat)
    (hw : ∀ l ∈ lines, l.WellFormed)
    (hchain : lines.IsChain fun l m => l.isScene = true → m.isBlank = false)
    (hold : ∀ r ∈ old, r ≤ at_) (hhead : at_ ∈ old → ∀ l ∈ lines.head?, l.isBlank = false) :
    keptLines (old ++ removals at_ lines) at_ (leftLines lines) =
      (lines.filterMap shown?).map String.toList := by
  induction lines generalizing old at_ with
  | nil => rfl
  | cons l ls ih =>
    have hl : l.WellFormed := hw l (by simp)
    have hblank (r : Nat) (hr : r ∈ old) (hle : at_ ≤ r) : l.isBlank = false := by
      have he : r = at_ := Nat.le_antisymm (hold r hr) hle
      exact hhead (he ▸ hr) l rfl
    cases ls with
    | nil =>
      rw [leftLines, removals, keptLines_cons hl]
      · cases h : l.shown? <;> simp [h, keptLines]
      · intro h
        simp [removed_of_eq_none h]
      · intro h r hr hle _
        rw [removed_of_isSome h, List.append_nil] at hr
        exact hblank r hr hle
    | cons m ls =>
      have hms : ∀ k ∈ m :: ls, k.WellFormed := fun k hk => hw k (List.mem_cons_of_mem _ hk)
      obtain ⟨hlm, hchain⟩ := List.isChain_cons_cons.mp hchain
      have hfilter : ((l :: m :: ls).filterMap shown?).map String.toList =
          l.shown?.toList.map String.toList ++ ((m :: ls).filterMap shown?).map String.toList := by
        cases h : l.shown? <;> simp [List.filterMap_cons, h]
      rw [leftLines, removals, ← List.append_assoc, hfilter]
      cases hscene : l.isScene with
      | true =>
        have hnone : l.shown? = none := by
          cases l with
          | marker d => rfl
          | _ => cases hscene
        have hnext : l.next at_ = at_ := by rw [next, hscene]; rfl
        rw [hnext, hnone]
        apply ih (old ++ l.removed at_) at_ hms hchain
        · intro r hr
          exact le_of_mem_append_removed hold hr
        · intro _ k hk
          cases hk
          exact hlm hscene
      | false =>
        have hnext : l.next at_ = at_ + byteLength l.left + 1 := by rw [next, hscene]; rfl
        rw [if_neg Bool.false_ne_true, keptLines_cons hl, hnext,
          ih (old ++ l.removed at_) _ hms hchain]
        · intro r hr
          have hle := le_of_mem_append_removed hold hr
          omega
        · intro hr
          have hle := le_of_mem_append_removed hold hr
          omega
        · intro h
          simp [removed_of_eq_none h]
        · intro h r hr hle hge
          rw [removed_of_isSome h, List.append_nil] at hr
          rcases List.mem_append.mp hr with hr | hr
          · exact hblank r hr hle
          · have hlt := le_of_mem_removals hr
            omega

private theorem lineFeed_not_mem_left {l : Line} (hw : l.WellFormed) : '\n' ∉ l.left := by
  cases l with
  | prose s => exact hw.1
  | marker d => simp [left, shown?]
  | found pre name tag post =>
    obtain ⟨⟨hpre, -, -⟩, ⟨hname, -⟩, hpost, -⟩ := hw
    have hn : '\n' ∉ name.toList := fun hm => absurd (hname.2.2 _ hm) (by decide)
    simp [left, shown?, hpre, hn, hpost]

private theorem mem_leftLines {piece : List Char} {lines : List Line}
    (h : piece ∈ leftLines lines) : ∃ l ∈ lines, piece = l.left := by
  induction lines with
  | nil => cases h
  | cons l ls ih =>
    cases ls with
    | nil => exact ⟨l, by simp, List.mem_singleton.mp h⟩
    | cons m ls =>
      have hlater (h : piece ∈ leftLines (m :: ls)) : ∃ k ∈ l :: m :: ls, piece = k.left := by
        obtain ⟨k, hk, he⟩ := ih h
        exact ⟨k, List.mem_cons_of_mem _ hk, he⟩
      rw [leftLines] at h
      split at h
      · exact hlater h
      · rcases List.mem_cons.mp h with h | h
        · exact ⟨l, by simp, h⟩
        · exact hlater h

/-- Players read the lines that are no markers, with each item by its name. -/
theorem clean_joinedPieces {lines : List Line} (hw : ∀ l ∈ lines, l.WellFormed)
    (hchain : lines.IsChain fun l m => l.isScene = true → m.isBlank = false) :
    clean (joinedPieces lines) = Text.trim ("\n".intercalate (lines.filterMap shown?)) := by
  have hkept : keptLines (removals 0 lines) 0
      (Text.splitChars (· == '\n') (['\n'].intercalate (leftLines lines))) =
        (lines.filterMap shown?).map String.toList ∨ lines = [] := by
    cases lines with
    | nil => exact .inr rfl
    | cons l ls =>
      have hne : leftLines (l :: ls) ≠ [] := leftLines_ne_nil l ls
      rw [Text.splitChars_intercalate hne fun piece hp => ?_]
      · exact .inl (keptLines_leftLines _ [] 0 hw hchain (by simp) (by simp))
      · obtain ⟨k, hk, rfl⟩ := mem_leftLines hp
        exact lineFeed_not_mem_left (hw k hk)
  rcases hkept with hkept | rfl
  · rw [clean, cleanChars, writePieces_joinedPieces lines ⟨[], []⟩ hw rfl, Text.trim,
      String.toList_intercalate]
    simp only [List.append_nil, List.reverse_reverse, List.nil_append, dropEmptied,
      Text.joinChars_eq_intercalate]
    rw [show byteLength [] = 0 from rfl, hkept]
    rfl
  · rfl

private theorem directives_append (ps qs : List Piece) :
    directives (ps ++ qs) = directives ps ++ directives qs := by
  induction ps with
  | nil => rfl
  | cons p ps ih => cases p <;> simp [directives, ih]

private theorem directives_prose (cs : List Char) : directives (cs.map .prose) = [] := by
  induction cs with
  | nil => rfl
  | cons c cs ih => simpa [directives] using ih

private theorem directives_pieces (l : Line) : directives l.pieces = l.directive?.toList := by
  cases l with
  | prose s => exact directives_prose s.toList
  | marker d => rfl
  | found pre name tag post =>
    rw [pieces, directives_append, directives_prose, directives, directives_prose]
    rfl

private theorem directives_brokenPieces (l : Line) :
    directives l.brokenPieces = l.directive?.toList := by
  have hbreak : directives (l.pieces ++ [.prose '\n']) = l.directive?.toList := by
    rw [directives_append, directives_pieces]
    exact List.append_nil _
  cases l with
  | prose s => exact hbreak
  | found pre name tag post => exact hbreak
  | marker d =>
    rw [brokenPieces]
    split
    · rfl
    · exact hbreak

/-- The directives are those of the lines, in order. -/
theorem directives_joinedPieces (lines : List Line) :
    directives (joinedPieces lines) = lines.filterMap directive? := by
  induction lines with
  | nil => rfl
  | cons l ls ih =>
    have hcons : (l :: ls).filterMap directive? =
        l.directive?.toList ++ ls.filterMap directive? := by
      cases h : l.directive? <;> simp [h]
    cases ls with
    | nil => rw [joinedPieces, directives_pieces, hcons, List.filterMap_nil, List.append_nil]
    | cons m ls => rw [joinedPieces, directives_append, directives_brokenPieces, ih, hcons]

/-- A reply written by lines comes back from the scan: it is cut into the pieces of its lines, which
cover each rendering exactly, it gives their directives in order, and what players read of it are
the lines that are no markers, with items by their names. -/
theorem roundTrip {lines : List Line} (hw : ∀ l ∈ lines, l.WellFormed)
    (hchain : lines.IsChain fun l m => l.isScene = true → m.isBlank = false) :
    Reply.pieces (join lines).toList = joinedPieces lines ∧
      directives (Reply.pieces (join lines).toList) = lines.filterMap directive? ∧
        clean (Reply.pieces (join lines).toList) =
          Text.trim ("\n".intercalate (lines.filterMap shown?)) := by
  rw [pieces_join hw]
  exact ⟨rfl, directives_joinedPieces lines, clean_joinedPieces hw hchain⟩

/-- A scene, a blow and an item found. -/
theorem roundTrip_ambush :
    clean (Reply.pieces (join [.marker (.ambiance "A hall"), .prose "Arrows!",
      .marker (.damage "Bo" 4), .found "Gold: " "Ring" "gem" "."]).toList) =
        "Arrows!\nGold: Ring." :=
  (roundTrip (by decide) (by decide)).2.2
end Tabletop.Reply.Line
