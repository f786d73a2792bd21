import Mathlib.Data.List.DropRight
import Mathlib.Data.List.Infix
import Tabletop.Proofs.Marker.Breaks
import Tabletop.Proofs.Marker.Cleaning

/-!
# Replies stretch by stretch

A stretch of a reply is what stands between two line feeds that belong to no marker. Each is written
as one line, and what is written of it does not depend on the others: at the start of a line there
is no gap that a marker could take away. So the text has a line for every stretch, and the removals
of a stretch stand where its line does, unless a gap that they are measured by is taken away later.
-/

namespace Tabletop.Reply

open Grammar (isGap)
open Line (AtLineStart)
open Text (byteLength byteLength_append byteLength_reverse)

/-- The pieces of a reply between the line feeds that belong to no marker. -/
def stretches (ps : List Piece) : List (List Piece) := ps.splitOn (.prose '\n')

/-- What is written of a stretch. -/
def written (g : List Piece) : List Char := (writePieces ⟨[], []⟩ g).written.reverse

/-- The removals of a stretch that is written from a byte offset on. -/
def removed (at_ : Nat) (g : List Piece) : List Nat :=
  (writePieces ⟨[], []⟩ g).removals.map (· + at_)

/-- The removals of stretches that are written from a byte offset on. -/
def removals : Nat → List (List Piece) → List Nat
  | _, [] => []
  | at_, g :: gs => removed at_ g ++ removals (at_ + byteLength (written g) + 1) gs

variable {g ps qs : List Piece} {gs : List (List Piece)} {at_ : Nat}

/-! ## Pieces of a stretch -/

private theorem infix_intercalate {α : Type} (sep : List α) {l : List α} {ls : List (List α)}
    (h : l ∈ ls) : l <:+: sep.intercalate ls := by
  induction ls with
  | nil => cases h
  | cons k ls ih =>
    cases ls with
    | nil =>
      rw [List.mem_singleton.mp h, List.intercalate_singleton]
    | cons k' ls =>
      rw [List.intercalate_cons_cons]
      rcases List.mem_cons.mp h with h | h
      · rw [h, List.append_assoc]
        exact (List.prefix_append k _).isInfix
      · exact (ih h).trans (List.suffix_append _ _).isInfix

/-- A stretch is a part of the reply. -/
theorem infix_of_mem_stretches (h : g ∈ stretches ps) : g <:+: ps := by
  have hjoined := infix_intercalate [.prose '\n'] h
  rwa [stretches, List.intercalate_splitOn] at hjoined

private theorem not_mem_of_mem_splitOn {α : Type} [BEq α] [LawfulBEq α] {a : α} {l xs : List α}
    (h : l ∈ xs.splitOn a) : a ∉ l := by
  induction xs generalizing l with
  | nil =>
    rw [List.splitOn_nil] at h
    simp [List.mem_singleton.mp h]
  | cons x xs ih =>
    rw [List.splitOn_cons_eq_if_modifyHead] at h
    split at h
    · rcases List.mem_cons.mp h with h | h
      · simp [h]
      · exact ih h
    · next hx =>
      obtain ⟨k, ks, hks⟩ := List.exists_cons_of_ne_nil (List.splitOn_ne_nil a xs)
      rw [hks] at h ih
      rcases List.mem_cons.mp h with h | h
      · rw [h, List.mem_cons, not_or]
        exact ⟨fun he => hx (beq_iff_eq.mpr he.symm), ih (List.mem_cons_self ..)⟩
      · exact ih (List.mem_cons_of_mem _ h)

/-- No line feed of prose stands in a stretch. -/
theorem lineFeed_not_mem (h : g ∈ stretches ps) : .prose '\n' ∉ g := not_mem_of_mem_splitOn h

private theorem mem_written {d : Draft} {c : Char} (h : c ∈ (writePieces d ps).written) :
    c ∈ d.written ∨ .prose c ∈ ps ∨
      ∃ m, .marker m ∈ ps ∧ c ∈ m.directive.replacement.toList := by
  induction ps generalizing d with
  | nil => exact .inl h
  | cons p ps ih =>
    -- Whatever stands before the rest is written is of the draft or of the first piece.
    have hrest {d' : Draft} (hd' : c ∈ d'.written → c ∈ d.written ∨ .prose c ∈ p :: ps ∨
        ∃ m, .marker m ∈ p :: ps ∧ c ∈ m.directive.replacement.toList)
        (h : c ∈ (writePieces d' ps).written) : c ∈ d.written ∨ .prose c ∈ p :: ps ∨
          ∃ m, .marker m ∈ p :: ps ∧ c ∈ m.directive.replacement.toList := by
      rcases ih h with h | h | ⟨m, hm, h⟩
      · exact hd' h
      · exact .inr (.inl (List.mem_cons_of_mem _ h))
      · exact .inr (.inr ⟨m, List.mem_cons_of_mem _ hm, h⟩)
    cases p with
    | prose c' =>
      refine hrest (fun hc => ?_) h
      rcases List.mem_cons.mp hc with rfl | hc
      · exact .inr (.inl (List.mem_cons_self ..))
      · exact .inl hc
    | marker m =>
      simp only [writePieces] at h
      split at h
      · refine hrest (fun hc => .inl ?_) h
        split at hc
        · exact (List.dropWhile_sublist _).subset hc
        · exact hc
      · refine hrest (fun hc => ?_) h
        rcases List.mem_append.mp hc with hc | hc
        · exact .inr (.inr ⟨m, List.mem_cons_self .., List.mem_reverse.mp hc⟩)
        · exact .inl hc

/-- A stretch is written as one line. -/
theorem lineFeed_not_mem_written (hneat : ∀ m, .marker m ∈ g → m.Neat) (h : .prose '\n' ∉ g) :
    '\n' ∉ written g := by
  intro hm
  rcases mem_written (List.mem_reverse.mp hm) with hm | hm | ⟨m, hm, hc⟩
  · cases hm
  · exact h hm
  · have hne : m.directive.replacement ≠ "" := by
      intro he
      rw [he] at hc
      cases hc
    exact ((hneat m hm).left hne).2 hc

/-! ## Writing stretch by stretch -/

private theorem closesGap_nextChar_append (h : closesGap (nextChar qs) = true) :
    closesGap (nextChar (ps ++ qs)) = closesGap (nextChar ps) := by
  induction ps with
  | nil => exact h
  | cons p ps ih =>
    simp only [List.cons_append, nextChar]
    cases p.source.head? with
    | none => exact ih
    | some c => rfl

/-- What closes a gap is written after what stands before it as if it stood alone. -/
private theorem writePieces_append (h : closesGap (nextChar qs) = true) (d : Draft) :
    writePieces d (ps ++ qs) = writePieces (writePieces d ps) qs := by
  induction ps generalizing d with
  | nil => rfl
  | cons p ps ih =>
    cases p with
    | prose c => exact ih _
    | marker m =>
      simp only [List.cons_append, writePieces, closesGap_nextChar_append h]
      split
      · exact ih _
      · exact ih _

private theorem dropWhile_append_of_atLineStart {base : List Char} (h : AtLineStart base)
    (cs : List Char) : (cs ++ base).dropWhile isGap = cs.dropWhile isGap ++ base := by
  induction cs with
  | nil => exact h
  | cons c cs ih =>
    rw [List.cons_append, List.dropWhile_cons, List.dropWhile_cons, ih]
    split <;> rfl

/-- What is written from the start of a line on does not depend on what stands before. -/
private theorem writePieces_shift {base : List Char} (h : AtLineStart base) (old : List Nat)
    (d : Draft) (ps : List Piece) :
    writePieces ⟨d.written ++ base, old ++ d.removals.map (· + byteLength base)⟩ ps =
      ⟨(writePieces d ps).written ++ base,
        old ++ (writePieces d ps).removals.map (· + byteLength base)⟩ := by
  induction ps generalizing d with
  | nil => rfl
  | cons p ps ih =>
    cases p with
    | prose c => exact ih ⟨c :: d.written, d.removals⟩
    | marker m =>
      simp only [writePieces]
      split
      · have hwritten : (if closesGap (nextChar ps) = true then
            (d.written ++ base).dropWhile isGap else d.written ++ base) =
              (if closesGap (nextChar ps) = true then d.written.dropWhile isGap
                else d.written) ++ base := by
          split
          · exact dropWhile_append_of_atLineStart h _
          · rfl
        rw [hwritten, byteLength_append, ← ih, List.map_append, List.append_assoc]
        rfl
      · rw [← List.append_assoc]
        exact ih ⟨m.directive.replacement.toList.reverse ++ d.written, d.removals⟩

private theorem writePieces_stretch {d : Draft} (h : AtLineStart d.written) :
    writePieces d g =
      ⟨(written g).reverse ++ d.written, d.removals ++ removed (byteLength d.written) g⟩ := by
  have hshift := writePieces_shift h d.removals ⟨[], []⟩ g
  rw [List.nil_append, List.map_nil, List.append_nil] at hshift
  rw [written, List.reverse_reverse]
  exact hshift

/-- The text as written first has a line for every stretch. -/
theorem writePieces_intercalate {d : Draft} (hne : gs ≠ []) (h : AtLineStart d.written) :
    writePieces d ([.prose '\n'].intercalate gs) =
      ⟨(['\n'].intercalate (gs.map written)).reverse ++ d.written,
        d.removals ++ removals (byteLength d.written) gs⟩ := by
  induction gs generalizing d with
  | nil => exact absurd rfl hne
  | cons g gs ih =>
    cases gs with
    | nil => simpa [removals] using writePieces_stretch h
    | cons g' gs =>
      rw [List.intercalate_cons_cons, List.append_assoc, writePieces_append (by rfl),
        writePieces_stretch h, List.singleton_append, writePieces, ih (by simp) (by rfl)]
      have hoffset : byteLength ('\n' :: ((written g).reverse ++ d.written)) =
          byteLength d.written + byteLength (written g) + 1 := by
        have hbreak : ('\n' : Char).utf8Size = 1 := rfl
        rw [byteLength, byteLength_append, byteLength_reverse, hbreak]
        omega
      simp only [hoffset, removals, List.map_cons, List.append_assoc, List.intercalate_cons_cons,
        List.reverse_append, List.reverse_cons, List.nil_append, List.cons_append]

/-! ## Removals within a stretch -/

/-- No gap stands right before two markers that touch. -/
def Steady (ps : List Piece) : Prop :=
  ∀ c m n, [.prose c, .marker m, .marker n] <:+: ps → isGap c = false

/-- Pieces start with a gap right before two markers that touch. -/
private def startsUnsteady : List Piece → Bool
  | .prose c :: .marker _ :: .marker _ :: _ => isGap c
  | _ => false

private theorem steady_iff : Steady ps ↔ ∀ qs ∈ ps.tails, startsUnsteady qs = false := by
  constructor
  · intro h qs hqs
    unfold startsUnsteady
    split
    · next c m n rest =>
      have hpart := ((List.mem_tails _ _).mp hqs).isInfix
      exact h c m n ((List.prefix_append _ rest).isInfix.trans hpart)
    · rfl
  · intro h c m n hi
    obtain ⟨_, ⟨rest, rfl⟩, hqs⟩ := List.infix_iff_prefix_suffix.mp hi
    exact h _ ((List.mem_tails _ _).mpr hqs)

instance : DecidablePred Steady := fun _ => decidable_of_iff _ steady_iff.symm

/-- The removals so far lie in what is written, also when what is to come takes a gap away. -/
private structure Settled (d : Draft) (ps : List Piece) : Prop where
  written : ∀ r ∈ d.removals, r ≤ byteLength d.written
  gap : (∀ c qs, ps = .prose c :: qs → isGap c = true) →
    ∀ r ∈ d.removals, r ≤ byteLength (d.written.dropWhile isGap)
  touching : ∀ m n qs, ps = .marker m :: .marker n :: qs → AtLineStart d.written

private theorem Steady.part (h : Steady qs) (hi : ps <:+: qs) : Steady ps :=
  fun c m n ht => h c m n (ht.trans hi)

private theorem Steady.tail {p : Piece} (h : Steady (p :: ps)) : Steady ps :=
  h.part (List.suffix_cons p ps).isInfix

private theorem byteLength_dropWhile_le (cs : List Char) :
    byteLength (cs.dropWhile isGap) ≤ byteLength cs := by
  conv => rhs; rw [← List.takeWhile_append_dropWhile (p := isGap) (l := cs)]
  rw [byteLength_append]
  omega

namespace Settled

variable {d : Draft} {m : Grammar.Marker}

private theorem prose {c : Char} (h : Settled d (.prose c :: ps)) (hs : Steady (.prose c :: ps)) :
    Settled ⟨c :: d.written, d.removals⟩ ps := by
  have hbound : ∀ r ∈ d.removals, r ≤ byteLength ((c :: d.written).dropWhile isGap) := by
    intro r hr
    by_cases hc : isGap c = true
    · rw [List.dropWhile_cons_of_pos hc]
      apply h.gap _ r hr
      intro c' qs he
      cases he
      exact hc
    · rw [List.dropWhile_cons_of_neg hc, byteLength]
      have := h.written r hr
      omega
  refine ⟨fun r hr => (hbound r hr).trans (byteLength_dropWhile_le _), fun _ => hbound, ?_⟩
  intro m n qs he
  subst he
  have hc : isGap c = false := hs c m n (List.prefix_append _ qs).isInfix
  exact List.dropWhile_cons_of_neg (by simp [hc])

/-- After a removal that takes the gap before it. -/
private theorem closing (h : Settled d (.marker m :: ps)) :
    Settled ⟨d.written.dropWhile isGap, d.removals ++ [byteLength (d.written.dropWhile isGap)]⟩
      ps := by
  have hstart : AtLineStart (d.written.dropWhile isGap) := List.dropWhile_idempotent isGap d.written
  have hbound : ∀ r ∈ d.removals ++ [byteLength (d.written.dropWhile isGap)],
      r ≤ byteLength (d.written.dropWhile isGap) := by
    intro r hr
    rcases List.mem_append.mp hr with hr | hr
    · exact h.gap (by simp) r hr
    · exact Nat.le_of_eq (List.mem_singleton.mp hr)
  refine ⟨hbound, fun _ => ?_, fun _ _ _ _ => hstart⟩
  rw [hstart]
  exact hbound

/-- After a removal that leaves the gap before it: then no other marker touches this one, or there
is no gap. -/
private theorem leaving (h : Settled d (.marker m :: ps))
    (hnext : closesGap (nextChar ps) = false) :
    Settled ⟨d.written, d.removals ++ [byteLength d.written]⟩ ps := by
  refine ⟨fun r hr => ?_, fun hgap r hr => ?_, fun n o qs he => ?_⟩
  · rcases List.mem_append.mp hr with hr | hr
    · exact h.written r hr
    · exact Nat.le_of_eq (List.mem_singleton.mp hr)
  · rcases List.mem_append.mp hr with hr | hr
    · exact h.gap (by simp) r hr
    · cases ps with
      | nil => cases hnext
      | cons p ps =>
        cases p with
        | prose c =>
          have hblank : Text.isBlank c = false := (Bool.or_eq_false_iff.mp hnext).1
          have hc := hgap c ps rfl
          rw [Grammar.isGap_of_not_blank hblank] at hc
          cases hc
        | marker n =>
          rw [h.touching m n ps rfl, List.mem_singleton.mp hr]
  · exact h.touching m n (.marker o :: qs) (by rw [he])

/-- After the name of an item. -/
private theorem named {name : List Char} (h : Settled d (.marker m :: ps))
    (hname : Text.Tight name) : Settled ⟨name.reverse ++ d.written, d.removals⟩ ps := by
  have hstart : AtLineStart (name.reverse ++ d.written) := by
    rcases List.eq_nil_or_concat name with rfl | ⟨front, c, rfl⟩
    · exact absurd rfl hname.1
    · have hblank : Text.isBlank c = false := by simpa using hname.2.2
      rw [List.concat_eq_append, List.reverse_append]
      exact List.dropWhile_cons_of_neg (by simp [Grammar.isGap_of_not_blank hblank])
  have hbound : ∀ r ∈ d.removals, r ≤ byteLength (name.reverse ++ d.written) := by
    intro r hr
    have hle := h.written r hr
    rw [byteLength_append]
    omega
  refine ⟨hbound, fun _ => ?_, fun _ _ _ _ => hstart⟩
  rw [hstart]
  exact hbound

end Settled

private theorem settled_writePieces {d : Draft} (h : Settled d ps) (hs : Steady ps)
    (hneat : ∀ m, .marker m ∈ ps → m.Neat) : Settled (writePieces d ps) [] := by
  induction ps generalizing d with
  | nil => exact h
  | cons p ps ih =>
    have hrest : ∀ m, .marker m ∈ ps → m.Neat := fun m hm => hneat m (List.mem_cons_of_mem _ hm)
    cases p with
    | prose c => exact ih (h.prose hs) hs.tail hrest
    | marker m =>
      simp only [writePieces]
      split
      · split
        · exact ih h.closing hs.tail hrest
        · next hnext => exact ih (h.leaving (Bool.eq_false_iff.mpr hnext)) hs.tail hrest
      · next hname =>
        refine ih (h.named ?_) hs.tail hrest
        refine ((hneat m (List.mem_cons_self ..)).left fun he => hname ?_).1
        rw [he]
        rfl

/-- In a steady stretch no removal stands beyond what is written. -/
private theorem le_of_mem_removed {r : Nat} (hs : Steady g) (hneat : ∀ m, .marker m ∈ g → m.Neat)
    (h : r ∈ removed at_ g) : r ≤ at_ + byteLength (written g) := by
  have hempty : Settled ⟨[], []⟩ g := ⟨by simp, by simp, fun _ _ _ _ => rfl⟩
  obtain ⟨r', hr', rfl⟩ := List.mem_map.mp h
  have hle := (settled_writePieces hempty hs hneat).written r' hr'
  rw [written, byteLength_reverse]
  omega

/-! ## Stretches that are kept -/

/-- The line of a stretch survives: it is not blank, or nothing has been removed from it and blank
lines count. -/
def survives (blanks : Bool) (g : List Piece) : Bool :=
  !(written g).all Text.isBlank || (blanks && (removed 0 g).isEmpty)

private theorem le_of_mem_removals {r : Nat} (h : r ∈ removals at_ gs) : at_ ≤ r := by
  induction gs generalizing at_ with
  | nil => cases h
  | cons g gs ih =>
    rcases List.mem_append.mp h with h | h
    · obtain ⟨r', -, rfl⟩ := List.mem_map.mp h
      exact Nat.le_add_left at_ r'
    · have hle := ih h
      omega

private theorem removed_eq_nil (h : (removed 0 g).isEmpty = true) : removed at_ g = [] := by
  rw [List.isEmpty_iff, removed, List.map_eq_nil_iff] at h
  rw [removed, h, List.map_nil]

/-- A blank line that a removal stands on does not survive: removals before it and behind it stand
elsewhere, so this one is of its own stretch. -/
private theorem not_survives {blanks : Bool} {old : List Nat} {r : Nat}
    (hold : blanks = true → ∀ r ∈ old, r < at_) (hr : r ∈ old ++ removals at_ (g :: gs))
    (hle : at_ ≤ r) (hge : r ≤ at_ + byteLength (written g))
    (hblank : (written g).all Text.isBlank = true) : ¬ survives blanks g = true := by
  rw [survives, hblank, Bool.not_true, Bool.false_or, Bool.and_eq_true]
  rintro ⟨hb, hnone⟩
  rw [removals, removed_eq_nil hnone, List.nil_append] at hr
  rcases List.mem_append.mp hr with hr | hr
  · have hlt := hold hb r hr
    omega
  · have hlt := le_of_mem_removals hr
    omega

-- By induction on the stretches: the removals of those before lie before the line at hand, those of
-- the stretches after it behind it.
private theorem survives_sublist_keptLines (blanks : Bool) (gs : List (List Piece)) (at_ : Nat)
    (old : List Nat) (hold : blanks = true → ∀ r ∈ old, r < at_)
    (hbound : blanks = true →
      ∀ g ∈ gs, ∀ at_, ∀ r ∈ removed at_ g, r ≤ at_ + byteLength (written g)) :
    ((gs.filter (survives blanks)).map written).Sublist
      (keptLines (old ++ removals at_ gs) at_ (gs.map written)) := by
  induction gs generalizing at_ old with
  | nil => exact List.nil_sublist _
  | cons g gs ih =>
    have hbefore : blanks = true →
        ∀ r ∈ old ++ removed at_ g, r < at_ + byteLength (written g) + 1 := by
      intro hb r hr
      rcases List.mem_append.mp hr with hr | hr
      · have hlt := hold hb r hr
        omega
      · have hle := hbound hb g (List.mem_cons_self ..) at_ r hr
        omega
    have hrest := ih (at_ + byteLength (written g) + 1) (old ++ removed at_ g) hbefore
      fun hb g' hg' => hbound hb g' (List.mem_cons_of_mem _ hg')
    rw [List.append_assoc, ← removals] at hrest
    rw [List.map_cons, keptLines]
    split
    · next hdropped =>
      simp only [Bool.and_eq_true, List.any_eq_true, decide_eq_true_eq] at hdropped
      obtain ⟨⟨r, hr, hle, hge⟩, hblank⟩ := hdropped
      rw [List.filter_cons_of_neg (not_survives hold hr hle hge hblank)]
      exact hrest
    · by_cases hg : survives blanks g = true
      · rw [List.filter_cons_of_pos hg]
        exact hrest.cons_cons (written g)
      · rw [List.filter_cons_of_neg hg]
        exact hrest.cons (written g)

private theorem keptLines_sublist (rs : List Nat) (at_ : Nat) (lines : List (List Char)) :
    (keptLines rs at_ lines).Sublist lines := by
  induction lines generalizing at_ with
  | nil => exact List.Sublist.refl _
  | cons line lines ih =>
    rw [keptLines]
    split
    · exact (ih _).cons line
    · exact (ih _).cons_cons line

/-- Lines are shown: they are lines of a text, in order, that is what is shown once blanks at both
its ends are trimmed away. -/
def Keeps (lines : List (List Char)) (shown : List Char) : Prop :=
  ∃ whole, Text.trimChars whole = shown ∧ lines.Sublist (Text.splitChars (· == '\n') whole)

private theorem lineFeed_not_mem_of_mem_map {line : List Char}
    (hneat : ∀ m, .marker m ∈ ps → m.Neat) (h : line ∈ (stretches ps).map written) :
    '\n' ∉ line := by
  obtain ⟨g, hg, rfl⟩ := List.mem_map.mp h
  exact lineFeed_not_mem_written
    (fun m hm => hneat m ((infix_of_mem_stretches hg).subset hm)) (lineFeed_not_mem hg)

/-- Players read the lines of the stretches that are kept. -/
theorem cleanChars_eq (hneat : ∀ m, .marker m ∈ ps → m.Neat) :
    cleanChars ps = Text.trimChars (['\n'].intercalate
      (keptLines (removals 0 (stretches ps)) 0 ((stretches ps).map written))) := by
  have hne : stretches ps ≠ [] := List.splitOn_ne_nil _ _
  have hdraft : writePieces ⟨[], []⟩ ([.prose '\n'].intercalate (stretches ps)) =
      ⟨(['\n'].intercalate ((stretches ps).map written)).reverse ++ [],
        [] ++ removals 0 (stretches ps)⟩ := writePieces_intercalate hne rfl
  rw [stretches, List.intercalate_splitOn, ← stretches, List.append_nil, List.nil_append] at hdraft
  simp only [cleanChars, hdraft, dropEmptied, List.reverse_reverse]
  rw [Text.splitChars_intercalate (by simpa using hne)
    fun line hl => lineFeed_not_mem_of_mem_map hneat hl, Text.joinChars_eq_intercalate]

/-- The lines of stretches that survive are shown, blank ones as well if the reply is steady. -/
theorem keeps_survives {blanks : Bool} (hneat : ∀ m, .marker m ∈ ps → m.Neat)
    (hs : blanks = true → Steady ps) :
    Keeps (((stretches ps).filter (survives blanks)).map written) (cleanChars ps) := by
  have hbound : blanks = true → ∀ g ∈ stretches ps, ∀ at_, ∀ r ∈ removed at_ g,
      r ≤ at_ + byteLength (written g) := by
    intro hb g hg at_ r hr
    have hpart := infix_of_mem_stretches hg
    exact le_of_mem_removed ((hs hb).part hpart) (fun m hm => hneat m (hpart.subset hm)) hr
  have hkept := survives_sublist_keptLines blanks (stretches ps) 0 [] (by simp) hbound
  rw [List.nil_append] at hkept
  have hsub := (keptLines_sublist (removals 0 (stretches ps)) 0 ((stretches ps).map written)).subset
  refine ⟨_, (cleanChars_eq hneat).symm, ?_⟩
  by_cases hnil : keptLines (removals 0 (stretches ps)) 0 ((stretches ps).map written) = []
  · rw [hnil] at hkept
    rw [List.sublist_nil.mp hkept]
    exact List.nil_sublist _
  · rw [Text.splitChars_intercalate hnil
      fun line hl => lineFeed_not_mem_of_mem_map hneat (hsub hl)]
    exact hkept

end Tabletop.Reply
