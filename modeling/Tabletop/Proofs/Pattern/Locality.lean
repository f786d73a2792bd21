import Tabletop.Proofs.Pattern.Avoidance

/-!
# What a match looks at

A pattern that gets past a character at most at its very end sees nothing of what comes behind that
character: its match is the same whatever follows.
-/

namespace Tabletop.Pattern

variable {a : Pattern} {p : Char → Bool} {c : Char}

/-- A match goes no further than a character, and takes the character at most as its last one. -/
def confinedBy (c : Char) : Pattern → Bool
  | .empty | .one _ | .notNext _ => true
  | .run p => !p c
  | .upTo p a => !p c && a.confinedBy c
  | .seq a b => a.avoids c && a.confinedBy c && b.confinedBy c
  | .either a b => a.confinedBy c && b.confinedBy c
  | .capture _ a => a.confinedBy c

/-- A match of a text with more text behind it. -/
def Match.followedBy (m : Match) (more : List Char) : Match := { m with rest := m.rest ++ more }

private theorem takeWhile_dropWhile_append (h : p c = false) (cs more : List Char) :
    (cs ++ c :: more).takeWhile p = (cs ++ [c]).takeWhile p ∧
      (cs ++ c :: more).dropWhile p = (cs ++ [c]).dropWhile p ++ more := by
  induction cs with
  | nil => simp [h]
  | cons d cs ih =>
    cases hd : p d with
    | true => simpa [hd] using ih
    | false => simp [hd]

private theorem reach_confined {test : List Char → Bool} (h : p c = false) (more : List Char)
    (htest : ∀ cs, test (cs ++ c :: more) = test (cs ++ [c])) (cs : List Char) :
    reach p test (cs ++ c :: more) =
      (reach p test (cs ++ [c])).map fun r => (r.1, r.2 ++ more) := by
  induction cs with
  | nil =>
    have ht := htest []
    simp only [List.nil_append] at ht ⊢
    simp only [reach, h, ht]
    split <;> rfl
  | cons d cs ih =>
    have ht := htest (d :: cs)
    simp only [List.cons_append] at ht ⊢
    simp only [reach, ht]
    split
    · simp
    · split
      · rw [ih, Option.map_map, Option.map_map]
        rfl
      · rfl

/-- The text before a character that a match does not take is left over with it. -/
private theorem exists_rest_eq {m : Match} {cs more : List Char} (hc : c ∉ m.text)
    (h : m.text ++ m.rest = cs ++ c :: more) : ∃ ds, m.rest = ds ++ c :: more := by
  rcases List.append_eq_append_iff.mp h with ⟨s, -, hs⟩ | ⟨s, htext, hs⟩
  · exact ⟨s, hs⟩
  · cases s with
    | nil => exact ⟨[], hs.symm⟩
    | cons d s =>
      rw [List.cons_append, List.cons.injEq] at hs
      exact absurd (by simp [htext, hs.1]) hc

/-- What comes behind a character that confines a pattern makes no difference to its match. -/
theorem matchStart_append_of_confinedBy (h : a.confinedBy c = true) (cs more : List Char) :
    a.matchStart (cs ++ c :: more) = (a.matchStart (cs ++ [c])).map (·.followedBy more) := by
  induction a generalizing cs with
  | empty => simp [matchStart, Match.followedBy]
  | one p =>
    cases cs with
    | nil =>
      simp only [List.nil_append, matchStart]
      split <;> rfl
    | cons d cs =>
      simp only [List.cons_append, matchStart]
      split
      · simp [Match.followedBy]
      · rfl
  | run p =>
    have hp : p c = false := by simpa [confinedBy] using h
    obtain ⟨htake, hdrop⟩ := takeWhile_dropWhile_append hp cs more
    rw [matchStart, matchStart, htake, hdrop]
    rfl
  | notNext p =>
    have hhead : (cs ++ c :: more).head? = (cs ++ [c]).head? := by cases cs <;> rfl
    simp only [matchStart, hhead]
    split
    · rfl
    · simp [Match.followedBy]
  | upTo p b ih =>
    obtain ⟨hp, hb⟩ := Bool.and_eq_true_iff.mp h
    have hp : p c = false := by simpa using hp
    simp only [matchStart]
    rw [reach_confined hp more (fun ds => ?_), Option.map_map, Option.map_map]
    · rfl
    · rw [ih hb, Option.isSome_map]
  | seq a b iha ihb =>
    obtain ⟨hab, hb⟩ := Bool.and_eq_true_iff.mp h
    obtain ⟨havoids, ha⟩ := Bool.and_eq_true_iff.mp hab
    simp only [matchStart]
    rw [iha ha]
    cases hm : a.matchStart (cs ++ [c]) with
    | none => rfl
    | some m =>
      -- the first part stops before the character, so that the second one is confined too
      obtain ⟨ds, hds⟩ := exists_rest_eq (not_mem_text_of_avoids havoids hm) (text_append_rest hm)
      have hrest : m.rest ++ more = ds ++ c :: more := by
        rw [hds, List.append_assoc, List.singleton_append]
      have hsecond : b.matchStart (m.rest ++ more) =
          (b.matchStart m.rest).map (·.followedBy more) := by
        rw [hrest, ihb hb, ← hds]
      simp only [Option.map_some, Option.bind_eq_bind, Option.bind_some, Match.followedBy,
        hsecond]
      cases b.matchStart m.rest <;> rfl
  | either a b iha ihb =>
    obtain ⟨ha, hb⟩ := Bool.and_eq_true_iff.mp h
    simp only [matchStart]
    rw [iha ha, ihb hb]
    cases a.matchStart (cs ++ [c]) <;> rfl
  | capture i a ih =>
    simp only [matchStart]
    rw [ih h, Option.map_map, Option.map_map]
    rfl

end Tabletop.Pattern
