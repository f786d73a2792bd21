import Mathlib.Data.List.Forall2
import Tabletop.Pattern.Basic

/-!
# Laws of matching

A match covers the start of the text that it is put to. `Reads` follows a match part by part along
the pattern: which rest each part leaves to the next, and which texts it keeps.
-/

namespace Tabletop.Pattern

variable {a b : Pattern} {p : Char → Bool} {cs text mid rest : List Char} {caps caps' : Captures}

private theorem reach_append {test : List Char → Bool} {r : List Char × List Char}
    (h : reach p test cs = some r) : r.1 ++ r.2 = cs := by
  induction cs generalizing r with
  | nil =>
    simp only [reach] at h
    split at h
    · cases h; rfl
    · cases h
  | cons c cs ih =>
    simp only [reach] at h
    split at h
    · cases h; rfl
    · split at h
      · obtain ⟨s, hs, rfl⟩ := Option.map_eq_some_iff.mp h
        simp [ih hs]
      · cases h

/-- What a match covers and what follows it are the text that the pattern was put to. -/
theorem text_append_rest {m : Match} (h : a.matchStart cs = some m) : m.text ++ m.rest = cs := by
  induction a generalizing cs m with
  | empty => cases h; rfl
  | one p =>
    cases cs with
    | nil => cases h
    | cons c cs =>
      simp only [matchStart] at h
      split at h
      · cases h; rfl
      · cases h
  | run p => cases h; exact List.takeWhile_append_dropWhile
  | notNext p =>
    simp only [matchStart] at h
    split at h
    · cases h
    · cases h; rfl
  | upTo p a _ =>
    obtain ⟨r, hr, rfl⟩ := Option.map_eq_some_iff.mp h
    exact reach_append hr
  | seq a b iha ihb =>
    obtain ⟨m₁, h₁, h⟩ := Option.bind_eq_some_iff.mp h
    obtain ⟨m₂, h₂, h⟩ := Option.bind_eq_some_iff.mp h
    cases h
    rw [List.append_assoc, ihb h₂, iha h₁]
  | either a b iha ihb =>
    simp only [matchStart] at h
    split at h
    · next m' h' => cases h; exact iha h'
    · exact ihb h
  | capture i a ih =>
    obtain ⟨m', h', rfl⟩ := Option.map_eq_some_iff.mp h
    exact ih (m := m') h'

/-- Two patterns match one after the other. -/
theorem matchStart_seq_eq_some_iff {m : Match} :
    (seq a b).matchStart cs = some m ↔ ∃ m₁ m₂, a.matchStart cs = some m₁ ∧
      b.matchStart m₁.rest = some m₂ ∧
        m = ⟨m₁.text ++ m₂.text, m₂.rest, m₁.captures ++ m₂.captures⟩ := by
  simp only [matchStart, Option.bind_eq_bind, Option.bind_eq_some_iff, Option.pure_def,
    Option.some.injEq]
  constructor
  · rintro ⟨m₁, h₁, m₂, h₂, he⟩
    exact ⟨m₁, m₂, h₁, h₂, he.symm⟩
  · rintro ⟨m₁, m₂, h₁, h₂, he⟩
    exact ⟨m₁, h₁, m₂, h₂, he.symm⟩

/-- The patterns of a list match one after another. -/
theorem matchStart_all_cons_eq_some_iff {as : List Pattern} {m : Match} :
    (all (a :: as)).matchStart cs = some m ↔ ∃ m₁ m₂, a.matchStart cs = some m₁ ∧
      (all as).matchStart m₁.rest = some m₂ ∧
        m = ⟨m₁.text ++ m₂.text, m₂.rest, m₁.captures ++ m₂.captures⟩ := by
  cases as with
  | cons b bs => exact matchStart_seq_eq_some_iff
  | nil =>
    constructor
    · intro h
      exact ⟨m, ⟨[], m.rest, []⟩, h, rfl, by simp⟩
    · rintro ⟨m₁, m₂, h₁, h₂, rfl⟩
      cases h₂
      simpa [all] using h₁

/-- One character of a class is matched where it stands. -/
theorem matchStart_one_eq_some_iff {m : Match} :
    (one p).matchStart cs = some m ↔
      ∃ c, p c = true ∧ cs = c :: m.rest ∧ m = ⟨[c], m.rest, []⟩ := by
  cases cs with
  | nil => simp [matchStart]
  | cons c cs =>
    simp only [matchStart]
    constructor
    · intro h
      split at h
      · next hc => cases h; exact ⟨c, hc, rfl, rfl⟩
      · cases h
    · rintro ⟨d, hd, he, hm⟩
      cases he
      rw [if_pos hd, hm]

/-- No character of a class is matched where none comes first. -/
theorem matchStart_one_eq_none (h : cs.head?.any p = false) : (one p).matchStart cs = none := by
  cases cs with
  | nil => rfl
  | cons c cs =>
    have hc : p c = false := by simpa using h
    simp [matchStart, hc]

/-- Classes one after another take a character each and keep nothing. -/
theorem matchStart_ones {ps : List (Char → Bool)} {m : Match}
    (h : (all (ps.map one)).matchStart cs = some m) :
    List.Forall₂ (fun p c => p c = true) ps m.text ∧ m.captures = [] := by
  induction ps generalizing cs m with
  | nil => cases h; exact ⟨.nil, rfl⟩
  | cons p ps ih =>
    obtain ⟨m₁, m₂, h₁, h₂, rfl⟩ := matchStart_all_cons_eq_some_iff.mp h
    obtain ⟨c, hc, -, he⟩ := matchStart_one_eq_some_iff.mp h₁
    obtain ⟨ht, hk⟩ := ih h₂
    rw [he]
    exact ⟨.cons hc ht, by simp [hk]⟩

/-- A given text matches itself alone. -/
theorem matchStart_word {s : String} {m : Match} (h : (word s).matchStart cs = some m) :
    m.text = s.toList ∧ m.captures = [] := by
  have hw : word s = all ((s.toList.map fun c d => d == c).map one) := by
    rw [List.map_map]
    rfl
  rw [hw] at h
  obtain ⟨ht, hk⟩ := matchStart_ones h
  refine ⟨?_, hk⟩
  rw [List.forall₂_map_left_iff] at ht
  simp only [beq_iff_eq] at ht
  exact (List.forall₂_eq_eq_eq ▸ ht.imp fun _ _ => Eq.symm : s.toList = m.text).symm

/-- A given text in any case matches the texts that agree with it in small letters. -/
theorem matchStart_wordAnyCase {s : String} {m : Match}
    (h : (wordAnyCase s).matchStart cs = some m) :
    m.text.map Text.asciiLowerChar = s.toList.map Text.asciiLowerChar ∧ m.captures = [] := by
  have hw : wordAnyCase s = all ((s.toList.map fun c d =>
      Text.asciiLowerChar d == Text.asciiLowerChar c).map one) := by
    rw [List.map_map]
    rfl
  rw [hw] at h
  obtain ⟨ht, hk⟩ := matchStart_ones h
  refine ⟨?_, hk⟩
  rw [List.forall₂_map_left_iff] at ht
  simp only [beq_iff_eq] at ht
  rw [← List.forall₂_eq_eq_eq, List.forall₂_map_left_iff, List.forall₂_map_right_iff]
  exact ht.flip

/-- A number under which something is kept has its text among what is kept. -/
theorem Captures.lookup_eq_none_or_mem (caps : Captures) (i : Nat) :
    caps.lookup i = none ∨ (i, caps.text i) ∈ caps := by
  cases hl : caps.lookup i with
  | none => exact .inl rfl
  | some t =>
    obtain ⟨before, after, hsplit, -⟩ := List.lookup_eq_some_iff.mp hl
    have ht : caps.text i = t := by rw [Captures.text, hl]; rfl
    exact .inr (by rw [ht, hsplit]; simp)

/-- A pattern put to a text leaves a rest and keeps some texts. -/
def Reads (a : Pattern) (cs rest : List Char) (caps : Captures) : Prop :=
  ∃ text, a.matchStart cs = some ⟨text, rest, caps⟩

namespace Reads

/-- The match that a reading stands for covers the text up to the rest. -/
theorem matchStart_eq (h : Reads a (text ++ rest) rest caps) :
    a.matchStart (text ++ rest) = some ⟨text, rest, caps⟩ := by
  obtain ⟨t, ht⟩ := h
  have he : t = text := List.append_cancel_right (text_append_rest ht)
  rw [ht, he]

/-- The empty pattern leaves everything. -/
theorem empty : Reads .empty cs cs [] := ⟨[], rfl⟩

/-- A character of the class is taken. -/
theorem one {c : Char} (h : p c = true) : Reads (.one p) (c :: rest) rest [] :=
  ⟨[c], by simp [matchStart, h]⟩

/-- A given character is taken. -/
theorem char (c : Char) : Reads (.char c) (c :: rest) rest [] := one (by simp)

/-- A run takes characters of its class up to a rest that starts with none. -/
theorem run (htext : ∀ c ∈ text, p c = true) (hrest : rest.head?.any p = false) :
    Reads (.run p) (text ++ rest) rest [] := by
  have hnil : rest.takeWhile p = [] ∧ rest.dropWhile p = rest := by
    cases rest with
    | nil => exact ⟨rfl, rfl⟩
    | cons c cs =>
      have hc : p c = false := by simpa using hrest
      simp [hc]
  exists text
  simp only [matchStart]
  rw [List.takeWhile_append_of_pos htext, List.dropWhile_append_of_pos htext, hnil.1, hnil.2,
    List.append_nil]

/-- A run takes nothing where no character of its class comes first. -/
theorem run_nil (h : cs.head?.any p = false) : Reads (.run p) cs cs [] := by
  have hn : Reads (.run p) ([] ++ cs) cs [] := run (by simp) h
  exact hn

/-- Where no character of the class comes first, that is confirmed. -/
theorem notNext (h : cs.head?.any p = false) : Reads (.notNext p) cs cs [] :=
  ⟨[], by simp [matchStart, h]⟩

/-- Two patterns read one after the other. -/
theorem seq (ha : Reads a cs mid caps) (hb : Reads b mid rest caps') :
    Reads (.seq a b) cs rest (caps ++ caps') := by
  obtain ⟨t, ht⟩ := ha
  obtain ⟨u, hu⟩ := hb
  exact ⟨t ++ u, by simp [matchStart, ht, hu]⟩

/-- The first alternative is read where it matches. -/
theorem left (h : Reads a cs rest caps) : Reads (.either a b) cs rest caps := by
  obtain ⟨t, ht⟩ := h
  exact ⟨t, by simp [matchStart, ht]⟩

/-- The second alternative is read where the first does not match. -/
theorem right (ha : a.matchStart cs = none) (hb : Reads b cs rest caps) :
    Reads (.either a b) cs rest caps := by
  obtain ⟨t, ht⟩ := hb
  exact ⟨t, by simp [matchStart, ha, ht]⟩

/-- An optional pattern that does not match leaves everything. -/
theorem absent (h : a.matchStart cs = none) : Reads (optional a) cs cs [] := right h empty

/-- The text that a pattern takes is kept. -/
theorem capture {i : Nat} (h : Reads a (text ++ rest) rest caps) :
    Reads (.capture i a) (text ++ rest) rest ((i, text) :: caps) :=
  ⟨text, by simp [matchStart, h.matchStart_eq]⟩

/-- One or more characters of a class are taken, up to a rest that starts with none. -/
theorem someOf (hne : text ≠ []) (htext : ∀ c ∈ text, p c = true)
    (hrest : rest.head?.any p = false) : Reads (someOf p) (text ++ rest) rest [] := by
  cases text with
  | nil => exact absurd rfl hne
  | cons c cs =>
    have hc : p c = true := htext c (by simp)
    have hcs : ∀ d ∈ cs, p d = true := fun d hd => htext d (by simp [hd])
    exact (one hc).seq (run hcs hrest)

/-- Characters of a class are passed over up to the first place where a pattern matches. -/
theorem upTo (htext : ∀ c ∈ text, p c = true)
    (hbefore : ∀ before after, text = before ++ after → after ≠ [] →
      a.matchStart (after ++ rest) = none)
    (hrest : (a.matchStart rest).isSome) : Reads (.upTo p a) (text ++ rest) rest [] := by
  have hr : reach p (fun cs => (a.matchStart cs).isSome) (text ++ rest) = some (text, rest) := by
    induction text with
    | nil => cases rest <;> simp [reach, hrest]
    | cons c cs ih =>
      have hc : p c = true := htext c (by simp)
      have hn : a.matchStart (c :: cs ++ rest) = none := hbefore [] (c :: cs) rfl (by simp)
      have hcs := ih (fun d hd => htext d (by simp [hd])) fun before after he =>
        hbefore (c :: before) after (by simp [he])
      simp only [List.cons_append] at hn ⊢
      simp [reach, hn, hc, hcs]
  exact ⟨text, by simp [matchStart, hr]⟩

/-- Patterns of a list are read one after another. -/
theorem all_cons {as : List Pattern} (ha : Reads a cs mid caps)
    (has : Reads (.all as) mid rest caps') :
    Reads (.all (a :: as)) cs rest (caps ++ caps') := by
  cases as with
  | nil =>
    obtain ⟨t, ht⟩ := has
    cases ht
    rw [List.append_nil]
    exact ha
  | cons b bs => exact ha.seq has

/-- A text is read where it stands. -/
theorem word (s : String) : Reads (.word s) (s.toList ++ rest) rest [] := by
  unfold Pattern.word
  induction s.toList with
  | nil => exact empty
  | cons c cs ih => exact (char c).all_cons ih

/-- A text is read in any case. -/
theorem wordAnyCase {s : String}
    (h : text.map Text.asciiLowerChar = s.toList.map Text.asciiLowerChar) :
    Reads (.wordAnyCase s) (text ++ rest) rest [] := by
  unfold Pattern.wordAnyCase
  generalize s.toList = letters at h ⊢
  induction letters generalizing text with
  | nil =>
    rw [List.map_nil, List.map_eq_nil_iff] at h
    rw [h]
    exact empty
  | cons c cs ih =>
    cases text with
    | nil => cases h
    | cons d ds =>
      rw [List.map_cons, List.map_cons, List.cons.injEq] at h
      exact (one (by simpa using h.1)).all_cons (ih h.2)

end Reads

end Tabletop.Pattern
