import Tabletop.Proofs.Pattern.Matching

/-!
# What a match is made of

A match takes no character that none of its pattern's classes holds.
-/

namespace Tabletop.Pattern

variable {a : Pattern} {c : Char} {cs : List Char}

/-- No class of characters that the pattern takes holds a character. -/
def avoids (c : Char) : Pattern → Bool
  | .empty | .notNext _ => true
  | .one p | .run p | .upTo p _ => !p c
  | .seq a b | .either a b => a.avoids c && b.avoids c
  | .capture _ a => a.avoids c

private theorem forall_mem_reach {p : Char → Bool} {test : List Char → Bool}
    {r : List Char × List Char} (h : reach p test cs = some r) : ∀ d ∈ r.1, p d = true := by
  induction cs generalizing r with
  | nil =>
    simp only [reach] at h
    split at h
    · cases h
      simp
    · cases h
  | cons d cs ih =>
    simp only [reach] at h
    split at h
    · cases h
      simp
    · split at h
      · next hd =>
        obtain ⟨s, hs, rfl⟩ := Option.map_eq_some_iff.mp h
        exact List.forall_mem_cons.mpr ⟨hd, ih hs⟩
      · cases h

private theorem not_mem_of_forall {p : Char → Bool} (hc : (!p c) = true)
    (h : ∀ d ∈ cs, p d = true) : c ∉ cs := by
  intro hm
  rw [h c hm] at hc
  cases hc

/-- A match takes no character that its pattern avoids. -/
theorem not_mem_text_of_avoids {m : Match} (ha : a.avoids c = true)
    (h : a.matchStart cs = some m) : c ∉ m.text := by
  induction a generalizing cs m with
  | empty =>
    cases h
    simp
  | one p =>
    obtain ⟨d, hd, -, he⟩ := matchStart_one_eq_some_iff.mp h
    rw [he]
    exact not_mem_of_forall ha (List.forall_mem_singleton.mpr hd)
  | run p =>
    cases h
    exact not_mem_of_forall ha (List.all_eq_true.mp List.all_takeWhile)
  | notNext p =>
    simp only [matchStart] at h
    split at h
    · cases h
    · cases h
      simp
  | upTo p b _ =>
    obtain ⟨r, hr, rfl⟩ := Option.map_eq_some_iff.mp h
    exact not_mem_of_forall ha (forall_mem_reach hr)
  | seq a b iha ihb =>
    obtain ⟨ha, hb⟩ := Bool.and_eq_true_iff.mp ha
    obtain ⟨m₁, m₂, h₁, h₂, rfl⟩ := matchStart_seq_eq_some_iff.mp h
    simpa using ⟨iha ha h₁, ihb hb h₂⟩
  | either a b iha ihb =>
    obtain ⟨ha, hb⟩ := Bool.and_eq_true_iff.mp ha
    simp only [matchStart] at h
    split at h
    · next h' => cases h; exact iha ha h'
    · exact ihb hb h
  | capture i a ih =>
    obtain ⟨m', h', rfl⟩ := Option.map_eq_some_iff.mp h
    exact ih (m := m') ha h'

end Tabletop.Pattern
