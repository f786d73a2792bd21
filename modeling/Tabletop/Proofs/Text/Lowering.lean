import Tabletop.Proofs.Text.Trimming

/-!
# Lower case

Lower case, and the trimming before it, do not tell ASCII capitals from small letters. So texts that
differ only in the case of ASCII letters and in the blanks around them have the same lower case once
they are trimmed (`Respelled.lower_trim`).
-/

namespace Tabletop.Text

/-- What does not tell the capitals from the small letters. -/
private theorem comp_asciiLowerChar {α : Type} {f : Char → α}
    (h : ∀ n < 26, f (Char.ofNat (97 + n)) = f (Char.ofNat (65 + n))) :
    f ∘ asciiLowerChar = f := by
  funext c
  rw [Function.comp_apply, asciiLowerChar]
  split
  · next hupper =>
    simp only [isAsciiUpper, Bool.and_eq_true, decide_eq_true_eq] at hupper
    have hletter := h (c.toNat - 65) (by omega)
    rw [show 97 + (c.toNat - 65) = c.toNat + 32 by omega,
      show 65 + (c.toNat - 65) = c.toNat by omega, Char.ofNat_toNat] at hletter
    exact hletter
  · rfl

private theorem isBlank_comp : isBlank ∘ asciiLowerChar = isBlank :=
  comp_asciiLowerChar (by decide)

private theorem isCased_comp : isCased ∘ asciiLowerChar = isCased :=
  comp_asciiLowerChar (by decide)

private theorem isCaseIgnorable_comp : isCaseIgnorable ∘ asciiLowerChar = isCaseIgnorable :=
  comp_asciiLowerChar (by decide)

private theorem lowerChar_comp : lowerChar ∘ asciiLowerChar = lowerChar :=
  comp_asciiLowerChar (by decide)

private theorem isSigma_comp : (· == 'Σ') ∘ asciiLowerChar = (· == 'Σ') :=
  comp_asciiLowerChar (by decide)

private theorem casedNext_map (cs : List Char) :
    casedNext (cs.map asciiLowerChar) = casedNext cs := by
  rw [casedNext, List.dropWhile_map, isCaseIgnorable_comp, casedNext]
  cases cs.dropWhile isCaseIgnorable with
  | nil => rfl
  | cons c cs => exact congrFun isCased_comp c

private theorem lowerFrom_map (before cs : List Char) :
    lowerFrom (before.map asciiLowerChar) (cs.map asciiLowerChar) = lowerFrom before cs := by
  induction cs generalizing before with
  | nil => rfl
  | cons c cs ih =>
    have hsigma : (asciiLowerChar c == 'Σ') = (c == 'Σ') := congrFun isSigma_comp c
    have hlower : lowerChar (asciiLowerChar c) = lowerChar c := congrFun lowerChar_comp c
    rw [List.map_cons, lowerFrom, lowerFrom, hsigma, hlower, casedNext_map, casedNext_map,
      ← List.map_cons, ih]

/-- Small letters have the same lower case. -/
theorem lower_asciiLower (s : String) : lower (asciiLower s) = lower s := by
  have hlower := lowerFrom_map [] s.toList
  rw [List.map_nil] at hlower
  rw [lower, asciiLower, String.toList_ofList, hlower, lower]

private theorem trimChars_map (cs : List Char) :
    trimChars (cs.map asciiLowerChar) = (trimChars cs).map asciiLowerChar := by
  simp only [trimChars, dropEnd, List.dropWhile_map, isBlank_comp, ← List.map_reverse]

/-- A text with nothing but blanks around it. -/
def Padded (core cs : List Char) : Prop :=
  ∃ front back, (∀ c ∈ front, isBlank c = true) ∧ (∀ c ∈ back, isBlank c = true) ∧
    cs = front ++ (core ++ back)

/-- Two texts that differ at most in the case of ASCII letters and in the blanks around them. -/
def Respelled (s t : String) : Prop :=
  ∃ core core', Padded core s.toList ∧ Padded core' t.toList ∧
    core.map asciiLowerChar = core'.map asciiLowerChar

namespace Respelled

variable {s t : String}

private theorem map_trimChars (h : Respelled s t) :
    (trimChars s.toList).map asciiLowerChar = (trimChars t.toList).map asciiLowerChar := by
  obtain ⟨core, core', ⟨_, _, ha, hb, hs⟩, ⟨_, _, ha', hb', ht⟩, hcore⟩ := h
  rw [hs, ht, trimChars_append_append ha hb, trimChars_append_append ha' hb', ← trimChars_map,
    ← trimChars_map, hcore]

/-- Trimmed, the texts differ in the case of ASCII letters alone. -/
theorem asciiLower_trim (h : Respelled s t) : asciiLower (trim s) = asciiLower (trim t) := by
  simp only [asciiLower, trim, String.toList_ofList, h.map_trimChars]

/-- Trimmed, the texts have the same lower case. -/
theorem lower_trim (h : Respelled s t) : lower (trim s) = lower (trim t) := by
  rw [← lower_asciiLower, h.asciiLower_trim, lower_asciiLower]

/-- Both texts are blank, or neither is. -/
theorem isAllBlank_eq (h : Respelled s t) : isAllBlank s = isAllBlank t := by
  rw [Bool.eq_iff_iff, isAllBlank_iff, isAllBlank_iff,
    ← List.map_eq_nil_iff (f := asciiLowerChar), h.map_trimChars, List.map_eq_nil_iff]

end Respelled

/-- In small letters a text is one that has no blanks around it exactly if there is nothing to trim
and it is that one once it is trimmed. -/
theorem asciiLower_eq_iff {s t : String} (h : trim t = t) :
    asciiLower s = t ↔ asciiLower (trim s) = t ∧ trim s = s := by
  constructor
  · rintro rfl
    have hsame : (trimChars s.toList).map asciiLowerChar = s.toList.map asciiLowerChar := by
      simpa [trim, asciiLower, trimChars_map] using congrArg String.toList h
    have hlength : (trimChars s.toList).length = s.toList.length := by
      simpa using congrArg List.length hsame
    have htrim : trim s = s := by
      rw [trim, (trimChars_sublist s.toList).eq_of_length hlength, String.ofList_toList]
    exact ⟨by rw [htrim], htrim⟩
  · rintro ⟨hlower, htrim⟩
    rwa [htrim] at hlower

end Tabletop.Text
