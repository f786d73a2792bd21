import Tabletop.Proofs.Marker.Scan
import Tabletop.Proofs.Pattern.Avoidance
import Tabletop.Proofs.Pattern.Captures
import Tabletop.Proofs.Text.Trimming

/-!
# Markers and line breaks

A marker stands on one line. The line feed behind it belongs to it at most if it describes a scene,
and what an item leaves in its place stands on that line too.
-/

namespace Tabletop

open Text (Tight)

/-- A marker stands on one line, with the line feed behind it or without; with it, it leaves
nothing in its place. What it leaves is trimmed and on one line. -/
structure Grammar.Marker.Neat (m : Marker) : Prop where
  line : ∃ front, front ≠ [] ∧ '\n' ∉ front ∧
    (m.source = front ∨ m.source = front ++ ['\n'] ∧ m.directive.replacement = "")
  left : m.directive.replacement ≠ "" →
    Tight m.directive.replacement.toList ∧ '\n' ∉ m.directive.replacement.toList

namespace Grammar

/-- A neat marker has characters. -/
theorem Marker.Neat.source_ne_nil {m : Marker} (h : m.Neat) : m.source ≠ [] := by
  obtain ⟨front, hne, -, hsource | ⟨hsource, -⟩⟩ := h.line
  · rwa [hsource]
  · simp [hsource]

open Pattern (matchStart_seq_eq_some_iff not_mem_text_of_avoids)

variable {k : Keyword} {cs : List Char}

/-- Only the pattern of a scene takes a line feed. -/
private theorem avoids_lineFeed (h : k ≠ .ambiance) : (pattern k).avoids '\n' = true := by
  cases k with
  | ambiance => exact absurd rfl h
  | _ => decide +kernel

/-- What an optional line break takes ends in a line feed, if it is anything. -/
private theorem text_lineBreak {m : Pattern.Match}
    (h : (Pattern.optional (.seq (Pattern.optional (.char '\r')) (.char '\n'))).matchStart cs =
      some m) :
    m.text = [] ∨ ∃ front, '\n' ∉ front ∧ m.text = front ++ ['\n'] := by
  rw [Pattern.optional, Pattern.matchStart] at h
  split at h
  · next m' hm =>
    cases h
    obtain ⟨m₁, m₂, h₁, h₂, rfl⟩ := matchStart_seq_eq_some_iff.mp hm
    obtain ⟨c, hc, -, he⟩ := Pattern.matchStart_one_eq_some_iff.mp h₂
    have hfeed : m₂.text = ['\n'] := by
      rw [he, eq_of_beq hc]
    exact .inr ⟨m₁.text, not_mem_text_of_avoids (by decide +kernel) h₁, by rw [hfeed]⟩
  · cases h
    exact .inl rfl

/-- A scene is described on one line, and the line feed behind it is taken if it is there. -/
private theorem text_ambiance {m : Pattern.Match}
    (h : (pattern .ambiance).matchStart cs = some m) :
    ∃ front, front ≠ [] ∧ '\n' ∉ front ∧ (m.text = front ∨ m.text = front ++ ['\n']) := by
  obtain ⟨m₁, n₁, h₁, hn₁, rfl⟩ := matchStart_seq_eq_some_iff.mp h
  obtain ⟨m₂, n₂, h₂, hn₂, rfl⟩ := matchStart_seq_eq_some_iff.mp hn₁
  obtain ⟨m₃, n₃, h₃, hn₃, rfl⟩ := matchStart_seq_eq_some_iff.mp hn₂
  obtain ⟨m₄, m₅, h₄, h₅, rfl⟩ := matchStart_seq_eq_some_iff.mp hn₃
  have hwords : '\n' ∉ m₁.text ++ m₂.text ++ m₃.text ++ m₄.text := by
    simp only [List.mem_append, not_or]
    exact ⟨⟨⟨not_mem_text_of_avoids (by decide +kernel) h₁,
      not_mem_text_of_avoids (by decide +kernel) h₂⟩,
      not_mem_text_of_avoids (by decide +kernel) h₃⟩,
      not_mem_text_of_avoids (by decide +kernel) h₄⟩
  have hne : m₁.text ≠ [] := by
    intro hnil
    have hletters := (Pattern.matchStart_wordAnyCase h₁).1
    rw [hnil] at hletters
    cases hletters
  rcases text_lineBreak h₅ with hnone | ⟨blank, hblank, hbreak⟩
  · exact ⟨_, by simp [hne], hwords, .inl (by simp [hnone])⟩
  · refine ⟨m₁.text ++ m₂.text ++ m₃.text ++ m₄.text ++ blank, by simp [hne], ?_,
      .inr (by simp [hbreak])⟩
    rw [List.mem_append, not_or]
    exact ⟨hwords, hblank⟩

private theorem replacement_of_read? {caps : Pattern.Captures} {d : Directive} (hk : k ≠ .item)
    (h : read? k caps = some d) : d.replacement = "" := by
  cases k with
  | item => exact absurd rfl hk
  | ambiance | invite =>
    simp only [read?] at h
    split at h
    · cases h
    · cases h
      rfl
  | _ =>
    cases h
    rfl

/-- An item leaves its name, which is trimmed and stands in the marker. -/
private theorem tight_of_read? {caps : Pattern.Captures} {d : Directive}
    (h : read? .item caps = some d) :
    Tight d.replacement.toList ∧ d.replacement.toList ⊆ caps.text 1 := by
  simp only [read?] at h
  split at h
  · cases h
  · next hname =>
    cases h
    have hne : Text.trimChars (Text.remove isBracket (kept caps 1)).toList ≠ [] := by
      intro hnil
      rw [Text.trim, hnil] at hname
      exact hname rfl
    simp only [Directive.replacement, Text.trim, String.toList_ofList]
    refine ⟨.of_trimChars hne, ?_⟩
    rw [Text.remove, String.toList_ofList, kept, String.toList_ofList]
    exact ((Text.trimChars_sublist _).trans
      (List.filter_sublist.trans (Text.trimChars_sublist _))).subset

private theorem neat_of_markerOf? {m : Marker} (h : markerOf? k cs = some m) : m.Neat := by
  have hne := Reply.source_ne_nil h
  obtain ⟨r, hr, h⟩ := Option.bind_eq_some_iff.mp h
  obtain ⟨d, hd, he⟩ := Option.bind_eq_some_iff.mp h
  cases he
  constructor
  · by_cases hk : k = .ambiance
    · obtain ⟨front, hpos, hfront, htext⟩ := text_ambiance (hk ▸ hr)
      have hnone : d.replacement = "" := replacement_of_read? (by rw [hk]; decide) hd
      exact ⟨front, hpos, hfront, htext.imp_right fun he => ⟨he, hnone⟩⟩
    · exact ⟨_, hne, not_mem_text_of_avoids (avoids_lineFeed hk) hr, .inl rfl⟩
  · intro hleft
    by_cases hk : k = .item
    · subst hk
      obtain ⟨htight, hsub⟩ := tight_of_read? hd
      have hline := not_mem_text_of_avoids (avoids_lineFeed (by decide)) hr
      exact ⟨htight, fun hm => hline (Pattern.text_captures_subset hr 1 (hsub hm))⟩
    · exact absurd (replacement_of_read? hk hd) hleft

end Grammar

namespace Reply

variable {before : Option Char} {cs : List Char} {ps : List Piece}

/-- The markers of a reply are neat. -/
theorem neat_of_mem_pieces {m : Grammar.Marker} (h : .marker m ∈ pieces cs) : m.Neat := by
  obtain ⟨k, rest, hm⟩ := exists_markerOf?_of_mem_pieces h
  exact Grammar.neat_of_markerOf? hm

private theorem FallsInto.source (h : FallsInto before cs ps) : ps.flatMap Piece.source = cs := by
  induction h with
  | done => rfl
  | prose _ _ ih => rw [List.flatMap_cons, ih, Piece.source, List.singleton_append]
  | marker _ _ _ ih => rw [List.flatMap_cons, ih, Piece.source]

/-- The pieces of a reply put together are the reply. -/
theorem source_pieces (cs : List Char) : (pieces cs).flatMap Piece.source = cs :=
  (fallsInto_pieces cs).source

end Reply

end Tabletop
