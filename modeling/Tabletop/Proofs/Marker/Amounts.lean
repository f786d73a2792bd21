import Mathlib.Data.Set.List
import Tabletop.Proofs.Marker.Readback
import Tabletop.Proofs.Pattern.Captures

/-!
# Numbers of directives

Four kinds of markers have numerals in them, and the numbers of their directives are what those
numerals are read as. Any numeral can stand there, however long; a longer one is not read as less,
as long as the number that it writes is within 64 bits.
-/

namespace Tabletop

/-- The numbers under which the pattern of a kind keeps numerals. -/
def Keyword.numerals : Keyword → List Nat
  | .reward | .purchase => [1, 2, 3]
  | .damage => [2]
  | .distance => [1]
  | _ => []

/-- The largest number in a marker of a kind. -/
def Keyword.ceiling : Keyword → Nat
  | .damage => 2147483647
  | _ => 4294967295

/-- The numbers of a directive that are numerals in its marker. -/
def Directive.numbers : Directive → List Int
  | .reward coins | .purchase coins _ _ =>
    [coins.gold.toNat, coins.silver.toNat, coins.copper.toNat]
  | .damage _ amount => [amount.toInt]
  | .distance meters => [meters.toNat]
  | _ => []

namespace Grammar

open Pattern (someOf)

variable {k : Keyword} {cs : List Char}

/-- A text starts with a marker in which numerals stand. -/
def Writes (k : Keyword) (cs : List Char) (ns : List Numeral) : Prop :=
  ∃ found, (pattern k).matchStart cs = some found ∧
    ns.map Numeral.text = k.numerals.map found.captures.text

/-! ## Every marker writes numerals -/

/-- The word characters of a numeral; damage asks for some. -/
private def wordOfNumeral : Keyword → Pattern
  | .damage => someOf Text.isWordChar
  | _ => .run Text.isWordChar

/-- What a pattern keeps as numerals is a sign or none and word characters each. -/
private theorem filter_keepers_pattern (k : Keyword) :
    (pattern k).keepers.filter (fun kept => k.numerals.contains kept.1) =
      k.numerals.map fun i => (i, .seq (Pattern.optional (.one isSign)) (wordOfNumeral k)) := by
  cases k <;> rfl

private theorem mem_alwaysKept_pattern {i : Nat} (hi : i ∈ k.numerals) :
    i ∈ (pattern k).alwaysKept := by
  revert i
  cases k <;> decide

private theorem isWordChar_of_run {ds : List Char} {m : Pattern.Match}
    (h : (Pattern.run Text.isWordChar).matchStart ds = some m) :
    ∀ c ∈ m.text, Text.isWordChar c = true := by
  cases h
  exact List.all_eq_true.mp List.all_takeWhile

private theorem isWordChar_of_wordOfNumeral {ds : List Char} {m : Pattern.Match}
    (h : (wordOfNumeral k).matchStart ds = some m) : ∀ c ∈ m.text, Text.isWordChar c = true := by
  cases k with
  | damage =>
    obtain ⟨m₁, m₂, h₁, h₂, rfl⟩ := Pattern.matchStart_seq_eq_some_iff.mp h
    obtain ⟨c, hc, -, hm⟩ := Pattern.matchStart_one_eq_some_iff.mp h₁
    rw [hm]
    exact List.forall_mem_cons.mpr ⟨hc, isWordChar_of_run h₂⟩
  | _ => exact isWordChar_of_run h

/-- A sign or none and word characters are a numeral. -/
private theorem exists_text_eq_of_match {ds : List Char} {m : Pattern.Match}
    (h : (Pattern.seq (Pattern.optional (.one isSign)) (wordOfNumeral k)).matchStart ds = some m) :
    ∃ n : Numeral, n.text = m.text := by
  obtain ⟨m₁, m₂, h₁, h₂, rfl⟩ := Pattern.matchStart_seq_eq_some_iff.mp h
  have hword := isWordChar_of_wordOfNumeral h₂
  simp only [Pattern.optional, Pattern.matchStart] at h₁
  split at h₁
  · next m hm =>
    cases h₁
    obtain ⟨c, hc, -, hm⟩ := Pattern.matchStart_one_eq_some_iff.mp hm
    have hsign : ∀ d ∈ some c, isSign d = true := by simpa using hc
    obtain ⟨n, hn⟩ := Numeral.exists_text_eq hsign hword
    exact ⟨n, by rw [hn, hm]; rfl⟩
  · cases h₁
    have hsign : ∀ d ∈ (none : Option Char), isSign d = true := by simp
    exact Numeral.exists_text_eq hsign hword

/-- A match of a kind's pattern keeps numerals where the kind has them. -/
private theorem exists_text_eq_of_mem_numerals {found : Pattern.Match} {i : Nat}
    (h : (pattern k).matchStart cs = some found) (hi : i ∈ k.numerals) :
    ∃ n : Numeral, n.text = found.captures.text i := by
  obtain ⟨part, ds, m, hpart, hm, htext⟩ :=
    Pattern.exists_text_captures h (mem_alwaysKept_pattern hi)
  have hkept : (i, part) ∈ (pattern k).keepers.filter (fun kept => k.numerals.contains kept.1) :=
    List.mem_filter.mpr ⟨hpart, List.contains_iff_mem.mpr hi⟩
  rw [filter_keepers_pattern] at hkept
  obtain ⟨j, -, he⟩ := List.mem_map.mp hkept
  cases he
  rw [← htext]
  exact exists_text_eq_of_match hm

/-- Every match of a kind's pattern writes numerals. -/
private theorem exists_writes_of_match {found : Pattern.Match}
    (h : (pattern k).matchStart cs = some found) : ∃ ns, Writes k cs ns := by
  have hall : k.numerals.map found.captures.text ∈ Set.range (List.map Numeral.text) := by
    rw [Set.range_list_map]
    intro t ht
    obtain ⟨i, hi, rfl⟩ := List.mem_map.mp ht
    exact exists_text_eq_of_mem_numerals h hi
  obtain ⟨ns, hns⟩ := hall
  exact ⟨ns, found, h, hns⟩

/-! ## Any numerals can stand in a marker -/

/-- Each kind writes any numerals, as many as it has; those of damage have word characters. -/
private theorem exists_writes {ns : List Numeral} (hk : k.numerals ≠ [])
    (hlength : ns.length = k.numerals.length) (hword : k = .damage → ∀ n ∈ ns, n.word ≠ []) :
    ∃ cs, Writes k cs ns := by
  have hname : IsField isFieldChar "Bo" := by decide
  have hnone : ∀ c ∈ ([] : List Char), isNotLineFeed c = true := by simp
  have hend : AtLineEnd [] := by simp [AtLineEnd]
  cases k with
  | reward =>
    match ns, hlength with
    | [gold, silver, copper], _ =>
      obtain ⟨text, h⟩ := reads_reward gold silver copper []
      exact ⟨_, _, h, rfl⟩
  | purchase =>
    match ns, hlength with
    | [gold, silver, copper], _ =>
      obtain ⟨text, h⟩ := reads_purchase gold silver copper hname hnone rfl hend
      exact ⟨_, _, h, rfl⟩
  | damage =>
    match ns, hlength with
    | [n], _ =>
      have hn : n.word ≠ [] := hword rfl n (by simp)
      obtain ⟨text, h⟩ := reads_damage hname n hn hend
      exact ⟨_, _, h, rfl⟩
  | distance =>
    match ns, hlength with
    | [n], _ =>
      obtain ⟨text, h⟩ := reads_distance n []
      exact ⟨_, _, h, rfl⟩
  | _ => exact absurd rfl hk

/-! ## Numbers -/

/-- The number of a kept numeral. -/
private def numberOf (k : Keyword) (cs : List Char) : Int :=
  if k = .damage then (damageOf (count cs)).toInt else (count cs).toNat

private theorem numberOf_text (k : Keyword) (n : Numeral) :
    numberOf k n.text = n.reading k.ceiling := by
  by_cases hk : k = .damage
  · rw [numberOf, if_pos hk, n.toInt_damageOf_count_text, hk]
    rfl
  · have hceiling : k.ceiling = maxCount := by
      cases k with
      | damage => exact absurd rfl hk
      | _ => rfl
    rw [numberOf, if_neg hk, n.toNat_count_text, hceiling]

/-- A kind with numerals reads whatever its pattern keeps, and its numbers come from there. -/
private theorem exists_read? (hk : k.numerals ≠ []) (caps : Pattern.Captures) :
    ∃ d, read? k caps = some d ∧
      d.numbers = k.numerals.map fun i => numberOf k (caps.text i) := by
  cases k with
  | reward | purchase | damage | distance => exact ⟨_, rfl, rfl⟩
  | _ => exact absurd rfl hk

/-- A marker's numbers are what its numerals are read as. -/
private theorem numbers_of_writes {ns : List Numeral} (hk : k.numerals ≠ [])
    (h : Writes k cs ns) :
    ∃ m, markerOf? k cs = some m ∧
      m.directive.numbers = ns.map fun n => (n.reading k.ceiling : Int) := by
  obtain ⟨found, hfound, hns⟩ := h
  obtain ⟨d, hd, hnumbers⟩ := exists_read? hk found.captures
  refine ⟨⟨d, found.text⟩, by simp [markerOf?, hfound, hd], ?_⟩
  calc d.numbers = (k.numerals.map found.captures.text).map (numberOf k) := by
        rw [hnumbers, List.map_map]
        rfl
    _ = ns.map fun n => numberOf k n.text := by
        rw [← hns, List.map_map]
        rfl
    _ = ns.map fun n => (n.reading k.ceiling : Int) := by
        simp only [numberOf_text]

/-- The numbers of rewards, purchases, damage and distances are what their numerals are read as: in
every marker numerals stand, any numerals can, and with another digit behind it a numeral is not
read as less, as long as the number that it writes is within 64 bits. -/
theorem numbers_eq_readings (hk : k.numerals ≠ []) :
    (∀ cs m, markerOf? k cs = some m → ∃ ns, Writes k cs ns) ∧
      (∀ ns, ns.length = k.numerals.length → (k = .damage → ∀ n ∈ ns, n.word ≠ []) →
        ∃ cs, Writes k cs ns) ∧
      (∀ cs ns, Writes k cs ns → ∃ m, markerOf? k cs = some m ∧
        m.directive.numbers = ns.map fun n => (n.reading k.ceiling : Int)) ∧
      ∀ (n n' : Numeral) (c : Char), Text.isDigit c = true → n'.text = n.text ++ [c] →
        n'.number < UInt64.size → n.reading k.ceiling ≤ n'.reading k.ceiling := by
  refine ⟨fun cs m h => ?_, fun ns => exists_writes hk, fun cs ns => numbers_of_writes hk,
    fun n n' c => Numeral.reading_le_of_text_eq⟩
  obtain ⟨found, hfound, -⟩ := Option.bind_eq_some_iff.mp h
  exact exists_writes_of_match hfound

/-- Signs and units do not count, and more coins than there can be are as many as there can be. -/
theorem numbers_eq_readings_purchase :
    Keyword.purchase.numerals ≠ [] ∧
      ∃ m, markerOf? .purchase "TRANSACTION:[+99999999999,5sp,-3],Bo,rope".toList = some m ∧
        m.directive.numbers = [4294967295, 5, 0] :=
  ⟨by decide, (numbers_eq_readings (k := .purchase) (by decide)).2.2.1 _
    [⟨some '+', "99999999999".toList, [], by simp [isSign], List.all_eq_true.mp rfl,
        List.forall_mem_nil _, rfl⟩,
      ⟨none, ['5'], ['s', 'p'], by simp, List.all_eq_true.mp rfl, List.all_eq_true.mp rfl, rfl⟩,
      ⟨some '-', ['3'], [], by simp [isSign], List.all_eq_true.mp rfl, List.forall_mem_nil _, rfl⟩]
    ⟨_, rfl, rfl⟩⟩

/-- Damage beyond 64 bits is none at all, though it is the largest there can be without its last
digit. -/
theorem damage_beyond_64_bits :
    (markerOf? .damage "DAMAGE:Bo,1844674407370955161".toList).map (·.directive) =
        some (.damage "Bo" 2147483647) ∧
      (markerOf? .damage "DAMAGE:Bo,18446744073709551616".toList).map (·.directive) =
        some (.damage "Bo" 0) := by
  decide +kernel

end Grammar

end Tabletop
