import Tabletop.Proofs.Party.Vitals

/-!
# Regeneration

What rest does to a character, one turn of it and several in a row. Turns are counted up to the
threshold, and with every full count a character gains a hit point until none is lacking. The main
result gives hit points and counter after any number of turns. The count overflows only from a
counter at its greatest value, which no count below a threshold reaches.
-/

namespace Tabletop.Character

variable {c d e : Character} {threshold : UInt32}

/-- Rest will heal: the character is strong, standing and hurt. -/
structure Recovers (c : Character) : Prop where
  strong : 1 ≤ c.strengthModifier
  standing : 0 < c.currentHp.toInt
  hurt : c.currentHp.toInt < c.maxHp.toInt

/-- A character after rest, with its hit points and its counter; nothing else has changed. -/
structure Rested (c d : Character) (hp : Int) (counter : Nat) : Prop where
  hp : d.currentHp.toInt = hp
  counter : d.regenCounter.toNat = counter
  otherwise : d = { c with currentHp := d.currentHp, regenCounter := d.regenCounter }

/-- Turns of rest in a row: the character after them, and what each of them has done. -/
def turns? (c : Character) (threshold : UInt32) : Nat → Option (Character × List Regeneration)
  | 0 => some (c, [])
  | n + 1 => do
    let (d, first) ← c.regenerate? threshold
    let (e, rest) ← d.turns? threshold n
    return (e, first :: rest)

/-- The turns that it takes a character to gain a hit point. -/
def period (threshold : UInt32) : Nat := max 1 threshold.toNat

/-- The hit points that a character lacks. -/
def gap (c : Character) : Nat := (c.maxHp.toInt - c.currentHp.toInt).toNat

/-! ## One turn -/

theorem canRegenerate_iff : c.canRegenerate = true ↔ c.Recovers := by
  simp only [canRegenerate, isDown, Bool.and_eq_true, Bool.not_eq_true', decide_eq_true_eq,
    decide_eq_false_iff_not, Int.not_le]
  exact ⟨fun h => ⟨h.1.1, h.1.2, h.2⟩, fun h => ⟨⟨h.strong, h.standing⟩, h.hurt⟩⟩

/-- Rest does nothing to a character whom it will not heal. -/
theorem regenerate?_of_not_recovers (h : ¬ c.Recovers) (threshold : UInt32) :
    c.regenerate? threshold = some (c, .ineligible) := by
  rw [regenerate?, if_neg (mt canRegenerate_iff.mp h)]

/-- Below its greatest value a counter goes up by one. -/
theorem exists_nextCounter? (h : c.regenCounter.toNat + 1 < UInt32.size) :
    ∃ counter, c.nextCounter? = some counter ∧ counter.toNat = c.regenCounter.toNat + 1 := by
  refine ⟨c.regenCounter + 1, if_pos h, ?_⟩
  rw [UInt32.toNat_add]
  exact Nat.mod_eq_of_lt h

/-- The counter is the greatest that a word can hold. -/
def CounterFull (c : Character) : Prop := c.regenCounter.toNat + 1 = UInt32.size

/-- A full counter goes no further, whatever the threshold. -/
theorem regenerate?_eq_none_iff :
    c.regenerate? threshold = none ↔ c.Recovers ∧ c.CounterFull := by
  have hlt : c.regenCounter.toNat < UInt32.size := c.regenCounter.toNat_lt
  unfold CounterFull
  by_cases h : c.Recovers
  · rw [regenerate?, if_pos (canRegenerate_iff.mpr h), Option.map_eq_none_iff, nextCounter?]
    simp only [ite_eq_right_iff, reduceCtorEq, imp_false, h, true_and]
    omega
  · simp [regenerate?_of_not_recovers h, h]

theorem Vital.status_eq_alive (h : c.Vital) (hup : 0 < c.currentHp.toInt) :
    c.status = .alive := by
  cases hs : c.status with
  | alive => rfl
  | downed =>
    have := h.downed_iff.mp hs
    omega

/-- A turn that completes the count heals a hit point and starts the count again. -/
theorem regenerate?_of_le (hvital : c.Vital) (h : c.Recovers)
    (hroom : c.regenCounter.toNat + 1 < UInt32.size)
    (hle : threshold.toNat ≤ c.regenCounter.toNat + 1) :
    ∃ d, c.regenerate? threshold = some (d, .healed) ∧
      c.Rested d (c.currentHp.toInt + 1) 0 := by
  have hmax := c.maxHp.toInt_lt
  have hup := h.standing
  have hhurt := h.hurt
  obtain ⟨counter, hcounter, hnext⟩ := exists_nextCounter? hroom
  have hhp : max 0 (min (c.currentHp.toInt + max 0 1) c.maxHp.toInt) = c.currentHp.toInt + 1 := by
    omega
  have hstatus : Status.ofHp (c.currentHp.toInt + 1) = c.status := by
    rw [hvital.status_eq_alive hup, Status.ofHp, if_neg (by omega)]
  have hheal : ({ c with regenCounter := 0 } : Character).heal 1 =
      { c with currentHp := Int32.ofInt (c.currentHp.toInt + 1), regenCounter := 0 } := by
    simp only [heal, setHp, hhp, hstatus]
  have hle' : threshold ≤ counter := UInt32.le_iff_toNat_le.mpr (hnext ▸ hle)
  refine ⟨{ c with currentHp := Int32.ofInt (c.currentHp.toInt + 1), regenCounter := 0 }, ?_,
    Int32.toInt_ofInt_of_le (by omega) (by omega), rfl, rfl⟩
  rw [regenerate?, if_pos (canRegenerate_iff.mpr h), hcounter, Option.map_some, if_pos hle', hheal]

/-- A turn that does not complete the count is counted. -/
theorem regenerate?_of_lt (h : c.Recovers) (hlt : c.regenCounter.toNat + 1 < threshold.toNat) :
    ∃ d counter, c.regenerate? threshold = some (d, .counting counter) ∧
      counter.toNat = c.regenCounter.toNat + 1 ∧
        c.Rested d c.currentHp.toInt (c.regenCounter.toNat + 1) := by
  have hsize : threshold.toNat < UInt32.size := threshold.toNat_lt
  obtain ⟨counter, hcounter, hnext⟩ := exists_nextCounter? (Nat.lt_trans hlt hsize)
  have hnot : ¬ threshold ≤ counter := fun hle => by
    have hle' := UInt32.le_iff_toNat_le.mp hle
    omega
  refine ⟨{ c with regenCounter := counter }, counter, ?_, hnext, rfl, hnext, rfl⟩
  rw [regenerate?, if_pos (canRegenerate_iff.mpr h), hcounter, Option.map_some, if_neg hnot]

/-! ## Turns in a row -/

namespace Rested

variable {hp hp' : Int} {counter counter' : Nat}

theorem refl (c : Character) : c.Rested c c.currentHp.toInt c.regenCounter.toNat :=
  ⟨rfl, rfl, rfl⟩

theorem trans (h : c.Rested d hp counter) (h' : d.Rested e hp' counter') :
    c.Rested e hp' counter' := by
  refine ⟨h'.hp, h'.counter, h'.otherwise.trans ?_⟩
  rw [h.otherwise]

theorem maxHp (h : c.Rested d hp counter) : d.maxHp = c.maxHp := by rw [h.otherwise]

theorem strengthModifier (h : c.Rested d hp counter) :
    d.strengthModifier = c.strengthModifier := by rw [h.otherwise]; rfl

/-- Rest heals again while hit points are left and others are lacking. -/
theorem recovers (h : c.Rested d hp counter) (hstrong : 1 ≤ c.strengthModifier) (hup : 0 < hp)
    (hlacks : hp < c.maxHp.toInt) : d.Recovers :=
  ⟨h.strengthModifier ▸ hstrong, by rw [h.hp]; exact hup, by rw [h.hp, h.maxHp]; exact hlacks⟩

theorem gap (h : c.Rested d hp counter) : d.gap = (c.maxHp.toInt - hp).toNat := by
  rw [Character.gap, h.maxHp, h.hp]

end Rested

/-- No turn does anything to a character whom rest will not heal. -/
theorem turns?_of_not_recovers (h : ¬ c.Recovers) (threshold : UInt32) (n : Nat) :
    c.turns? threshold n = some (c, List.replicate n .ineligible) := by
  induction n with
  | zero => rfl
  | succ n ih =>
    simp only [turns?, regenerate?_of_not_recovers h, ih, Option.bind_eq_bind, Option.bind_some,
      List.replicate_succ]
    rfl

/-- A turn of rest and others after it. -/
theorem turns?_succ {first : Regeneration} {rest : List Regeneration} {n : Nat}
    (hfirst : c.regenerate? threshold = some (d, first))
    (hrest : d.turns? threshold n = some (e, rest)) :
    c.turns? threshold (n + 1) = some (e, first :: rest) := by
  simp only [turns?, hfirst, hrest, Option.bind_eq_bind, Option.bind_some]
  rfl

/-- One turn of rest, seen from a character whose counter is below the period: the count goes on, or
it is full and starts again with a hit point gained. -/
theorem regenerate?_of_recovers (hvital : c.Vital) (h : c.Recovers)
    (hcounter : c.regenCounter.toNat < period threshold) :
    ∃ d done, c.regenerate? threshold = some (d, done) ∧
      (c.regenCounter.toNat + 1 = period threshold ∧ done = .healed ∧
          c.Rested d (c.currentHp.toInt + 1) 0 ∨
        c.regenCounter.toNat + 1 < period threshold ∧ done ≠ .healed ∧
          c.Rested d c.currentHp.toInt (c.regenCounter.toNat + 1)) := by
  have hsize : threshold.toNat < UInt32.size := threshold.toNat_lt
  have hperiod : period threshold = max 1 threshold.toNat := rfl
  by_cases hle : threshold.toNat ≤ c.regenCounter.toNat + 1
  · have hroom : c.regenCounter.toNat + 1 < UInt32.size := by
      rw [UInt32.size] at hsize ⊢
      omega
    obtain ⟨d, hturn, hrested⟩ := regenerate?_of_le hvital h hroom hle
    exact ⟨d, _, hturn, .inl ⟨by omega, rfl, hrested⟩⟩
  · obtain ⟨d, counter, hturn, -, hrested⟩ := regenerate?_of_lt h (Nat.not_le.mp hle)
    exact ⟨d, _, hturn, .inr ⟨by omega, nofun, hrested⟩⟩

/-- What turns of rest come to, for a character and its counter: so many hit points gained by the
full counts, as long as some are lacking, and what is left of the count. -/
private def ComesTo (c : Character) (threshold : UInt32) (n : Nat) : Prop :=
  let gained := (c.regenCounter.toNat + n) / period threshold
  ∃ after answers, c.turns? threshold n = some (after, answers) ∧
    c.Rested after (min (c.currentHp.toInt + gained) c.maxHp.toInt)
      (if gained < c.gap then (c.regenCounter.toNat + n) % period threshold else 0) ∧
    answers.count .healed = min gained c.gap

private theorem comesTo_of_full (hvital : c.Vital) (hgap : c.gap = 0)
    (hcounter : c.regenCounter.toNat = 0) (n : Nat) : c.ComesTo threshold n := by
  have hle := hvital.hp_le_max
  have hfull : c.maxHp.toInt - c.currentHp.toInt = 0 := by
    unfold gap at hgap
    omega
  have hnot : ¬ c.Recovers := fun h => by
    have := h.hurt
    omega
  have hhp (gained : Nat) :
      min (c.currentHp.toInt + (gained : Int)) c.maxHp.toInt = c.currentHp.toInt := by omega
  simp only [ComesTo, hhp, hgap, Nat.not_lt_zero, if_false]
  refine ⟨c, _, turns?_of_not_recovers hnot threshold n, ⟨rfl, hcounter, rfl⟩, ?_⟩
  rw [List.count_replicate, if_neg (by decide), Nat.min_zero]

/-- A first turn that heals completes one count; the turns after it start from none. -/
private theorem ComesTo.of_healed {n : Nat} (hhurt : c.currentHp.toInt < c.maxHp.toInt)
    (hfull : c.regenCounter.toNat + 1 = period threshold)
    (hturn : c.regenerate? threshold = some (d, .healed))
    (hstep : c.Rested d (c.currentHp.toInt + 1) 0) (h : d.ComesTo threshold n) :
    c.ComesTo threshold (n + 1) := by
  have hcycle : c.regenCounter.toNat + (n + 1) = n + period threshold := by omega
  have hpos : 0 < period threshold := by omega
  have hgap : c.gap = d.gap + 1 := by
    rw [hstep.gap, gap]
    omega
  obtain ⟨after, answers, hturns, hafter, hcount⟩ := h
  rw [hstep.counter, Nat.zero_add] at hafter hcount
  rw [hstep.hp, hstep.maxHp] at hafter
  simp only [ComesTo, hcycle, Nat.add_div_right _ hpos, Nat.add_mod_right, hgap]
  generalize n / period threshold = gained at hafter hcount ⊢
  refine ⟨after, _, turns?_succ hturn hturns, ?_, ?_⟩
  · have hhp : c.currentHp.toInt + ((gained + 1 : Nat) : Int) = c.currentHp.toInt + 1 + gained := by
      omega
    simp only [hhp, Nat.add_lt_add_iff_right]
    exact hstep.trans hafter
  · rw [List.count_cons_self, hcount, Nat.succ_min_succ]

/-- A first turn that is counted leaves the others the rest of the count. -/
private theorem ComesTo.of_counted {n : Nat} {first : Regeneration} (hanswer : first ≠ .healed)
    (hturn : c.regenerate? threshold = some (d, first))
    (hstep : c.Rested d c.currentHp.toInt (c.regenCounter.toNat + 1)) (h : d.ComesTo threshold n) :
    c.ComesTo threshold (n + 1) := by
  have hgap : d.gap = c.gap := hstep.gap
  obtain ⟨after, answers, hturns, hafter, hcount⟩ := h
  rw [hstep.counter, Nat.add_assoc, Nat.add_comm 1 n, hgap] at hafter hcount
  rw [hstep.hp, hstep.maxHp] at hafter
  refine ⟨after, _, turns?_succ hturn hturns, hstep.trans hafter, ?_⟩
  rw [List.count_cons_of_ne hanswer, hcount]

-- By induction on the turns, the first of which leaves a character who recovers still, or one in
-- full health whose counter is zero.
private theorem comesTo_of_recovers (hvital : c.Vital) (h : c.Recovers)
    (hcounter : c.regenCounter.toNat < period threshold) (n : Nat) : c.ComesTo threshold n := by
  have hhurt := h.hurt
  induction n generalizing c with
  | zero =>
    have hgained : (c.regenCounter.toNat + 0) / period threshold = 0 := Nat.div_eq_of_lt hcounter
    have hgap : 0 < c.gap := by
      unfold gap
      omega
    have hhp : min (c.currentHp.toInt + ((0 : Nat) : Int)) c.maxHp.toInt = c.currentHp.toInt := by
      omega
    simp only [ComesTo, hgained, hhp, if_pos hgap, Nat.zero_min]
    exact ⟨c, [], rfl, ⟨rfl, (Nat.mod_eq_of_lt hcounter).symm, rfl⟩, rfl⟩
  | succ n ih =>
    have hstanding := h.standing
    obtain ⟨d, done, hturn, hcases⟩ := regenerate?_of_recovers hvital h hcounter
    have hrested := hvital.rests (rests_of_regenerate? hturn)
    rcases hcases with ⟨hfull, rfl, hstep⟩ | ⟨hlt, hanswer, hstep⟩
    · refine .of_healed hhurt hfull hturn hstep ?_
      by_cases hlacks : c.currentHp.toInt + 1 < c.maxHp.toInt
      · have hrecovers := hstep.recovers h.strong (by omega) hlacks
        exact ih hrested hrecovers (by rw [hstep.counter]; omega) hrecovers.hurt
      · refine comesTo_of_full hrested ?_ hstep.counter n
        rw [hstep.gap]
        omega
    · have hrecovers := hstep.recovers h.strong hstanding hhurt
      exact .of_counted hanswer hturn hstep
        (ih hrested hrecovers (by rw [hstep.counter]; exact hlt) hrecovers.hurt)

/-- Turns of rest in a row, from a counter below the period. None of them overflows. Every full
count, with what was counted before, brings a hit point, and hit points and counter are as the
counts tell until nothing is lacking; then the character is in full health and the counter at zero.
As many turns heal as hit points are gained, the counter never reaches the period, and nothing else
changes. Whom rest will not heal it leaves alone. -/
theorem rested_turns (hvital : c.Vital) (threshold : UInt32) (n : Nat) :
    (c.Recovers → c.regenCounter.toNat < period threshold →
      let gained := (c.regenCounter.toNat + n) / period threshold
      ∃ after answers, c.turns? threshold n = some (after, answers) ∧
        c.Rested after
          (if gained < c.gap then c.currentHp.toInt + gained else c.maxHp.toInt)
          (if gained < c.gap then (c.regenCounter.toNat + n) % period threshold else 0) ∧
        answers.count .healed = min gained c.gap ∧
        after.regenCounter.toNat < period threshold) ∧
    (¬ c.Recovers → c.turns? threshold n = some (c, List.replicate n .ineligible)) := by
  refine ⟨fun h hcounter => ?_, fun h => turns?_of_not_recovers h threshold n⟩
  have hpos : 0 < period threshold := by omega
  obtain ⟨after, answers, hturns, hafter, hcount⟩ := comesTo_of_recovers hvital h hcounter n
  have hhurt := h.hurt
  have hhp (gained : Nat) : min (c.currentHp.toInt + (gained : Int)) c.maxHp.toInt =
      if gained < c.gap then c.currentHp.toInt + gained else c.maxHp.toInt := by
    unfold gap
    split <;> omega
  rw [hhp] at hafter
  refine ⟨after, answers, hturns, hafter, hcount, ?_⟩
  rw [hafter.counter]
  split
  · exact Nat.mod_lt _ hpos
  · exact hpos

/-- A strong character with a counter of two who lacks two hit points, and three turns to each: the
first turn heals, the fourth one too, and then nothing is lacking. -/
theorem rested_turns_two :
    let bo := { bare "Bo" "Elf" "Bard" 9 with
      stats := { AbilityScores.average with strength := 14 }, currentHp := 7, regenCounter := 2 }
    bo.Vital ∧ bo.Recovers ∧
      (∃ after answers, bo.turns? 3 3 = some (after, answers) ∧ bo.Rested after 8 2 ∧
        answers.count .healed = 1) ∧
      ∃ after, bo.turns? 3 5 =
          some (after, [.healed, .counting 1, .counting 2, .healed, .ineligible]) ∧
        bo.Rested after 9 0 := by
  intro bo
  have hvital : bo.Vital := ⟨by decide, by decide, by decide, by decide⟩
  have hrecovers : bo.Recovers := ⟨by decide, by decide, by decide⟩
  have hthree : (bo.regenCounter.toNat + 3) / period 3 = 1 ∧
      (bo.regenCounter.toNat + 3) % period 3 = 2 := by decide
  have hfive : (bo.regenCounter.toNat + 5) / period 3 = 2 := by decide
  have hbo : bo.gap = 2 ∧ bo.currentHp.toInt = 7 ∧ bo.maxHp.toInt = 9 := by decide
  have hafter := (rested_turns hvital 3 3).1 hrecovers (by decide)
  have hafter' := (rested_turns hvital 3 5).1 hrecovers (by decide)
  simp only [hthree, hbo] at hafter
  simp only [hfive, hbo] at hafter'
  obtain ⟨after, answers, hturns, hrested, hcount, -⟩ := hafter
  obtain ⟨after', answers', hturns', hrested', -, -⟩ := hafter'
  have hanswers : (bo.turns? 3 5).map Prod.snd =
      some [.healed, .counting 1, .counting 2, .healed, .ineligible] := by decide
  rw [hturns', Option.map_some, Option.some.injEq] at hanswers
  refine ⟨hvital, hrecovers, ⟨after, answers, hturns, hrested, hcount⟩, after', ?_, hrested'⟩
  rw [hturns', ← hanswers]

end Tabletop.Character
