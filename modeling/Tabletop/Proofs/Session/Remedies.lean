import Mathlib.Algebra.Ring.Nat
import Tabletop.Proofs.Dice.Draws
import Tabletop.Proofs.Party.Regeneration
import Tabletop.Proofs.Session.Vitals

/-!
# Remedies

What comes of the use of an item. An item is worth what the dice give for its name; a member gains
as much of that as is lacking. The item is used up exactly if something is gained.
-/

namespace Tabletop

/-! ## What an item is worth -/

namespace Dice

/-- Throws of a four-sided die, one after another. -/
def throws (dice : Dice) : Nat → List Nat
  | 0 => []
  | n + 1 => dice.d4.1 :: dice.d4.2.throws n

/-- The sum of several throws is that of each of them. -/
theorem sumD4_eq (dice : Dice) (n : Nat) : (dice.sumD4 n).1 = (dice.throws n).sum := by
  induction n generalizing dice with
  | zero => rfl
  | succ n ih =>
    rw [throws, List.sum_cons, ← ih]
    rfl

/-- A four-sided die shows one to four. -/
theorem mem_throws {dice : Dice} {n x : Nat} (h : x ∈ dice.throws n) : 1 ≤ x ∧ x ≤ 4 := by
  induction n generalizing dice with
  | zero => cases h
  | succ n ih =>
    rcases List.mem_cons.mp h with rfl | h
    · have hlt : (dice.below32 4).1 < 4 :=
        below_lt (by decide) (fun dice => dice.draw32.1.toNat_lt) patience dice
      exact ⟨Nat.le_add_left 1 _, hlt⟩
    · exact ih h

end Dice

/-- What an item is worth under dice, by its name without regard to case. -/
def Item.remedy (item : Item) (dice : Dice) : Nat :=
  let named := Text.contains (Text.lower item.name)
  if named "potion of greater healing" then (dice.throws 4).sum + 4
  else if named "potion of healing" then (dice.throws 2).sum + 2
  else if named "medical kit" || named "healer's kit" then 10
  else 0

theorem Item.rollHealing_eq (item : Item) (dice : Dice) :
    (item.rollHealing dice).1 = item.remedy dice := by
  simp only [rollHealing, healing?, remedy]
  split_ifs
  · exact congrArg (· + 4) (dice.sumD4_eq 4)
  · exact congrArg (· + 2) (dice.sumD4_eq 2)
  · rfl
  · rfl

/-! ## What a member gains -/

namespace Character

variable {c : Character}

/-- Healing brings what is lacking, and no more. -/
theorem Vital.heal_eq (h : c.Vital) (amount : Nat) :
    let healed := min amount c.gap
    (c.heal amount).currentHp.toInt = c.currentHp.toInt + healed ∧
      (healed ≠ 0 → (c.heal amount).status = .alive) := by
  intro healed
  have hmax := c.maxHp.toInt_lt
  have hnonneg := h.hp_nonneg
  have hle := h.hp_le_max
  have hgap : (c.gap : Int) = c.maxHp.toInt - c.currentHp.toInt :=
    Int.toNat_of_nonneg (Int.sub_nonneg_of_le hle)
  have hclamped : max 0 (min (c.currentHp.toInt + max 0 (amount : Int)) c.maxHp.toInt) =
      c.currentHp.toInt + healed := by omega
  have hhp : (c.heal amount).currentHp.toInt = c.currentHp.toInt + healed := by
    simp only [Character.heal, Character.setHp, hclamped]
    exact Int32.toInt_ofInt_of_le (by omega) (by omega)
  refine ⟨hhp, fun hhealed => (h.heal amount).status_eq_alive ?_⟩
  rw [hhp]
  omega

/-- A character after the use of the item at a place of its inventory: it has gained hit points and
stands, and the item is gone; nothing else has changed. -/
structure Cured (c d : Character) (healed index : Nat) : Prop where
  hp : d.currentHp.toInt = c.currentHp.toInt + healed
  status : d.status = .alive
  inventory : ∃ before item after, c.inventory = before ++ item :: after ∧
    before.length = index ∧ d.inventory = before ++ after
  otherwise : d =
    { c with currentHp := d.currentHp, status := d.status, inventory := d.inventory }

theorem Vital.cured (h : c.Vital) {amount index : Nat} {item : Item}
    (hi : c.inventory[index]? = some item) (hhealed : min amount c.gap ≠ 0) :
    c.Cured { c.heal amount with inventory := c.inventory.eraseIdx index } (min amount c.gap)
      index := by
  obtain ⟨hhp, hstatus⟩ := h.heal_eq amount
  obtain ⟨hlt, rfl⟩ := List.getElem?_eq_some_iff.mp hi
  refine ⟨hhp, hstatus hhealed, ⟨c.inventory.take index, c.inventory[index],
    c.inventory.drop (index + 1), ?_, ?_, ?_⟩, rfl⟩
  · rw [List.getElem_cons_drop, List.take_append_drop]
  · exact List.length_take_of_le hlt.le
  · exact List.eraseIdx_eq_take_drop_succ _ _

end Character

namespace Session

/-- An idle move leaves the table as it is but for the session, and asks the world for nothing. -/
theorem play_idle {σ : Type} (cast : Cast (StateM σ)) {t : Table} {move : Session → Move}
    {s : Session} (h : move t.session = ⟨s, [], .idle⟩) (w : σ) :
    (t.play cast move).run w = (({ t with session := s }, .ok none), w) := by
  simp only [Table.play, h]
  rfl

/-- The use of an item, at any time in the course of a session in which the game is not over. What
is gained is what the item is worth as the dice fall, as far as it is lacking. If nothing is gained,
there is no turn, the narrator hears nothing, and only the dice have been used. If something is
gained, a turn starts from the session in which the member is healed and the item gone, with one
line about it in the log; the narrator is asked, unless the count of somebody's rest overflows. -/
theorem useItem_of_run {first : Session} (hfirst : first.roster.All Character.Vital)
    (steps : List Step) {member index : Nat} {c : Character} {item : Item}
    (hphase : (first.run steps).phase ≠ .gameOver)
    (hc : (first.run steps).roster.get? member = some c) (hi : c.inventory[index]? = some item) :
    let s := first.run steps
    let healed := min (item.remedy s.dice) c.gap
    let dice := (item.rollHealing s.dice).2
    (∀ n, ∀ x ∈ s.dice.throws n, 1 ≤ x ∧ x ≤ 4) ∧
    (healed = 0 → ∀ {σ : Type} (cast : Cast (StateM σ)) (t : Table) (w : σ), t.session = s →
      (t.play cast (Deed.useItem member index).move).run w =
        (({ t with session := { s with dice } }, .ok none), w)) ∧
    (healed ≠ 0 → ∃ d,
      Puts (s.useItem member index)
        { s with
          dice
          roster := { s.roster with members := s.roster.members.set member d }
          log := s.log ++ [.game (c.name ++ " used " ++ item.name ++ " and recovered " ++
            Text.ofNat healed ++ " HP.")] }
        [.player ("(I use a " ++ item.name ++ " and recover " ++ Text.ofNat healed ++ " HP.)")] ∧
      c.Cured d healed index) := by
  intro s healed dice
  have hvital : c.Vital := (run_induction (p := fun s => s.roster.All Character.Vital)
    (fun _ step h => perform_all h step) hfirst steps).get? hc
  have hplay : s.ensurePlayable = .ok () := by
    refine ensurePlayable_eq_ok_iff.mpr ⟨hphase, ?_⟩
    cases hmembers : s.roster.members with
    | nil => simp [Roster.get?, s, hmembers] at hc
    | cons d ds => simp [Roster.isEmpty, hmembers]
  have hr : item.rollHealing s.dice = (item.remedy s.dice, dice) :=
    Prod.ext (item.rollHealing_eq s.dice) rfl
  have hgained : ((c.heal (item.remedy s.dice)).currentHp.toInt - c.currentHp.toInt).toNat =
      healed := by
    rw [(hvital.heal_eq (item.remedy s.dice)).1]
    omega
  refine ⟨fun n x hx => Dice.mem_throws hx, fun hnone σ cast t w ht => ?_, fun hsome => ?_⟩
  · refine play_idle cast ?_ w
    rw [ht]
    exact useItem_idle hplay hc hi hr (hgained.trans hnone)
  · have hputs := puts_useItem hplay hc hi hr (hgained.trans_ne hsome)
    rw [hgained] at hputs
    exact ⟨_, hputs, hvital.cured hi hsome⟩

/-- A bard who lacks three hit points recovers them by a potion. A rope is kept. -/
theorem useItem_of_run_bard :
    let bo := { Character.bare "Bo" "Elf" "Bard" 16 with
      currentHp := 13, inventory := [.plain "Rope", .plain "Potion of Healing"] }
    let s := { start .usual (.ofWords [7]) with roster := ⟨[bo], 0, 5⟩ }
    (∀ (cast : Cast (StateM Nat)) (t : Table) (w : Nat), t.session = s →
      (t.play cast (Deed.useItem 0 0).move).run w = ((t, .ok none), w)) ∧
    ∃ d start turn, bo.Cured d 3 1 ∧ start.roster.members = [d] ∧
      start.log = [.game "Bo used Potion of Healing and recovered 3 HP."] ∧
        Asks (s.useItem 0 1) start [.player "(I use a Potion of Healing and recover 3 HP.)"]
          turn := by
  intro bo s
  have hvital : s.roster.All Character.Vital := fun c hc => by
    rw [List.mem_singleton.mp hc]
    exact ⟨by decide, by decide, by decide, by decide⟩
  have hphase : (s.run []).phase ≠ .gameOver := by decide
  have hbo : (s.run []).roster.get? 0 = some bo := rfl
  have hrope : bo.inventory[0]? = some (.plain "Rope") := rfl
  have hpotion : bo.inventory[1]? = some (.plain "Potion of Healing") := rfl
  have hnothing : min ((Item.plain "Rope").remedy (s.run []).dice) bo.gap = 0 := by decide +kernel
  have hthree : min ((Item.plain "Potion of Healing").remedy (s.run []).dice) bo.gap = 3 := by
    decide +kernel
  constructor
  · intro cast t w ht
    have hkept := (useItem_of_run hvital [] hphase hbo hrope).2.1 hnothing cast t w ht
    exact hkept.trans (congrArg (fun session => (({ t with session }, Except.ok none), w)) ht.symm)
  · have hused := (useItem_of_run hvital [] hphase hbo hpotion).2.2
    rw [hthree] at hused
    obtain ⟨d, hputs, hcured⟩ := hused (by decide)
    cases hputs with
    | asks hasks => exact ⟨d, _, _, hcured, rfl, rfl, hasks⟩
    | breaksOff hb =>
      -- Rest does not heal a bard of average strength.
      obtain ⟨c, hc, hrecovers, -⟩ := hb.restOverflows
      have hmodifier : d.strengthModifier = bo.strengthModifier := by rw [hcured.otherwise]; rfl
      have hstrong := hrecovers.strong
      rw [List.mem_singleton.mp hc, hmodifier] at hstrong
      exact absurd hstrong (by decide)

end Session

end Tabletop
