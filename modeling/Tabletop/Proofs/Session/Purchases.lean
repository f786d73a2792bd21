import Tabletop.Proofs.Marker.Effects
import Tabletop.Proofs.Party.Wallets

/-!
# Purses

Directives fill the purse of the member who acts and take prices out of it, and leave all other
purses alone. A purchase takes its price, or nothing where it cannot be paid.
-/

namespace Tabletop

/-- A purse after a directive. -/
def Wallet.after (w : Wallet) : Directive → Wallet
  | .reward coins => w.deposit coins
  | .purchase price _ items => if items.isEmpty then w else (w.spend? price).getD w
  | _ => w

/-- The purse of a member after a directive that is about the member. -/
theorem Character.wallet_after (c : Character) (d : Directive) :
    (c.after d).wallet = c.wallet.after d := by
  cases d with
  | purchase price tag items =>
    simp only [after, Wallet.after]
    split
    · rfl
    · cases c.wallet.spend? price <;> rfl
  | _ => rfl

/-- The purse of the member at a place. -/
def Roster.purse? (r : Roster) (index : Nat) : Option Wallet := (r.get? index).map Character.wallet

namespace Situation

variable {s : Situation}

/-- The purses when the acting member's has been changed as given. -/
def pursesWith (s : Situation) (g : Wallet → Wallet) (i : Nat) : Option Wallet :=
  (s.roster.purse? i).map fun w => if i = s.acting then g w else w

theorem pursesWith_of_eq {g : Wallet → Wallet}
    (h : ∀ w, s.roster.purse? s.acting = some w → g w = w) (i : Nat) :
    s.pursesWith g i = s.roster.purse? i := by
  cases hw : s.roster.purse? i with
  | none => simp [pursesWith, hw]
  | some w =>
    by_cases hi : i = s.acting
    · subst hi
      simp [pursesWith, hw, h w hw]
    · simp [pursesWith, hw, hi]

/-- A directive changes the purse of the acting member as it may, and no other. -/
theorem purse?_apply (s : Situation) (d : Directive) (i : Nat) :
    (s.apply d).1.roster.purse? i = s.pursesWith (·.after d) i := by
  rw [Roster.purse?, get?_apply, pursesWith, Roster.purse?, Option.map_map, Option.map_map]
  congr 1
  funext c
  simp only [Function.comp_apply]
  cases d with
  | reward | item | purchase =>
    by_cases hi : i = s.acting
    · simp [subject?, hi, Character.wallet_after]
    · simp [subject?, hi, Ne.symm hi]
  | damage target amount =>
    rw [apply_ite Character.wallet, Character.wallet_after]
    simp [Wallet.after]
  | _ => simp [subject?, Wallet.after]

/-- Directives change the purse of the acting member one after another, and no other. -/
theorem purse?_applyAll (s : Situation) (ds : List Directive) (i : Nat) :
    (s.applyAll ds).1.roster.purse? i =
      s.pursesWith (fun w => ds.foldl Wallet.after w) i := by
  induction ds generalizing s with
  | nil => exact (pursesWith_of_eq (fun w _ => rfl) i).symm
  | cons d ds ih =>
    have hacting : (s.apply d).1.acting = s.acting := acting_applyAll [d]
    refine (ih (s.apply d).1).trans ?_
    rw [pursesWith, purse?_apply, hacting, pursesWith, pursesWith, Option.map_map]
    congr 1
    funext w
    by_cases hi : i = s.acting
    · simp [hi]
    · simp [hi]

/-- A purchase of nothing comes to nothing, one beyond the purse is declined, and any other is paid
for. -/
private theorem purchase_cases {w : Wallet} (hw : s.roster.purse? s.acting = some w)
    (price : Wallet) (tag : Option String) (items : List String) :
    let effect := (s.apply (.purchase price tag items)).2
    let left := w.after (.purchase price tag items)
    items = [] ∧ effect = none ∧ left = w ∨
      items ≠ [] ∧ w.worth < price.worth ∧ effect = some (.declined s.acting items) ∧ left = w ∨
      items ≠ [] ∧ price.worth ≤ w.worth ∧ effect = some (.purchased s.acting items price) ∧
        w.Pays price left := by
  obtain ⟨c, hc, rfl⟩ := Option.map_eq_some_iff.mp hw
  intro effect left
  have hyields : s.Yields (.purchase price tag items) effect := s.yields_apply _
  generalize effect = effect at hyields
  cases hyields with
  | nobody hnone => cases hc.symm.trans hnone
  | nothing => exact .inl ⟨rfl, rfl, rfl⟩
  | declined hne hc' hspend =>
    cases hc.symm.trans hc'
    have hlt : c.wallet.worth < price.worth := by
      rw [← Nat.not_le, ← Wallet.isSome_spend?_iff, hspend]
      exact Bool.false_ne_true
    exact .inr (.inl ⟨hne, hlt, rfl, by simp [left, Wallet.after, hspend]⟩)
  | @purchased _ paid _ _ _ hne hc' hspend =>
    cases hc.symm.trans hc'
    have hpays := Wallet.pays_of_spend? hspend
    have hafter : left = paid := by simp [left, Wallet.after, hne, hspend]
    exact .inr (.inr ⟨hne, hpays.affordable, rfl, hafter ▸ hpays⟩)

/-- A wallet pays whatever its worth covers. Wherever a purchase stands among directives, it takes
its price from the purse of the member who acts if the purse covers it, and nothing if it does not
or if nothing is bought; it takes nothing from anybody else. Purses after all directives are what
the directives make of them one after another. -/
theorem pays_of_purchase :
    (∀ w price : Wallet,
      ((w.spend? price).isSome = true ↔ price.worth ≤ w.worth) ∧
        ∀ left, w.spend? price = some left → w.Pays price left) ∧
    (∀ (s : Situation) (ds : List Directive) (i : Nat),
      (s.applyAll ds).1.roster.purse? i = s.pursesWith (fun w => ds.foldl Wallet.after w) i) ∧
    ∀ (s : Situation) (before : List Directive) (price : Wallet) (tag : Option String)
        (items : List String) (w : Wallet),
      (s.applyAll before).1.roster.purse? s.acting = some w →
      let reached := s.applyAll before
      let bought := s.applyAll (before ++ [.purchase price tag items])
      (∀ i, i ≠ s.acting → bought.1.roster.purse? i = reached.1.roster.purse? i) ∧
      ∃ left, bought.1.roster.purse? s.acting = some left ∧
        (items = [] ∧ bought.2 = reached.2 ∧ left = w ∨
          items ≠ [] ∧ w.worth < price.worth ∧
            bought.2 = reached.2 ++ [.declined s.acting items] ∧ left = w ∨
          items ≠ [] ∧ price.worth ≤ w.worth ∧
            bought.2 = reached.2 ++ [.purchased s.acting items price] ∧ w.Pays price left) := by
  refine ⟨fun w price => ⟨Wallet.isSome_spend?_iff, fun left => Wallet.pays_of_spend?⟩,
    purse?_applyAll, ?_⟩
  intro s before price tag items w hw reached bought
  have hacting : reached.1.acting = s.acting := acting_applyAll before
  have hpurses : ∀ i, bought.1.roster.purse? i =
      reached.1.pursesWith (·.after (.purchase price tag items)) i := by
    intro i
    simp only [bought, applyAll_concat]
    exact purse?_apply reached.1 _ i
  have heffects : bought.2 = reached.2 ++ (reached.1.apply (.purchase price tag items)).2.toList :=
    congrArg Prod.snd (s.applyAll_concat before _)
  refine ⟨fun i hi => ?_, w.after (.purchase price tag items), ?_, ?_⟩
  · simp [hpurses, pursesWith, hacting, hi]
  · simp [hpurses, pursesWith, hacting, reached, hw]
  · rw [heffects, ← hacting]
    rcases reached.1.purchase_cases (hacting.symm ▸ hw) price tag items with
      ⟨hnone, heffect, hleft⟩ | ⟨hsome, hlt, heffect, hleft⟩ | ⟨hsome, hle, heffect, hpays⟩
    · exact .inl ⟨hnone, by rw [heffect]; simp, hleft⟩
    · exact .inr (.inl ⟨hsome, hlt, by rw [heffect]; simp, hleft⟩)
    · exact .inr (.inr ⟨hsome, hle, by rw [heffect]; simp, hpays⟩)

/-- A member with ten gold coins is given three silver ones and buys a dagger. -/
theorem pays_of_purchase_dagger :
    let buyer := { Character.bare "Elara" "Elf" "Fighter" 20 with wallet := ⟨10, 0, 0⟩ }
    let s : Situation := ⟨⟨[buyer], 0, 5⟩, .none, 0, false⟩
    let price : Wallet := ⟨5, 0, 1⟩
    let before : List Directive := [.reward ⟨0, 3, 0⟩]
    ∃ w left : Wallet, w = ⟨10, 3, 0⟩ ∧
      (s.applyAll before).1.roster.purse? s.acting = some w ∧
      (s.applyAll (before ++ [.purchase price (some "weapon") ["Dagger"]])).1.roster.purse?
        s.acting = some left ∧ w.Pays price left := by
  intro buyer s price before
  have hw : (s.applyAll before).1.roster.purse? s.acting = some ⟨10, 3, 0⟩ := by decide
  obtain ⟨-, -, hpurchase⟩ := pays_of_purchase
  obtain ⟨-, left, hleft, hcases⟩ := hpurchase s before price (some "weapon") ["Dagger"] _ hw
  refine ⟨_, left, rfl, hw, hleft, ?_⟩
  rcases hcases with ⟨hnone, -⟩ | ⟨-, hlt, -⟩ | ⟨-, -, -, hpays⟩
  · cases hnone
  · exact absurd hlt (by decide)
  · exact hpays

/-- Whoever pays nothing out of as many gold coins as can be counted, and ten silver coins on top,
is left without the silver. -/
theorem worth_lost_of_spend? :
    let w : Wallet := ⟨4294967295, 10, 0⟩
    w.spend? .empty = some ⟨4294967295, 0, 0⟩ ∧
      (⟨4294967295, 0, 0⟩ : Wallet).worth + Wallet.empty.worth < w.worth := by
  decide +kernel

end Situation

end Tabletop
