import Mathlib.Data.List.Basic
import Tabletop.Marker.Effect
import Tabletop.Proofs.Party.Members
import Tabletop.Proofs.Party.Vitals

/-!
# What directives do

A directive is about one member or none: coins, items and purchases are about the one who acts, and
damage is about the one it is meant for. It changes that member, or the fight, or makes an
invitation wait, and nothing else. `apply_eq` says so once for all directives. Who is meant does not
change from one directive to the next, so what a list of them makes of a member is what those about
the member make of it one after another.
-/

namespace Tabletop

/-- A member after a directive that is about the member. -/
def Character.after (c : Character) : Directive → Character
  | .reward coins => { c with wallet := c.wallet.deposit coins }
  | .item name tag => c.gain (Item.tagged name tag)
  | .purchase price tag items =>
    if items.isEmpty then c
    else match c.wallet.spend? price with
      | none => c
      | some left => Situation.buy c left tag items
  | .damage _ amount => c.takeDamage amount.toInt
  | _ => c

/-- A directive leaves the name of a member as it is. -/
@[simp]
theorem Character.name_after (c : Character) (d : Directive) : (c.after d).name = c.name := by
  cases d with
  | purchase price tag items =>
    simp only [after]
    split
    · rfl
    · split <;> rfl
  | _ => rfl

/-- A directive leaves a member with a lasting property. -/
theorem Character.Lasting.after {p : Character → Prop} {c : Character} (hp : Character.Lasting p)
    (h : p c) (d : Directive) : p (c.after d) := by
  cases d with
  | reward coins => exact hp.of_eq h rfl rfl rfl
  | item name tag => exact hp.of_eq h rfl rfl rfl
  | purchase price tag items =>
    simp only [Character.after]
    split
    · exact h
    · split
      · exact h
      · exact hp.of_eq h rfl rfl rfl
  | damage target amount => exact hp.takeDamage _ h
  | _ => exact h

/-- The fight after a directive. -/
def Combat.after (c : Combat) : Directive → Combat
  | .minimap combatants => ⟨true, some (.grid combatants)⟩
  | .distance meters => ⟨true, some (.distance meters)⟩
  | .combatEnd => .none
  | _ => c

namespace Roster

variable {r r' : Roster}

/-- A party with one of its members changed, if there is one at the place. -/
def adjust (r : Roster) (f : Character → Character) (index : Nat) : Roster :=
  { r with members := r.members.modify index f }

theorem get?_adjust (r : Roster) (f : Character → Character) (index i : Nat) :
    (r.adjust f index).get? i = (r.get? i).map fun c => if index = i then f c else c :=
  List.getElem?_modify f index r.members i

/-- Changes that are the same for the member at the place. -/
theorem adjust_congr {f g : Character → Character} {index : Nat}
    (h : ∀ c, r.get? index = some c → f c = g c) : r.adjust f index = r.adjust g index := by
  have hmembers : r.members.modify index f = r.members.modify index g := by
    apply List.ext_getElem?
    intro i
    rw [List.getElem?_modify, List.getElem?_modify]
    cases hc : r.members[i]? with
    | none => rfl
    | some c =>
      by_cases hi : index = i
      · simp only [Option.map_eq_map, Option.map_some, if_pos hi, h c (hi ▸ hc)]
      · simp only [Option.map_eq_map, Option.map_some, if_neg hi]
  rw [adjust, hmembers, adjust]

/-- A change that finds no member, or leaves the member as it is. -/
theorem adjust_eq_self {f : Character → Character} {index : Nat}
    (h : ∀ c, r.get? index = some c → f c = c) : r.adjust f index = r := by
  rw [adjust_congr (g := id) h, adjust, List.modify_id]

/-- Another version of a member is the member changed. -/
theorem set_eq_adjust {index : Nat} {c d : Character} {f : Character → Character}
    (hc : r.get? index = some c) (hd : f c = d) :
    { r with members := r.members.set index d } = r.adjust f index := by
  have hget : r.members[index]? = some c := hc
  rw [adjust, List.modify_eq_set_getElem?, hget, Option.map_eq_map, Option.map_some,
    Option.getD_some, hd]

/-- A change that keeps the member's name keeps the names. -/
theorem names_adjust {f : Character → Character} (hf : ∀ c, (f c).name = c.name) (index : Nat) :
    (r.adjust f index).names = r.names := by
  apply List.ext_getElem?
  intro i
  simp only [names, adjust, List.getElem?_map, List.getElem?_modify, Option.map_eq_map,
    Option.map_map]
  congr 1
  funext c
  simp only [Function.comp_apply]
  split
  · exact hf c
  · rfl

/-- A change that keeps a property keeps it of all members. -/
theorem All.adjust {p : Character → Prop} {f : Character → Character} (h : r.All p)
    (hf : ∀ c, p c → p (f c)) (index : Nat) : (r.adjust f index).All p := by
  intro c hc
  obtain ⟨i, hi⟩ := List.mem_iff_getElem?.mp hc
  obtain ⟨d, hd, rfl⟩ := Option.map_eq_some_iff.mp ((r.get?_adjust f index i).symm.trans hi)
  split
  · exact hf d (h.get? hd)
  · exact h.get? hd

end Roster

namespace Situation

/-- The place of the member that a directive is about. -/
def subject? (s : Situation) : Directive → Option Nat
  | .reward _ | .item .. | .purchase .. => some s.acting
  | .damage target _ => s.roster.findByFirstName? target
  | _ => none

/-- A directive makes an invitation wait for its answer, unless one waits already. -/
def welcomes (s : Situation) : Directive → Bool
  | .invite _ => !s.roster.isFull
  | _ => false

/-- What becomes of a directive. Coins, items and purchases come to nothing where nobody acts. -/
inductive Yields (s : Situation) : Directive → Option Effect → Prop
  | nobody {d : Directive} : s.roster.get? s.acting = none → s.subject? d = some s.acting →
    Yields s d none
  | rewarded {coins : Wallet} {c : Character} : s.roster.get? s.acting = some c →
    Yields s (.reward coins) (some (.rewarded s.acting coins))
  | acquired {name tag : String} {c : Character} : s.roster.get? s.acting = some c →
    Yields s (.item name tag) (some (.acquired s.acting (Item.tagged name tag)))
  | nothing {price : Wallet} {tag : Option String} : Yields s (.purchase price tag []) none
  | declined {price : Wallet} {tag : Option String} {items : List String} {c : Character} :
    items ≠ [] → s.roster.get? s.acting = some c → c.wallet.spend? price = none →
      Yields s (.purchase price tag items) (some (.declined s.acting items))
  | purchased {price left : Wallet} {tag : Option String} {items : List String} {c : Character} :
    items ≠ [] → s.roster.get? s.acting = some c → c.wallet.spend? price = some left →
      Yields s (.purchase price tag items) (some (.purchased s.acting items price))
  | missing {target : String} {amount : Int32} : s.roster.findByFirstName? target = none →
    Yields s (.damage target amount) (some (.targetMissing target))
  | damaged {target : String} {amount : Int32} {index : Nat} {c : Character} :
    s.roster.findByFirstName? target = some index → s.roster.get? index = some c →
      Yields s (.damage target amount)
        (some (.damaged index target amount (c.takeDamage amount.toInt).currentHp.toInt))
  | scene (description : String) :
    Yields s (.ambiance description) (some (.sceneRequested description))
  | map (combatants : List Combatant) :
    Yields s (.minimap combatants) (some (.mapUpdated combatants.length))
  | distance (meters : UInt32) : Yields s (.distance meters) (some (.distanceUpdated meters))
  | ended : Yields s .combatEnd (some .combatEnded)
  | quest (name : String) : Yields s (.quest name) (some (.questCompleted name))
  | full {i : Invitation} : s.roster.isFull = true → Yields s (.invite i) (some .partyFull)
  | dropped {i : Invitation} : s.roster.isFull = false → s.invitationOpen = true →
    Yields s (.invite i) (some (.invitationDropped i.name))
  | offered {i : Invitation} : s.roster.isFull = false → s.invitationOpen = false →
    Yields s (.invite i) (some (.invitationOffered i))

/-! ## One directive -/

private theorem changeActing_eq (s : Situation) {f g : Character → Character}
    (h : ∀ c, s.roster.get? s.acting = some c → f c = g c) (effect : Effect) :
    (s.changeActing f effect).1 = { s with roster := s.roster.adjust g s.acting } := by
  rw [← Roster.adjust_congr h]
  unfold changeActing Roster.modify
  cases hc : s.roster.get? s.acting with
  | none =>
    rw [Roster.adjust_eq_self fun c hc' => nomatch hc.symm.trans hc']
  | some c =>
    dsimp only
    rw [Roster.set_eq_adjust hc rfl]

private theorem purchase_eq (s : Situation) (price : Wallet) (tag : Option String)
    (items : List String) : (s.purchase price tag items).1 =
      { s with roster := s.roster.adjust (·.after (.purchase price tag items)) s.acting } := by
  have hkept (h : ∀ c, s.roster.get? s.acting = some c →
      c.after (.purchase price tag items) = c) :
      s = { s with roster := s.roster.adjust (·.after (.purchase price tag items)) s.acting } := by
    rw [Roster.adjust_eq_self h]
  unfold purchase
  split
  · next hnone => exact hkept fun c _ => if_pos hnone
  · next hsome =>
    split
    · next hc => exact hkept fun c hc' => nomatch hc.symm.trans hc'
    · next c hc =>
      split
      · next hspend =>
        apply hkept
        intro d hd
        cases hc.symm.trans hd
        simp only [Character.after, hspend, ite_self]
      · next left hspend =>
        apply changeActing_eq
        intro d hd
        cases hc.symm.trans hd
        simp only [Character.after, hspend, if_neg hsome]

private theorem damage_eq (s : Situation) (target : String) (amount : Int32) :
    (s.damage target amount).1 =
      { s with
        roster := (s.roster.findByFirstName? target).elim s.roster
          (s.roster.adjust (·.after (.damage target amount))) } := by
  unfold damage
  split
  · next hnone => rw [hnone, Option.elim_none]
  · next index hindex =>
    rw [hindex, Option.elim_some]
    dsimp only
    split
    · next hr =>
      obtain ⟨c, d, hc, hd, rfl⟩ := Roster.update_eq_ok hr
      cases hd
      rw [← Roster.set_eq_adjust hc rfl]
      rfl
    · next hr =>
      rw [Roster.adjust_eq_self]
      intro c hc
      simp only [Roster.update, hc] at hr
      cases hr

/-- Everything that a directive changes. -/
theorem apply_eq (s : Situation) (d : Directive) :
    (s.apply d).1 =
      { roster := (s.subject? d).elim s.roster (s.roster.adjust (·.after d))
        combat := s.combat.after d
        acting := s.acting
        invitationOpen := s.invitationOpen || s.welcomes d } := by
  have hquiet (roster : Roster) (combat : Combat) :
      { s with roster, combat } = (⟨roster, combat, s.acting, s.invitationOpen || false⟩ :
        Situation) := by
    rw [Bool.or_false]
  cases d with
  | reward coins => exact (changeActing_eq s (fun c _ => rfl) _).trans (hquiet _ _)
  | item name tag => exact (changeActing_eq s (fun c _ => rfl) _).trans (hquiet _ _)
  | purchase price tag items => exact (purchase_eq s price tag items).trans (hquiet _ _)
  | damage target amount => exact (damage_eq s target amount).trans (hquiet _ _)
  | invite invitation =>
    simp only [apply, invite, welcomes]
    cases hfull : s.roster.isFull with
    | true => exact hquiet _ _
    | false =>
      cases hopen : s.invitationOpen with
      | true =>
        show s = { s with invitationOpen := true }
        rw [← hopen]
      | false => rfl
  | _ => exact hquiet _ _

private theorem changeActing_effect (s : Situation) (f : Character → Character) (effect : Effect) :
    (s.changeActing f effect).2 = (s.roster.get? s.acting).map fun _ => effect := by
  unfold changeActing Roster.modify
  cases s.roster.get? s.acting <;> rfl

private theorem yields_purchase (s : Situation) (price : Wallet) (tag : Option String)
    (items : List String) :
    s.Yields (.purchase price tag items) (s.purchase price tag items).2 := by
  unfold purchase
  split
  · next hnone =>
    rw [List.isEmpty_iff.mp hnone]
    exact .nothing
  · next hsome =>
    have hne : items ≠ [] := fun h => hsome (List.isEmpty_iff.mpr h)
    split
    · next hc => exact .nobody hc rfl
    · next c hc =>
      split
      · next hspend => exact .declined hne hc hspend
      · next left hspend =>
        rw [changeActing_effect, hc]
        exact .purchased hne hc hspend

private theorem yields_damage (s : Situation) (target : String) (amount : Int32) :
    s.Yields (.damage target amount) (s.damage target amount).2 := by
  unfold damage
  split
  · next hnone => exact .missing hnone
  · next index hindex =>
    obtain ⟨hlt, -⟩ := List.findIdx?_eq_some_iff_getElem.mp hindex
    have hc : s.roster.get? index = some s.roster.members[index] := List.getElem?_eq_getElem hlt
    simp only [Roster.update, hc]
    exact .damaged hindex hc

/-- Every directive comes to one of these. -/
theorem yields_apply (s : Situation) (d : Directive) : s.Yields d (s.apply d).2 := by
  cases d with
  | reward coins =>
    simp only [apply, changeActing_effect]
    cases hc : s.roster.get? s.acting with
    | none => exact .nobody hc rfl
    | some c => exact .rewarded hc
  | item name tag =>
    simp only [apply, changeActing_effect]
    cases hc : s.roster.get? s.acting with
    | none => exact .nobody hc rfl
    | some c => exact .acquired hc
  | purchase price tag items => exact s.yields_purchase price tag items
  | damage target amount => exact s.yields_damage target amount
  | invite invitation =>
    simp only [apply, invite]
    cases hfull : s.roster.isFull with
    | true => exact .full hfull
    | false =>
      cases hopen : s.invitationOpen with
      | true => exact .dropped hfull hopen
      | false => exact .offered hfull hopen
  | ambiance description => exact .scene description
  | minimap combatants => exact .map combatants
  | distance meters => exact .distance meters
  | combatEnd => exact .ended
  | quest name => exact .quest name

variable {s : Situation}

/-- A directive changes members in their places, and nothing else of the party. -/
private theorem exists_members (s : Situation) (d : Directive) :
    ∃ members : List Character, members.map Character.name = s.roster.names ∧
      (s.apply d).1.roster = { s.roster with members } := by
  rw [apply_eq]
  cases s.subject? d with
  | none => exact ⟨_, rfl, rfl⟩
  | some index => exact ⟨_, Roster.names_adjust (fun c => c.name_after d) index, rfl⟩

/-- The members keep their names. -/
theorem names_apply (s : Situation) (d : Directive) :
    (s.apply d).1.roster.names = s.roster.names := by
  obtain ⟨members, hnames, hr⟩ := s.exists_members d
  rw [hr]
  exact hnames

/-- A directive makes no room in the party and takes none. -/
theorem isFull_apply (d : Directive) : (s.apply d).1.roster.isFull = s.roster.isFull := by
  obtain ⟨members, hnames, hr⟩ := s.exists_members d
  rw [hr]
  exact decide_eq_decide.mpr (by rw [Roster.size, Roster.length_eq_of_names hnames])

/-- The member at a place after a directive. -/
theorem get?_apply (s : Situation) (d : Directive) (i : Nat) :
    (s.apply d).1.roster.get? i =
      (s.roster.get? i).map fun c => if s.subject? d = some i then c.after d else c := by
  rw [apply_eq]
  cases hd : s.subject? d with
  | none => simp
  | some index =>
    simp only [Option.elim_some, Roster.get?_adjust, Option.some.injEq]

/-- A property of all members that a directive keeps of each. -/
theorem apply_all {p : Character → Prop} {d : Directive} (hp : ∀ c, p c → p (c.after d))
    (h : s.roster.All p) : (s.apply d).1.roster.All p := by
  rw [apply_eq]
  cases s.subject? d with
  | none => exact h
  | some index => exact h.adjust hp index

theorem combat_apply (s : Situation) (d : Directive) :
    (s.apply d).1.combat = s.combat.after d := by
  rw [apply_eq]

theorem acting_apply (s : Situation) (d : Directive) : (s.apply d).1.acting = s.acting := by
  rw [apply_eq]

/-- A directive does not change whom another one is about. -/
theorem subject?_apply (s : Situation) (d e : Directive) :
    (s.apply d).1.subject? e = s.subject? e := by
  cases e with
  | damage target amount => exact Roster.findByFirstName?_eq_of_names (s.names_apply d) target
  | reward | item | purchase => exact congrArg some (s.acting_apply d)
  | _ => rfl

/-! ## Directives in a row -/

/-- Directives applied after others. -/
theorem applyAll_append (s : Situation) (ds es : List Directive) :
    s.applyAll (ds ++ es) = (((s.applyAll ds).1.applyAll es).1,
      (s.applyAll ds).2 ++ ((s.applyAll ds).1.applyAll es).2) := by
  induction ds generalizing s with
  | nil => rfl
  | cons d ds ih => simp only [List.cons_append, applyAll, ih, List.append_assoc]

/-- One directive applied after others. -/
theorem applyAll_concat (s : Situation) (ds : List Directive) (d : Directive) :
    s.applyAll (ds ++ [d]) = (((s.applyAll ds).1.apply d).1,
      (s.applyAll ds).2 ++ ((s.applyAll ds).1.apply d).2.toList) := by
  simp only [applyAll_append, applyAll, List.append_nil]

/-- Directives change members in their places, and nothing else of the party. -/
theorem members_applyAll (ds : List Directive) :
    ∃ members : List Character, members.map Character.name = s.roster.names ∧
      (s.applyAll ds).1.roster = { s.roster with members } := by
  induction ds generalizing s with
  | nil => exact ⟨_, rfl, rfl⟩
  | cons d ds ih =>
    obtain ⟨changed, hchanged, hr⟩ := s.exists_members d
    obtain ⟨members, hnames, hrest⟩ := ih (s := (s.apply d).1)
    rw [hr] at hnames hrest
    exact ⟨members, hnames.trans hchanged, hrest⟩

/-- Directives leave the acting to whom it was. -/
theorem acting_applyAll (ds : List Directive) : (s.applyAll ds).1.acting = s.acting := by
  induction ds generalizing s with
  | nil => rfl
  | cons d ds ih => exact (ih (s := (s.apply d).1)).trans (s.acting_apply d)

/-- The directives that are about the member at a place make of it what they do one after
another. -/
theorem get?_applyAll (s : Situation) (ds : List Directive) (i : Nat) :
    (s.applyAll ds).1.roster.get? i =
      (s.roster.get? i).map
        ((ds.filter fun d => s.subject? d == some i).foldl Character.after) := by
  induction ds generalizing s with
  | nil => simp [applyAll]
  | cons d ds ih =>
    refine (ih (s.apply d).1).trans ?_
    simp only [subject?_apply, get?_apply, Option.map_map, List.filter_cons]
    congr 1
    funext c
    by_cases hd : s.subject? d = some i
    · simp [hd]
    · simp [hd, beq_eq_false_iff_ne.mpr hd]

end Situation

end Tabletop
