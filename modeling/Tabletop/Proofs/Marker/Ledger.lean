import Mathlib.Algebra.Ring.Int.Defs
import Mathlib.Data.List.Induction
import Tabletop.Proofs.Marker.Effects
import Tabletop.Proofs.Party.Wallets

/-!
# The ledger of directives

What directives, one after another, come to for each member. The hit points that they take add up,
although nobody has fewer than none in between, and the items that they bring are those of their
effects, in order. The main result says this of all members at once, and that nothing else about
them changes but the purse of the one who acts; and that directives which come to nothing could as
well be left out.
-/

namespace Tabletop

/-! ## Who is meant -/

/-- A member answers to a name that is the first name, without regard to case or to blanks around
it. -/
def Character.answersTo (c : Character) (name : String) : Bool :=
  Text.lower c.firstName == Text.lower (Text.trim name)

namespace Roster

variable {r : Roster} {name : String} {i : Nat}

/-- A name means the member at a place: this one answers to it, and no earlier one does. -/
def means (r : Roster) (name : String) (i : Nat) : Bool :=
  (r.get? i).any (·.answersTo name) && (r.members.take i).all fun c => !c.answersTo name

/-- The member who is found by a name is the one whom the name means. -/
theorem findByFirstName?_eq_some_iff :
    r.findByFirstName? name = some i ↔ r.means name i = true := by
  have hfind : r.findByFirstName? name = r.members.findIdx? (·.answersTo name) := rfl
  rw [hfind, List.findIdx?_eq_some_iff_getElem, means, Bool.and_eq_true]
  have hget (hlt : i < r.members.length) : r.get? i = some r.members[i] :=
    List.getElem?_eq_getElem hlt
  constructor
  · rintro ⟨hlt, hi, hbefore⟩
    rw [hget hlt, Option.any_some]
    refine ⟨hi, List.all_eq_true.mpr fun c hc => ?_⟩
    obtain ⟨j, hj, rfl⟩ := List.mem_take_iff_getElem.mp hc
    simpa using hbefore j (by omega)
  · rintro ⟨hi, hbefore⟩
    obtain ⟨c, hc, hname⟩ := (Option.any_eq_true _ _).mp hi
    obtain ⟨hlt, rfl⟩ := List.getElem?_eq_some_iff.mp hc
    refine ⟨hlt, hname, fun j hj => ?_⟩
    have hmem : r.members[j] ∈ r.members.take i :=
      List.mem_take_iff_getElem.mpr ⟨j, by omega, rfl⟩
    simpa using List.all_eq_true.mp hbefore _ hmem

/-- A name that means nobody is nobody's. -/
theorem findByFirstName?_eq_none_iff :
    r.findByFirstName? name = none ↔ ∀ i, r.means name i = false := by
  simp only [Option.eq_none_iff_forall_ne_some, ne_eq, findByFirstName?_eq_some_iff,
    Bool.not_eq_true]

end Roster

/-! ## One directive -/

namespace Directive

/-- The hit points that a directive takes from the member it is about. -/
def blow : Directive → Int
  | .damage _ amount => max 0 amount.toInt
  | _ => 0

theorem blow_nonneg (d : Directive) : 0 ≤ d.blow := by
  cases d with
  | damage target amount => exact Int.le_max_left ..
  | _ => exact Int.le_refl 0

/-- The items that a directive brings, by what became of it. A purchase brings each of its items
once, all with its tag. -/
def loot (d : Directive) (effect : Effect) : List Item :=
  match d, effect with
  | .item .., .acquired _ found => [found]
  | .purchase _ tag _, .purchased _ bought _ => bought.map fun name => ⟨name, tag⟩
  | _, _ => []

end Directive

/-- The hit points that a directive takes from the member at a place. -/
def Roster.harm (r : Roster) (i : Nat) : Directive → Int
  | .damage target amount => if r.means target i then max 0 amount.toInt else 0
  | _ => 0

namespace Character

variable {c d e : Character}

/-- Only vitals, purse and inventory differ between two characters. -/
def SameOtherwise (c d : Character) : Prop :=
  d = { c with
    currentHp := d.currentHp
    status := d.status
    wallet := d.wallet
    inventory := d.inventory }

/-- What a member is after directives: hurt as much as given, though not below none, richer by given
items, and otherwise the same but for the purse. -/
structure Settles (c d : Character) (harm : Int) (gained : List Item) : Prop where
  hp : d.currentHp.toInt = max 0 (c.currentHp.toInt - harm)
  inventory : d.inventory = c.inventory ++ gained
  otherwise : c.SameOtherwise d

theorem SameOtherwise.refl (c : Character) : c.SameOtherwise c := rfl

theorem SameOtherwise.trans (h : c.SameOtherwise d) (h' : d.SameOtherwise e) :
    c.SameOtherwise e := by
  unfold SameOtherwise at h h' ⊢
  rw [h', h]

theorem sameOtherwise_after (c : Character) (d : Directive) : c.SameOtherwise (c.after d) := by
  cases d with
  | purchase price tag items =>
    simp only [after]
    split
    · rfl
    · split <;> rfl
  | _ => rfl

/-- Directives keep vitals agreeing. -/
theorem Vital.foldl_after (h : c.Vital) (ds : List Directive) :
    (ds.foldl Character.after c).Vital := by
  induction ds generalizing c with
  | nil => exact h
  | cons d ds ih => exact ih (lasting_vital.after h d)

theorem sameOtherwise_foldl_after (c : Character) (ds : List Directive) :
    c.SameOtherwise (ds.foldl after c) := by
  induction ds generalizing c with
  | nil => exact .refl c
  | cons d ds ih => exact (c.sameOtherwise_after d).trans (ih (c.after d))

theorem toInt_currentHp_after (h : c.Vital) (d : Directive) :
    (c.after d).currentHp.toInt = max 0 (c.currentHp.toInt - d.blow) := by
  have hkept : max 0 (c.currentHp.toInt - 0) = c.currentHp.toInt := by
    have := h.hp_nonneg
    omega
  cases d with
  | damage target amount =>
    have hmax := c.maxHp.toInt_lt
    have hle := h.hp_le_max
    simp only [after, takeDamage, setHp, Directive.blow]
    rw [Int32.toInt_ofInt_of_le (by omega) (by omega)]
    omega
  | purchase price tag items =>
    simp only [after, Directive.blow, hkept]
    split
    · rfl
    · split <;> rfl
  | _ => exact hkept.symm

/-- Blows add up, whether or not the member is down in between. -/
theorem toInt_currentHp_foldl_after (h : c.Vital) (ds : List Directive) :
    (ds.foldl after c).currentHp.toInt =
      max 0 (c.currentHp.toInt - (ds.map Directive.blow).sum) := by
  induction ds using List.reverseRecOn with
  | nil =>
    have := h.hp_nonneg
    simp only [List.foldl_nil, List.map_nil, List.sum_nil]
    omega
  | append_singleton ds d ih =>
    have hblow := d.blow_nonneg
    rw [List.foldl_concat, toInt_currentHp_after (h.foldl_after ds), ih, List.map_append,
      List.sum_append, List.map_singleton, List.sum_singleton]
    omega

/-- Damage takes neither coins nor items. -/
theorem belongings_foldl_after (c : Character) {ds : List Directive}
    (h : ∀ d ∈ ds, ∃ target amount, d = .damage target amount) :
    (ds.foldl after c).wallet = c.wallet ∧ (ds.foldl after c).inventory = c.inventory := by
  induction ds generalizing c with
  | nil => exact ⟨rfl, rfl⟩
  | cons d ds ih =>
    obtain ⟨⟨target, amount, rfl⟩, hds⟩ := List.forall_mem_cons.mp h
    exact ih (c.after (.damage target amount)) hds

end Character

/-! ## The ledger -/

namespace Situation

variable {s : Situation} {c : Character} {i : Nat}

/-- The directives that have an effect, each with what becomes of it. -/
def ledger (s : Situation) : List Directive → List (Directive × Effect)
  | [] => []
  | d :: ds => (s.apply d).2.toList.map (d, ·) ++ (s.apply d).1.ledger ds

/-- The items that directives bring. -/
def spoils (s : Situation) (ds : List Directive) : List Item :=
  (s.ledger ds).flatMap fun entry => entry.1.loot entry.2

/-- The effects in the ledger are the effects of the directives. -/
theorem map_snd_ledger (s : Situation) (ds : List Directive) :
    (s.ledger ds).map Prod.snd = (s.applyAll ds).2 := by
  induction ds generalizing s with
  | nil => rfl
  | cons d ds ih =>
    simp only [ledger, applyAll, List.map_append, List.map_map, Function.comp_def, List.map_id', ih]

/-- The hit points taken from a member are taken by the directives that are about the member. -/
theorem sum_blow_filter (s : Situation) (ds : List Directive) (i : Nat) :
    ((ds.filter fun d => s.subject? d == some i).map Directive.blow).sum =
      (ds.map (s.roster.harm i)).sum := by
  have hharm : ∀ d, s.roster.harm i d = if s.subject? d == some i then d.blow else 0 := by
    intro d
    cases d with
    | damage target amount =>
      simp only [Roster.harm, subject?, Directive.blow, beq_iff_eq,
        Roster.findByFirstName?_eq_some_iff]
    | _ => exact (ite_self _).symm
  induction ds with
  | nil => rfl
  | cons d ds ih =>
    rw [List.map_cons, List.sum_cons, hharm, ← ih, List.filter_cons]
    split
    · rw [List.map_cons, List.sum_cons]
    · rw [Int.zero_add]

/-- Only damage is about a member who does not act. -/
theorem damage_of_mem_filter (s : Situation) (ds : List Directive) (hi : i ≠ s.acting) :
    ∀ d ∈ ds.filter fun d => s.subject? d == some i,
      ∃ target amount, d = .damage target amount := by
  intro d hd
  have hsubject : s.subject? d = some i := by simpa using (List.mem_filter.mp hd).2
  cases d with
  | damage target amount => exact ⟨target, amount, rfl⟩
  | reward | item | purchase => exact absurd (Option.some.inj hsubject).symm hi
  | _ => cases hsubject

/-- What a directive about the acting member brings goes last into the inventory. -/
theorem inventory_apply (hc : s.roster.get? s.acting = some c) (d : Directive) :
    ∃ c', (s.apply d).1.roster.get? s.acting = some c' ∧
      c'.inventory = c.inventory ++ (s.apply d).2.toList.flatMap d.loot := by
  refine ⟨if s.subject? d = some s.acting then c.after d else c, by rw [get?_apply, hc]; rfl, ?_⟩
  have hyields := s.yields_apply d
  generalize (s.apply d).2 = effect at hyields
  have hnothing (hloot : effect.toList.flatMap d.loot = [])
      (hkept : (c.after d).inventory = c.inventory) :
      (if s.subject? d = some s.acting then c.after d else c).inventory =
        c.inventory ++ effect.toList.flatMap d.loot := by
    rw [hloot, List.append_nil]
    split
    · exact hkept
    · rfl
  cases hyields with
  | nobody hnone => cases hc.symm.trans hnone
  | acquired => simp [subject?, Directive.loot, Character.after, Character.gain]
  | declined hne hc' hspend =>
    cases hc.symm.trans hc'
    exact hnothing rfl (by simp [Character.after, hspend])
  | purchased hne hc' hspend =>
    cases hc.symm.trans hc'
    simp [subject?, Directive.loot, Character.after, hne, hspend, buy]
  | _ => exact hnothing rfl rfl

/-- What directives bring goes last into the inventory of the member who acts. -/
theorem inventory_applyAll (hc : s.roster.get? s.acting = some c) (ds : List Directive) :
    ∃ c', (s.applyAll ds).1.roster.get? s.acting = some c' ∧
      c'.inventory = c.inventory ++ s.spoils ds := by
  induction ds generalizing s c with
  | nil => exact ⟨c, hc, (List.append_nil _).symm⟩
  | cons d ds ih =>
    obtain ⟨c', hc', hinventory⟩ := inventory_apply hc d
    have hacting := s.acting_apply d
    rw [← hacting] at hc'
    obtain ⟨c'', hc'', hrest⟩ := ih hc'
    rw [hacting] at hc''
    refine ⟨c'', hc'', ?_⟩
    rw [hrest, hinventory, List.append_assoc, spoils, spoils, ledger, List.flatMap_append,
      List.flatMap_map]

/-! ## Directives that come to nothing -/

/-- A directive that comes to nothing, and what the players are told: nobody is meant by damage,
nothing is bought, or the one who acts cannot pay. -/
inductive Fruitless (s : Situation) : Directive → Option Event → Prop
  | stranger {target : String} {amount : Int32} : (∀ i, s.roster.means target i = false) →
    Fruitless s (.damage target amount)
      (some (.system ("No one named " ++ target ++ " is in the party.")))
  | nothing {price : Wallet} {tag : Option String} : Fruitless s (.purchase price tag []) none
  | beyond {price : Wallet} {tag : Option String} {items : List String} {c : Character} :
    items ≠ [] → s.roster.get? s.acting = some c → c.wallet.worth < price.worth →
      Fruitless s (.purchase price tag items)
        (some (.system ("You cannot afford " ++ ", ".intercalate items ++ ".")))

/-- A directive that comes to nothing leaves everything as it is. -/
theorem Fruitless.apply_eq {d : Directive} {line : Option Event} (h : s.Fruitless d line) :
    (s.apply d).1 = s ∧ (s.apply d).2.bind Effect.logEntry? = line := by
  cases h with
  | @stranger target amount hnobody =>
    rw [← Roster.findByFirstName?_eq_none_iff] at hnobody
    have happly : s.apply (.damage target amount) = (s, some (.targetMissing target)) := by
      simp only [apply, damage, hnobody]
    rw [happly]
    exact ⟨rfl, rfl⟩
  | nothing => exact ⟨rfl, rfl⟩
  | @beyond price tag items c hsome hc hlt =>
    have hspend : c.wallet.spend? price = none := by
      rw [← Option.not_isSome_iff_eq_none, Wallet.isSome_spend?_iff]
      exact Nat.not_le.mpr hlt
    have happly : s.apply (.purchase price tag items) = (s, some (.declined s.acting items)) := by
      simp only [apply, purchase, List.isEmpty_iff, hsome, if_false, hc, hspend]
    rw [happly]
    exact ⟨rfl, rfl⟩

/-- A directive that comes to nothing could as well be left out, but for what the players are
told. -/
theorem Fruitless.applyAll_eq {before : List Directive} {d : Directive} {line : Option Event}
    (h : (s.applyAll before).1.Fruitless d line) (rest : List Directive) :
    (s.applyAll (before ++ d :: rest)).1 = (s.applyAll (before ++ rest)).1 ∧
      (s.applyAll (before ++ d :: rest)).2.filterMap Effect.logEntry? =
        (s.applyAll before).2.filterMap Effect.logEntry? ++ line.toList ++
          ((s.applyAll before).1.applyAll rest).2.filterMap Effect.logEntry? := by
  obtain ⟨hsame, hline⟩ := h.apply_eq
  have htold : (((s.applyAll before).1.apply d).2.toList).filterMap Effect.logEntry? =
      line.toList := by
    rw [← hline]
    cases ((s.applyAll before).1.apply d).2 with
    | none => rfl
    | some effect => cases he : effect.logEntry? <;> simp [he]
  simp only [applyAll_append, applyAll, hsame, List.filterMap_append, htold, List.append_assoc,
    and_self]

/-- Directives settle with every member of a party: the hit points that they take from the member
add up, whatever the order and however often the member is down in between, the items that they
bring go last into the inventory of the one who acts, and nothing else about members changes but
that one's purse. Damage to nobody in the party, purchases of nothing and those beyond the purse
could as well be left out, but for the line that tells of the first and the last of these. -/
theorem ledger_balances (h : s.roster.All Character.Vital) (ds : List Directive) :
    let after := (s.applyAll ds).1.roster
    after.size = s.roster.size ∧ after.main = s.roster.main ∧
      (s.ledger ds).map Prod.snd = (s.applyAll ds).2 ∧
      (∀ i c, s.roster.get? i = some c → ∃ d, after.get? i = some d ∧
        c.Settles d (ds.map (s.roster.harm i)).sum (if i = s.acting then s.spoils ds else []) ∧
          (i = s.acting ∨ d.wallet = c.wallet)) ∧
      ∀ before d rest line, ds = before ++ d :: rest → (s.applyAll before).1.Fruitless d line →
        (s.applyAll ds).1 = (s.applyAll (before ++ rest)).1 ∧
          (s.applyAll ds).2.filterMap Effect.logEntry? =
            (s.applyAll before).2.filterMap Effect.logEntry? ++ line.toList ++
              ((s.applyAll before).1.applyAll rest).2.filterMap Effect.logEntry? := by
  intro after
  obtain ⟨members, hnames, hroster⟩ := s.members_applyAll ds
  have hafter : after = { s.roster with members } := hroster
  refine ⟨?_, by rw [hafter], s.map_snd_ledger ds, fun i c hc => ?_, ?_⟩
  · rw [hafter, Roster.size, Roster.length_eq_of_names hnames]
  · have hget := s.get?_applyAll ds i
    rw [hc, Option.map_some] at hget
    have hhp := Character.toInt_currentHp_foldl_after (h.get? hc)
      (ds.filter fun d => s.subject? d == some i)
    rw [sum_blow_filter] at hhp
    by_cases hi : i = s.acting
    · obtain ⟨c', hc', hinventory⟩ := inventory_applyAll (hi ▸ hc) ds
      cases hget.symm.trans (hi ▸ hc')
      rw [if_pos hi]
      exact ⟨_, hget, ⟨hhp, hinventory, c.sameOtherwise_foldl_after _⟩, .inl hi⟩
    · obtain ⟨hwallet, hinventory⟩ := c.belongings_foldl_after (s.damage_of_mem_filter ds hi)
      rw [if_neg hi]
      exact ⟨_, hget, ⟨hhp, hinventory.trans (List.append_nil _).symm,
        c.sameOtherwise_foldl_after _⟩, .inr hwallet⟩
  · rintro before d rest line rfl hline
    exact hline.applyAll_eq rest

/-- Two members of twenty hit points each. The one who acts is hurt, finds a lantern and buys two
rations, but not the horse; the other is down after the second of three blows. -/
theorem ledger_balances_pair :
    let elara := { Character.bare "Elara Moon" "Elf" "Fighter" 20 with wallet := ⟨1, 0, 0⟩ }
    let toren := Character.bare "Toren" "Dwarf" "Cleric" 20
    let s : Situation := ⟨⟨[elara, toren], 0, 5⟩, .none, 0, false⟩
    let horse : Directive := .purchase ⟨75, 0, 0⟩ none ["Horse"]
    let before : List Directive := [.damage "TOREN" 15, .item "Lantern" "gear",
      .damage " elara " 3, .damage "Toren" 9, .damage "Elara" (-2),
      .purchase ⟨0, 6, 0⟩ (some "food") ["Ration", "Ration"]]
    let rest : List Directive := [.damage "toren" 1, .damage "Moon" 5]
    let found : List Item := [⟨"Lantern", some "gear"⟩, ⟨"Ration", some "food"⟩,
      ⟨"Ration", some "food"⟩]
    (∃ c, (s.applyAll (before ++ horse :: rest)).1.roster.get? 0 = some c ∧
        elara.Settles c 3 found) ∧
      (∃ c, (s.applyAll (before ++ horse :: rest)).1.roster.get? 1 = some c ∧
        toren.Settles c 25 [] ∧ c.wallet = toren.wallet) ∧
      (s.applyAll (before ++ horse :: rest)).1 = (s.applyAll (before ++ rest)).1 := by
  intro elara toren s horse before rest found
  have hvital : s.roster.All Character.Vital := by
    intro c hc
    rcases List.mem_pair.mp hc with rfl | rfl
    · exact ⟨by decide, by decide, by decide, by decide⟩
    · exact .bare _ _ _ (by decide)
  have hspoils : s.spoils (before ++ horse :: rest) = found := by decide +kernel
  have hharm : ((before ++ horse :: rest).map (s.roster.harm 0)).sum = 3 ∧
      ((before ++ horse :: rest).map (s.roster.harm 1)).sum = 25 := by decide +kernel
  have hreached : (s.applyAll before).1.roster.get? (s.applyAll before).1.acting =
      some { elara with currentHp := 17, wallet := ⟨0, 4, 0⟩, inventory := found } := by
    decide +kernel
  have hhorse : (s.applyAll before).1.Fruitless horse _ :=
    .beyond (List.cons_ne_nil "Horse" []) hreached (by decide)
  obtain ⟨-, -, -, hmembers, hleft⟩ := ledger_balances hvital (before ++ horse :: rest)
  obtain ⟨c, hc, hsettles, -⟩ := hmembers 0 elara rfl
  obtain ⟨d, hd, hsettles', hwallet⟩ := hmembers 1 toren rfl
  rw [hharm.1, if_pos rfl, hspoils] at hsettles
  rw [hharm.2, if_neg (by decide)] at hsettles'
  exact ⟨⟨c, hc, hsettles⟩, ⟨d, hd, hsettles', hwallet.resolve_left (by decide)⟩,
    (hleft before horse rest _ rfl hhorse).1⟩

end Situation

end Tabletop
