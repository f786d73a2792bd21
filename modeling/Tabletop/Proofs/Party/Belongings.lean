import Mathlib.Data.List.Perm.Basic
import Tabletop.Proofs.Party.Changes

/-!
# Belongings

What a party carries, in inventories and slots. Moving items about between members, or members about
in the party, neither loses an item nor makes one (`items_rearranged`), and what cannot be done
changes nothing, even where the moves are carried out one write after another.
-/

namespace Tabletop

/-! ## What a member carries -/

namespace Character

variable {c d : Character} {item : Item} {index : Nat} {slot : Slot} {place : ItemPlace}

/-- All that a member carries. -/
def items (c : Character) : List Item := c.inventory ++ (c.weapon.toList ++ c.armor.toList)

/-- A member without an item that came from a place. -/
def Parts (c : Character) (place : ItemPlace) (item : Item) (d : Character) : Prop :=
  match place with
  | .inventory index =>
    c.inventory[index]? = some item ∧ d = { c with inventory := c.inventory.eraseIdx index }
  | .equipped .weapon => c.weapon = some item ∧ d = { c with weapon := none }
  | .equipped .armor => c.armor = some item ∧ d = { c with armor := none }

private theorem count_eraseIdx {items : List Item} (h : items[index]? = some item) (i : Item) :
    items.count i = (items.eraseIdx index).count i + [item].count i := by
  obtain ⟨hlt, rfl⟩ := List.getElem?_eq_some_iff.mp h
  rw [← (List.getElem_cons_eraseIdx_perm hlt).count_eq, List.count_cons, List.count_singleton]

private theorem count_gain (c : Character) (item i : Item) :
    (c.gain item).items.count i = c.items.count i + [item].count i := by
  simp only [gain, items, List.count_append]
  omega

/-- What a slot is filled with comes from the inventory, and what it held goes there. -/
theorem items_equip (h : c.equip index slot = .ok d) : d.items.Perm c.items := by
  unfold equip at h
  split at h
  · cases h
  · next item hitem =>
    cases h
    rw [List.perm_iff_count]
    intro i
    have herase := count_eraseIdx hitem i
    cases slot <;>
    · simp only [setSlot, equipped, items, List.count_append, Option.toList_some]
      omega

/-- What a slot held goes into the inventory. -/
theorem items_unequip (h : c.unequip slot = .ok d) : d.items.Perm c.items := by
  unfold unequip at h
  split at h
  · cases h
  · next item hitem =>
    cases h
    rw [List.perm_iff_count]
    intro i
    rw [count_gain]
    cases slot <;>
    · rw [equipped] at hitem
      simp only [setSlot, items, hitem, List.count_append, Option.toList_some, Option.toList_none,
        List.count_nil]
      omega

/-- An item that is taken leaves its place. -/
theorem parts_of_takeItem (h : c.takeItem place = .ok (item, d)) : c.Parts place item d := by
  unfold takeItem at h
  split at h <;> split at h
  · cases h
  · next hitem =>
    cases h
    exact ⟨hitem, rfl⟩
  · cases h
  · next slot _ _ hitem =>
    cases h
    cases slot <;> exact ⟨hitem, rfl⟩

/-- Whoever parts with an item has all else still. -/
theorem Parts.count_items (h : c.Parts place item d) (i : Item) :
    c.items.count i = d.items.count i + [item].count i := by
  cases place with
  | inventory index =>
    obtain ⟨hitem, rfl⟩ := h
    have herase := count_eraseIdx hitem i
    simp only [items, List.count_append]
    omega
  | equipped slot =>
    cases slot <;>
    · obtain ⟨hitem, rfl⟩ := h
      simp only [items, hitem, List.count_append, Option.toList_some, Option.toList_none,
        List.count_nil]
      omega

end Character

/-! ## What a party carries -/

namespace Roster

variable {r r' : Roster} {c d : Character} {item : Item} {index : Nat}

/-- All that the members carry. -/
def items (r : Roster) : List Item := r.members.flatMap Character.items

/-- With another version of a member the party carries what that one does, in place of what the old
one did. -/
private theorem count_items_set (h : r.get? index = some c) (d : Character) (i : Item) :
    ({ r with members := r.members.set index d } : Roster).items.count i + c.items.count i =
      r.items.count i + d.items.count i := by
  obtain ⟨hlt, rfl⟩ := List.getElem?_eq_some_iff.mp h
  have hold := ((List.getElem_cons_eraseIdx_perm hlt).flatMap_right Character.items).count_eq i
  have hnew := ((List.set_perm_cons_eraseIdx hlt d).flatMap_right Character.items).count_eq i
  simp only [List.flatMap_cons, List.count_append] at hold hnew
  simp only [items]
  omega

/-- A member who carries the same as before may do so in another way. -/
theorem items_set (h : r.get? index = some c) (hd : d.items.Perm c.items) :
    ({ r with members := r.members.set index d } : Roster).items.Perm r.items := by
  rw [List.perm_iff_count]
  intro i
  have hset := count_items_set h d i
  rw [hd.count_eq] at hset
  omega

/-- Members may change places. -/
theorem items_confirmProtagonist (h : r.confirmProtagonist index = .ok r') :
    r'.items.Perm r.items := by
  obtain ⟨c, hc, rfl⟩ := confirmProtagonist_eq_ok h
  obtain ⟨hlt, rfl⟩ := List.getElem?_eq_some_iff.mp hc
  exact (List.getElem_cons_eraseIdx_perm hlt).flatMap_right _

/-- A member who does something with items of its own carries the same as before. -/
private theorem items_update {f : Character → Except ItemError Character}
    (hf : ∀ c d, f c = .ok d → d.items.Perm c.items)
    (h : (do
      let (_, r) ← r.update index fun c => do return ((), ← (f c).mapError .item)
      return r) = .ok r') : r'.items.Perm r.items := by
  obtain ⟨⟨_, changed⟩, hchanged, he⟩ := exists_of_bind h
  cases he
  obtain ⟨c, d, hc, hd, rfl⟩ := update_eq_ok hchanged
  obtain ⟨e, he, hr⟩ := exists_of_bind hd
  cases hr
  exact items_set hc (hf c d (mapError_eq_ok_iff.mp he))

/-- A successful transfer: an item that one member has taken from a place is last in the inventory
of another, and nothing else about the party is different. -/
structure HandsOver (r : Roster) (giver : Nat) (place : ItemPlace) (taker : Nat) (item : Item)
    (r' : Roster) : Prop where
  ne : giver ≠ taker
  gives : ∃ c d, r.get? giver = some c ∧ c.Parts place item d ∧ r'.get? giver = some d
  takes : ∃ c, r.get? taker = some c ∧
    r'.get? taker = some { c with inventory := c.inventory ++ [item] }
  others : ∀ index, index ≠ giver → index ≠ taker → r'.get? index = r.get? index
  counts : r'.size = r.size ∧ r'.main = r.main ∧ r'.cap = r.cap

/-- An item that changes hands is handed over. -/
theorem handsOver_of_transfer {giver taker : Nat} {place : ItemPlace}
    (h : r.transfer giver place taker = .ok (item, r')) :
    r.HandsOver giver place taker item r' := by
  have hne : giver ≠ taker := by
    rintro rfl
    rw [transfer, if_pos rfl] at h
    cases h
  obtain ⟨given, hgive, htake⟩ := transfer_eq_ok h
  obtain ⟨c, d, hc, hd, rfl⟩ := update_eq_ok hgive
  obtain ⟨e, he, rfl⟩ := modify_eq_ok htake
  rw [get?] at hc he
  dsimp only at he
  rw [List.getElem?_set_ne hne] at he
  have hgiver := (List.getElem?_eq_some_iff.mp hc).1
  have htaker := (List.getElem?_eq_some_iff.mp he).1
  constructor
  case ne => exact hne
  case gives =>
    refine ⟨c, d, hc, Character.parts_of_takeItem (mapError_eq_ok_iff.mp hd), ?_⟩
    rw [get?, List.getElem?_set_ne hne.symm, List.getElem?_set_self hgiver]
  case takes =>
    refine ⟨e, he, ?_⟩
    rw [get?, List.getElem?_set_self (by simpa using htaker)]
    rfl
  case others =>
    intro index hg ht
    rw [get?, List.getElem?_set_ne ht.symm, List.getElem?_set_ne hg.symm, get?]
  case counts => exact ⟨by simp [size], rfl, rfl⟩

/-- An item that changes hands stays in the party. -/
theorem items_transfer {giver taker : Nat} {place : ItemPlace}
    (h : r.transfer giver place taker = .ok (item, r')) : r'.items.Perm r.items := by
  obtain ⟨given, hgive, htake⟩ := transfer_eq_ok h
  obtain ⟨c, d, hc, hd, rfl⟩ := update_eq_ok hgive
  obtain ⟨e, he, rfl⟩ := modify_eq_ok htake
  have hparts := Character.parts_of_takeItem (mapError_eq_ok_iff.mp hd)
  rw [List.perm_iff_count]
  intro i
  have hgiven := count_items_set hc d i
  have htaken := count_items_set he (e.gain item) i
  have hleft := hparts.count_items i
  have hgained := Character.count_gain e item i
  omega

/-! ## Any moves -/

/-- A way to move items, or members, about in a party. -/
inductive Rearrangement where
  | equip (member index : Nat) (slot : Slot)
  | unequip (member : Nat) (slot : Slot)
  | transfer (giver : Nat) (place : ItemPlace) (taker : Nat)
  | confirmProtagonist (index : Nat)

/-- The party after a rearrangement, unless it fails. -/
def rearrange (r : Roster) : Rearrangement → Except RosterError Roster
  | .equip member index slot => r.equip member index slot
  | .unequip member slot => r.unequip member slot
  | .transfer giver place taker => (r.transfer giver place taker).map Prod.snd
  | .confirmProtagonist index => r.confirmProtagonist index

/-- A rearrangement that succeeds keeps all items. -/
theorem items_rearrange {move : Rearrangement} (h : r.rearrange move = .ok r') :
    r'.items.Perm r.items := by
  cases move with
  | equip member index slot => exact items_update (fun _ _ => Character.items_equip) h
  | unequip member slot => exact items_update (fun _ _ => Character.items_unequip) h
  | transfer giver place taker =>
    obtain ⟨⟨item, taken⟩, hr, rfl⟩ := exists_of_map h
    exact items_transfer hr
  | confirmProtagonist index => exact items_confirmProtagonist h

/-! ## Moves in place -/

/-- Work on a party in place: an error leaves behind what has been written before it. -/
abbrev Work := ExceptT RosterError (StateM Roster)

namespace Work

variable {α β : Type}

/-- What comes of the work on a party, and the party it leaves. -/
def runOn (w : Work α) (r : Roster) : Except RosterError α × Roster := StateT.run (ExceptT.run w) r

/-- A member changed in place. The operation has a copy of the member, which takes the member's
place if it succeeds. -/
def update (index : Nat) (f : Character → Except RosterError (α × Character)) : Work α := do
  let r ← get
  match r.get? index with
  | none => throw (.noSuchMember index)
  | some c =>
    let (a, d) ← ExceptT.mk (pure (f c))
    set { r with members := r.members.set index d }
    return a

/-- An item moved in place, out of the giver's hands first and then into the taker's. -/
def transfer (giver : Nat) (place : ItemPlace) (taker : Nat) : Work Item :=
  if giver = taker then throw .sameMember
  else do
    let r ← get
    if r.size ≤ taker then throw (.noSuchMember taker)
    else do
      let item ← update giver fun c => (c.takeItem place).mapError .item
      update taker fun c => .ok ((), c.gain item)
      return item

/-- A member moved to the front in place. -/
def confirmProtagonist (index : Nat) : Work Unit := do
  let r ← get
  match r.get? index with
  | none => throw (.noSuchMember index)
  | some c => set { r with members := c :: r.members.eraseIdx index, main := 0 }

variable {w : Work α} {r r' : Roster}

private theorem runOn_bind (w : Work α) (k : α → Work β) (r : Roster) :
    (w >>= k).runOn r = match w.runOn r with
      | (.ok a, r') => (k a).runOn r'
      | (.error e, r') => (.error e, r') := by
  unfold runOn ExceptT.run StateT.run
  simp only [bind, ExceptT.bind, ExceptT.mk, StateT.bind, ExceptT.bindCont]
  cases w r with
  | mk result r' => cases result <;> rfl

/-- Work goes on from what its first part leaves. -/
private theorem runOn_bind_ok {a : α} (h : w.runOn r = (.ok a, r')) (k : α → Work β) :
    (w >>= k).runOn r = (k a).runOn r' := by
  rw [runOn_bind, h]

/-- Work ends where its first part fails. -/
private theorem runOn_bind_error {e : RosterError} (h : w.runOn r = (.error e, r'))
    (k : α → Work β) : (w >>= k).runOn r = (.error e, r') := by
  rw [runOn_bind, h]

/-- What an operation that fails as a whole leaves of a party. -/
def left (r : Roster) : Except RosterError (α × Roster) → Except RosterError α × Roster
  | .ok (a, r') => (.ok a, r')
  | .error e => (.error e, r)

private theorem runOn_update (r : Roster) (index : Nat)
    (f : Character → Except RosterError (α × Character)) :
    (update index f).runOn r = left r (r.update index f) := by
  show runOn (match r.get? index with
    | none => throw (.noSuchMember index)
    | some c => do
      let (a, d) ← ExceptT.mk (pure (f c))
      set { r with members := r.members.set index d }
      return a) r = _
  dsimp only [Roster.update]
  cases r.get? index with
  | none => rfl
  | some c =>
    dsimp only
    cases f c <;> rfl

/-- When the item is out of the giver's hands the taker is there to have it. -/
private theorem runOn_transfer (r : Roster) (giver : Nat) (place : ItemPlace) (taker : Nat) :
    (transfer giver place taker).runOn r = left r (r.transfer giver place taker) := by
  have hget : (get : Work Roster).runOn r = (.ok r, r) := rfl
  by_cases hne : giver = taker
  · rw [transfer, Roster.transfer, if_pos hne, if_pos hne]
    rfl
  rw [transfer, Roster.transfer, if_neg hne, if_neg hne, runOn_bind_ok hget]
  by_cases hsize : r.size ≤ taker
  · rw [if_pos hsize, if_pos hsize]
    rfl
  rw [if_neg hsize, if_neg hsize]
  have hgave := runOn_update r giver fun c => (c.takeItem place).mapError .item
  cases hgive : r.update giver fun c => (c.takeItem place).mapError .item with
  | error e =>
    rw [hgive] at hgave
    rw [runOn_bind_error hgave]
    rfl
  | ok given =>
    obtain ⟨item, given⟩ := given
    rw [hgive] at hgave
    rw [runOn_bind_ok hgave]
    obtain ⟨t, ht⟩ : ∃ t, given.get? taker = some t := by
      obtain ⟨c, d, -, -, rfl⟩ := update_eq_ok hgive
      refine ⟨_, List.getElem?_eq_getElem ?_⟩
      rw [List.length_set]
      exact Nat.lt_of_not_le hsize
    have htook := runOn_update given taker fun c => .ok ((), c.gain item)
    rw [Roster.update, ht] at htook
    have htaken : given.modify taker (·.gain item) =
        .ok { given with members := given.members.set taker (t.gain item) } := by
      rw [Roster.modify, ht]
    rw [runOn_bind_ok htook]
    show _ = left r (given.modify taker (·.gain item) >>= fun r => .ok (item, r))
    rw [htaken]
    rfl

private theorem runOn_confirmProtagonist (r : Roster) (index : Nat) :
    (confirmProtagonist index).runOn r = left r ((r.confirmProtagonist index).map ((), ·)) := by
  show runOn (match r.get? index with
    | none => throw (.noSuchMember index)
    | some c => set { r with members := c :: r.members.eraseIdx index, main := 0 }) r = _
  dsimp only [Roster.confirmProtagonist]
  cases r.get? index <;> rfl

end Work

/-- A rearrangement carried out in place. -/
def Rearrangement.work : Rearrangement → Work Unit
  | .equip member index slot => .update member fun c => do
    return ((), ← (c.equip index slot).mapError .item)
  | .unequip member slot => .update member fun c => do
    return ((), ← (c.unequip slot).mapError .item)
  | .transfer giver place taker => do
    let _ ← Work.transfer giver place taker
    return ()
  | .confirmProtagonist index => .confirmProtagonist index

/-- A rearrangement in place is carried out as a whole, or not at all. -/
theorem runOn_work (r : Roster) (move : Rearrangement) :
    move.work.runOn r = Work.left r ((r.rearrange move).map ((), ·)) := by
  cases move with
  | equip member index slot =>
    rw [Rearrangement.work, Work.runOn_update]
    dsimp only [rearrange, equip]
    cases r.update member _ <;> rfl
  | unequip member slot =>
    rw [Rearrangement.work, Work.runOn_update]
    dsimp only [rearrange, unequip]
    cases r.update member _ <;> rfl
  | transfer giver place taker =>
    have hmoved := Work.runOn_transfer r giver place taker
    rw [rearrange, Rearrangement.work]
    cases hr : r.transfer giver place taker with
    | error e =>
      rw [hr] at hmoved
      rw [Work.runOn_bind_error hmoved]
      rfl
    | ok result =>
      rw [hr] at hmoved
      rw [Work.runOn_bind_ok hmoved]
      rfl
  | confirmProtagonist index => exact Work.runOn_confirmProtagonist r index

/-- The party after rearrangements in place. -/
def rearranged (r : Roster) (moves : List Rearrangement) : Roster :=
  moves.foldl (fun r move => (move.work.runOn r).2) r

private theorem perm_rearranged (r : Roster) (moves : List Rearrangement) :
    (r.rearranged moves).items.Perm r.items := by
  induction moves generalizing r with
  | nil => exact .refl _
  | cons move moves ih =>
    have hstep : (move.work.runOn r).2.items.Perm r.items := by
      rw [runOn_work]
      cases hr : r.rearrange move with
      | error e => exact .refl _
      | ok r' => exact items_rearrange hr
    exact (ih _).trans hstep

/-- However a party is rearranged, it carries what it did before. A rearrangement in place is
carried out as a whole or, where it fails, leaves the party as it is; and an item that changes hands
goes from the giver's place to the end of the taker's inventory and is all that moves. -/
theorem items_rearranged (r : Roster) :
    (∀ moves, (r.rearranged moves).items.Perm r.items) ∧
      (∀ move r', r.rearrange move = .ok r' → move.work.runOn r = (.ok (), r')) ∧
        (∀ move e, r.rearrange move = .error e → move.work.runOn r = (.error e, r)) ∧
          ∀ giver place taker item r', r.transfer giver place taker = .ok (item, r') →
            r.HandsOver giver place taker item r' := by
  refine ⟨perm_rearranged r, fun move r' h => ?_, fun move e h => ?_, fun _ _ _ _ _ => ?_⟩
  · rw [runOn_work, h]
    rfl
  · rw [runOn_work, h]
    rfl
  · exact handsOver_of_transfer

/-- A rope changes hands, and cannot be given by someone who has it no longer. -/
theorem items_rearranged_rope :
    let bo := { Character.bare "Bo" "Elf" "Bard" 9 with inventory := [.plain "Rope"] }
    let ann := Character.bare "Ann" "Elf" "Bard" 9
    let r : Roster := ⟨[bo, ann], 0, 5⟩
    let give : Rearrangement := .transfer 0 (.inventory 0) 1
    ∃ r', r.transfer 0 (.inventory 0) 1 = .ok (.plain "Rope", r') ∧
      r.HandsOver 0 (.inventory 0) 1 (.plain "Rope") r' ∧ give.work.runOn r = (.ok (), r') ∧
        r'.rearrange give = .error (.item (.noSuchItem 0 0)) ∧
          give.work.runOn r' = (.error (.item (.noSuchItem 0 0)), r') ∧
            (r.rearranged [give, give, .confirmProtagonist 1]).items.Perm [.plain "Rope"] := by
  intro bo ann r give
  refine ⟨_, rfl, (items_rearranged r).2.2.2 _ _ _ _ _ rfl, (items_rearranged r).2.1 _ _ rfl, rfl,
    (items_rearranged _).2.2.1 _ _ rfl, (items_rearranged r).1 _⟩

end Roster

end Tabletop
