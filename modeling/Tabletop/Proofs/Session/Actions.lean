import Tabletop.Proofs.Party.Vitals
import Tabletop.Proofs.Session.Course
import Tabletop.Proofs.Session.Failure

/-!
# Actions

Everything that can be done to a session is a move. Some actions change the party or the settings or
take up a saved game, and open no turn; the others are deeds. `Action.comes` says once what an
action can come to, and everything else about actions follows from it.
-/

namespace Tabletop

/-- Something done to a session. -/
inductive Action where
  | add (c : Character)
  | create (recipe : Recipe)
  | remove (index : Nat)
  | confirm (index : Nat)
  | setActive (index : Nat)
  | setNotes (index : Nat) (notes : String)
  | setWallet (index : Nat) (wallet : Wallet)
  | equip (index item : Nat) (slot : Slot)
  | unequip (index : Nat) (slot : Slot)
  | transfer (giver : Nat) (place : ItemPlace) (taker : Nat)
  | setSpeech (enabled : Bool)
  | restore (game : SavedGame)
  | load (text : Except SaveError String)
  | play (deed : Deed)
  /-- The player acts, unless somebody else holds the session. -/
  | trySubmit (held : Bool) (input : String)

/-- A change that opens no turn; one that fails is refused. -/
def Session.change (s : Session) : Except SessionError Session → Move
  | .ok changed => ⟨changed, [], .idle⟩
  | .error e => s.refuse e

namespace Action

/-- The move of an action. -/
def move : Action → Session → Move
  | .add c, s => s.change ((s.addMember c).map Prod.snd)
  | .create recipe, s => s.change ((s.createMember recipe).map Prod.snd)
  | .remove index, s => s.change ((s.removeMember index).map Prod.snd)
  | .confirm index, s => s.change (s.confirmProtagonist index)
  | .setActive index, s => s.change (s.setActive index)
  | .setNotes index notes, s => s.change (s.setNotes index notes)
  | .setWallet index wallet, s => s.change (s.setWallet index wallet)
  | .equip index item slot, s => s.change (s.equip index item slot)
  | .unequip index slot, s => s.change (s.unequip index slot)
  | .transfer giver place taker, s => s.change (s.transferItem giver place taker)
  | .setSpeech enabled, s => ⟨(s.setSpeech enabled).1, (s.setSpeech enabled).2, .idle⟩
  | .restore game, s => s.change (s.restore game)
  | .load text, s => s.change (s.load text)
  | .play deed, s => deed.move s
  | .trySubmit held input, s => s.trySubmit held input

/-- The deed that an action is. -/
def deed? : Action → Option Deed
  | .play deed => some deed
  | .trySubmit false input => some (.submit input)
  | _ => none

/-- Who would join the party by an action. -/
def joiner? : Action → Option Character
  | .add c => some c
  | .create recipe => recipe.make.toOption
  | _ => none

/-- The saved game that an action would take up. -/
def saved? : Action → Option SavedGame
  | .restore game => some game
  | .load text => (text.bind SavedGame.read).toOption
  | _ => none

/-- The action takes up a saved game. -/
def restores (s : Session) (a : Action) : Bool := a.saved?.any fun game => (s.restore game).isOk

end Action

namespace Session

/-- The session after actions, each with the answer that the session hears if it asks for one. -/
def follow (s : Session) (actions : List (Action × Answer)) : Session :=
  actions.foldl (fun s (a, answer) => ((a.move s).settle answer).1) s

/-- What an action that is no deed makes of a session when it is not refused. -/
inductive Amended (s : Session) (a : Action) : Session → Prop
  | joined {c : Character} {roster : Roster} :
    a.joiner? = some c → s.roster.push c = .ok roster → Amended s a { s with roster }
  | changed {index : Nat} {c d : Character} : s.roster.get? index = some c → c.SameVitals d →
    Amended s a { s with roster := { s.roster with members := s.roster.members.set index d } }
  | left {index : Nat} {c : Character} {roster : Roster} :
    s.roster.remove index = .ok (c, roster) →
      Amended s a { s with roster, active := activeAfter s.active index roster }
  | confirmed {index : Nat} {roster : Roster} :
    s.roster.confirmProtagonist index = .ok roster → Amended s a { s with roster, active := 0 }
  | given {giver taker : Nat} {place : ItemPlace} {item : Item} {roster : Roster} :
    s.roster.transfer giver place taker = .ok (item, roster) →
      Amended s a (({ s with roster } : Session).note (transferred roster item giver taker))
  | acting {index : Nat} : index < s.roster.size → Amended s a { s with active := index }
  | speech (enabled : Bool) :
    Amended s a { s with settings := { s.settings with speech := enabled } }
  | restored {game : SavedGame} {s' : Session} :
    a.saved? = some game → s.restore game = .ok s' → Amended s a s'

variable {s s' : Session} {a : Action}

private theorem withRoster_eq_ok {α : Type} {change : Except RosterError (α × Roster)} {b : α}
    (h : s.withRoster change = .ok (b, s')) :
    ∃ roster, change = .ok (b, roster) ∧ s' = { s with roster } := by
  unfold withRoster at h
  split at h
  · cases h
    exact ⟨_, rfl, rfl⟩
  · cases h

private theorem withRoster'_eq_ok {change : Except RosterError Roster}
    (h : s.withRoster' change = .ok s') :
    ∃ roster, change = .ok roster ∧ s' = { s with roster } := by
  unfold withRoster' at h
  split at h
  · cases h
    exact ⟨_, rfl, rfl⟩
  · cases h

private theorem amended_addMember {c : Character} (hc : a.joiner? = some c)
    (h : (s.addMember c).map Prod.snd = .ok s') : s.Amended a s' := by
  obtain ⟨⟨place, joined⟩, hadd, rfl⟩ := exists_of_map h
  obtain ⟨roster, hplaced, rfl⟩ := withRoster_eq_ok hadd
  obtain ⟨pushed, hpush, heq⟩ := exists_of_map hplaced
  cases heq
  exact .joined hc hpush

private theorem amended_modify {index : Nat} {f : Character → Character}
    (h : s.withRoster' (s.roster.modify index f) = .ok s')
    (hf : ∀ c : Character, c.SameVitals (f c)) : s.Amended a s' := by
  obtain ⟨roster, hmodify, rfl⟩ := withRoster'_eq_ok h
  obtain ⟨c, hc, rfl⟩ := Roster.modify_eq_ok hmodify
  exact .changed hc (hf c)

private theorem amended_changeItems {index : Nat} {change : Character → Except ItemError Character}
    (hchange : ∀ c d : Character, change c = .ok d → c.SameVitals d)
    (h : s.withRoster' (do
      let (_, r) ← s.roster.update index fun c => do
        return ((), ← (change c).mapError RosterError.item)
      return r) = .ok s') :
    s.Amended a s' := by
  obtain ⟨roster, hroster, rfl⟩ := withRoster'_eq_ok h
  obtain ⟨⟨_, changed⟩, hupdate, heq⟩ := exists_of_bind hroster
  cases heq
  obtain ⟨c, d, hc, hd, rfl⟩ := Roster.update_eq_ok hupdate
  obtain ⟨d', hd', heq⟩ := exists_of_bind hd
  cases heq
  exact .changed hc (hchange c d (mapError_eq_ok_iff.mp hd'))

/-- Whoever is removed leaves the party, and somebody acts who is left. -/
theorem removeMember_eq_ok {index : Nat} {c : Character} (h : s.removeMember index = .ok (c, s')) :
    ∃ roster, s.roster.remove index = .ok (c, roster) ∧
      s' = { s with roster, active := activeAfter s.active index roster } := by
  obtain ⟨⟨_, removed⟩, hw, heq⟩ := exists_of_map h
  obtain ⟨roster, hroster, rfl⟩ := withRoster_eq_ok hw
  cases heq
  exact ⟨roster, hroster, rfl⟩

/-- A saved game that is taken up brings its members; its protagonist has a place among them, and
acts. -/
theorem restore_eq_ok {game : SavedGame} (h : s.restore game = .ok s') :
    s'.roster.members = game.characters ∧ s'.active = s'.roster.main ∧
      (game.characters ≠ [] → s'.roster.main < s'.roster.size) := by
  unfold restore at h
  split at h
  · cases h
  · next roster hroster =>
    cases h
    rw [SavedGame.roster, mapError_eq_ok_iff] at hroster
    obtain ⟨-, hmain, rfl⟩ := Roster.ofMembers_eq_ok_iff.mp hroster
    exact ⟨rfl, rfl, hmain⟩

private theorem amended_load {text : Except SaveError String}
    (h : s.load text = .ok s') : s.Amended (.load text) s' := by
  unfold load at h
  split at h
  · next game hread => exact .restored (by simp [Action.saved?, hread, Except.toOption]) h
  · cases h

end Session

/-! ## What actions come to -/

/-- What an action comes to before the narrator answers. -/
inductive Action.Comes (s : Session) (a : Action) : Move → Prop
  | refused (e : SessionError) : Comes s a (s.refuse e)
  | amended {s' : Session} (signals : List Signal) :
    s.Amended a s' → Comes s a ⟨s', signals, .idle⟩
  | deed {d : Deed} {m : Move} : a.deed? = some d → d.Comes s m → Comes s a m

namespace Action

private theorem comes_change {s : Session} {a : Action} {result : Except SessionError Session}
    (h : ∀ s', result = .ok s' → s.Amended a s') : a.Comes s (s.change result) := by
  cases result with
  | error e => exact .refused e
  | ok s' => exact .amended [] (h s' rfl)

/-- Every action comes to one of these. -/
theorem comes (a : Action) (s : Session) : a.Comes s (a.move s) := by
  cases a with
  | add c => exact comes_change fun _ h => Session.amended_addMember rfl h
  | create recipe =>
    refine comes_change fun s' h => ?_
    unfold Session.createMember at h
    split at h
    · next c hc => exact Session.amended_addMember (by rw [joiner?, hc]; rfl) h
    · cases h
  | remove index =>
    refine comes_change fun s' h => ?_
    obtain ⟨⟨c, left⟩, hremove, rfl⟩ := exists_of_map h
    obtain ⟨roster, hroster, rfl⟩ := Session.removeMember_eq_ok hremove
    exact .left hroster
  | confirm index =>
    refine comes_change fun s' h => ?_
    obtain ⟨confirmed, hw, rfl⟩ := exists_of_map h
    obtain ⟨roster, hroster, rfl⟩ := Session.withRoster'_eq_ok hw
    exact .confirmed hroster
  | setActive index =>
    refine comes_change fun s' h => ?_
    unfold Session.setActive at h
    split at h
    · cases h
    · next hlt =>
      cases h
      exact .acting (Nat.lt_of_not_le hlt)
  | setNotes index notes =>
    exact comes_change fun _ h => Session.amended_modify h fun _ => ⟨rfl, rfl, rfl⟩
  | setWallet index wallet =>
    exact comes_change fun _ h => Session.amended_modify h fun _ => ⟨rfl, rfl, rfl⟩
  | equip index item slot =>
    exact comes_change fun _ h => Session.amended_changeItems (fun _ _ hd => .equip hd) h
  | unequip index slot =>
    exact comes_change fun _ h => Session.amended_changeItems (fun _ _ hd => .unequip hd) h
  | transfer giver place taker =>
    refine comes_change fun s' h => ?_
    obtain ⟨⟨item, given⟩, hw, rfl⟩ := exists_of_map h
    obtain ⟨roster, hroster, rfl⟩ := Session.withRoster_eq_ok hw
    exact .given hroster
  | setSpeech enabled => exact .amended _ (.speech enabled)
  | restore game => exact comes_change fun _ h => .restored rfl h
  | load text => exact comes_change fun _ h => Session.amended_load h
  | play d => exact .deed rfl (d.comes s)
  | trySubmit held input =>
    cases held with
    | true => exact .refused .turnInProgress
    | false => exact .deed rfl (Deed.comes (.submit input) s)

end Action

/-! ## Steps -/

/-- The action of a step, with the answer that the session hears; nobody joins by a sheet that
cannot be read. -/
def Step.action? : Step → Option (Action × Answer)
  | .add newcomer => newcomer.character?.map fun c => (.add c, .late)
  | .create recipe => some (.create recipe, .late)
  | .remove index => some (.remove index, .late)
  | .confirm index => some (.confirm index, .late)
  | .setActive index => some (.setActive index, .late)
  | .setNotes index notes => some (.setNotes index notes, .late)
  | .setWallet index wallet => some (.setWallet index wallet, .late)
  | .equip index item slot => some (.equip index item slot, .late)
  | .unequip index slot => some (.unequip index slot, .late)
  | .transfer giver place taker => some (.transfer giver place taker, .late)
  | .setSpeech enabled => some (.setSpeech enabled, .late)
  | .load text => some (.load text, .late)
  | .play deed answer => some (.play deed, answer)

private theorem settle_change (s : Session) (result : Except SessionError Session)
    (answer : Answer) : ((s.change result).settle answer).1 = s.orElse result := by
  cases result <;> rfl

/-- A step does what its action does. -/
theorem Session.perform_eq_follow (s : Session) (step : Step) :
    s.perform step = s.follow step.action?.toList := by
  cases step with
  | add newcomer =>
    cases hc : newcomer.character? with
    | none => simp [perform, Step.action?, hc, follow]
    | some c =>
      simp only [perform, Step.action?, hc]
      exact (settle_change s _ .late).symm
  | setSpeech enabled => rfl
  | play deed answer => rfl
  | _ => exact (settle_change s _ .late).symm

/-! ## Actions in a row -/

/-- What every action of a kind keeps, actions of that kind keep in a row. -/
theorem Session.follow_induction {p : Session → Prop} {q : Action → Prop}
    (hstep : ∀ s a answer, q a → p s → p ((a.move s).settle answer).1) {s : Session}
    {actions : List (Action × Answer)} (hq : ∀ x ∈ actions, q x.1) (h : p s) :
    p (s.follow actions) := by
  induction actions generalizing s with
  | nil => exact h
  | cons x actions ih =>
    obtain ⟨hx, hrest⟩ := List.forall_mem_cons.mp hq
    exact ih hrest (hstep s x.1 x.2 hx h)

end Tabletop
