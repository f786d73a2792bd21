import Tabletop.Proofs.Party.Changes
import Tabletop.Proofs.Session.Deeds

/-!
# The course of a session

A session goes on step by step: changes to the party, saved games taken up, and deeds with whatever
the narrator answers to them. A step that fails leaves the session as it is.
-/

namespace Tabletop

/-- Someone who may join a party. -/
inductive Newcomer where
  /-- From the text of a character sheet. -/
  | sheet (text : String)
  | recipe (r : Recipe)
  deriving DecidableEq, Repr

/-- The character of a newcomer, if there is one. -/
def Newcomer.character? : Newcomer → Option Character
  | .sheet text => (Sheet.read text).toOption
  | .recipe r => r.make.toOption

/-- A step in the course of a session. -/
inductive Step where
  | add (newcomer : Newcomer)
  | create (recipe : Recipe)
  | remove (index : Nat)
  | confirm (index : Nat)
  | setActive (index : Nat)
  | setNotes (index : Nat) (notes : String)
  | setWallet (index : Nat) (wallet : Wallet)
  | equip (index item : Nat) (slot : Slot)
  | unequip (index : Nat) (slot : Slot)
  | transfer (giver : Nat) (place : ItemPlace) (taker : Nat)
  | setSpeech (enabled : Bool)
  | load (text : Except SaveError String)
  /-- A deed, and the answer that the session hears if the deed asks for one. -/
  | play (deed : Deed) (answer : Answer)

namespace Session

/-- The session that something comes to, or the one before if it fails. -/
def orElse (s : Session) (result : Except SessionError Session) : Session := result.toOption.getD s

/-- The session after a step. -/
def perform (s : Session) : Step → Session
  | .add newcomer =>
    match newcomer.character? with
    | none => s
    | some c => s.orElse ((s.addMember c).map Prod.snd)
  | .create recipe => s.orElse ((s.createMember recipe).map Prod.snd)
  | .remove index => s.orElse ((s.removeMember index).map Prod.snd)
  | .confirm index => s.orElse (s.confirmProtagonist index)
  | .setActive index => s.orElse (s.setActive index)
  | .setNotes index notes => s.orElse (s.setNotes index notes)
  | .setWallet index wallet => s.orElse (s.setWallet index wallet)
  | .equip index item slot => s.orElse (s.equip index item slot)
  | .unequip index slot => s.orElse (s.unequip index slot)
  | .transfer giver place taker => s.orElse (s.transferItem giver place taker)
  | .setSpeech enabled => (s.setSpeech enabled).1
  | .load text => s.orElse (s.load text)
  | .play deed answer => ((deed.move s).settle answer).1

/-- The session after steps. -/
def run (s : Session) (steps : List Step) : Session := steps.foldl perform s

/-- A property of sessions that every step keeps holds throughout. -/
theorem run_induction {p : Session → Prop} (hstep : ∀ s step, p s → p (s.perform step))
    {s : Session} (h : p s) (steps : List Step) : p (s.run steps) := by
  induction steps generalizing s with
  | nil => exact h
  | cons step steps ih => exact ih (hstep s step h)

end Session

/-- Whatever happens at the table when a deed is played is a step of its session. -/
theorem Table.session_play_eq_perform {σ : Type} (cast : Cast (StateM σ)) (t : Table) (d : Deed)
    (w : σ) : ∃ answer,
      ((t.play cast d.move).run w).1.1.session = t.session.perform (.play d answer) :=
  ⟨_, congrArg Prod.fst (play_run cast t d.move w)⟩

end Tabletop
