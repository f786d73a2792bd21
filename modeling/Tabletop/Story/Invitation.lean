import Tabletop.Party.Recipe

/-!
# Invitations

The offer of someone to join the party, and what has become of it.
-/

namespace Tabletop

/-- What has become of an invitation. -/
inductive InvitationStatus where
  | pending
  | generating
  | accepted
  | declined
  | error
  deriving DecidableEq, Repr

/-- An offer to join the party. -/
structure Invitation where
  name : String
  race : String
  calling : String
  gender : String
  status : InvitationStatus
  deriving DecidableEq, Repr

/-- The answer, or the making of the joiner, is still to come. -/
def InvitationStatus.isOpen : InvitationStatus → Bool
  | .pending | .generating => true
  | _ => false

/-- The name of a status. -/
def InvitationStatus.name : InvitationStatus → String
  | .pending => "pending"
  | .generating => "generating"
  | .accepted => "accepted"
  | .declined => "declined"
  | .error => "error"

namespace Invitation

/-- A fresh offer. -/
def offer (name race calling gender : String) : Invitation :=
  ⟨name, race, calling, gender, .pending⟩

/-- The recipe of the joiner, with the details drawn at random. -/
def recipe (i : Invitation) (dice : Dice) : Recipe × Dice :=
  (Recipe.ofIdentity i.name i.race i.calling i.gender).randomize dice

end Invitation

end Tabletop
