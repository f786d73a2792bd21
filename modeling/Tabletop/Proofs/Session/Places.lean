import Tabletop.Proofs.Party.Protagonist
import Tabletop.Proofs.Session.Actions
import Tabletop.Proofs.Session.Turn

/-!
# Places in the party

A session knows two members by their places in the party: the protagonist and the one who acts. Both
stay members whatever happens, and when somebody leaves they stay who they are: those behind move up
one place. Only one who leaves gives way to another, the protagonist to the next member and the one
who acts to the protagonist.
-/

namespace Tabletop

/-- Where a member stands after the one at `index` has left. -/
def Roster.placeAfter (index place : Nat) : Nat := if index < place then place - 1 else place

/-- The action takes up no saved game without members. -/
def Action.Peopled (a : Action) : Prop := ∀ game, a.saved? = some game → game.characters ≠ []

namespace Session

open Roster (placeAfter)

/-- The protagonist and the one who acts have places of members, and the first place in a party
without members. -/
structure Seated (s : Session) : Prop where
  protagonist : s.roster.Seated
  acting : s.active ≤ s.roster.size - 1

/-- The member at `index` has left a party; everyone else is still who they were. -/
structure ClosesUp (s : Session) (index : Nat) (s' : Session) : Prop where
  size : s'.roster.size + 1 = s.roster.size
  others : ∀ place, place ≠ index →
    s'.roster.get? (placeAfter index place) = s.roster.get? place
  protagonist : s.roster.main ≠ index → s'.roster.main = placeAfter index s.roster.main
  /-- The next member becomes the protagonist. -/
  next : s.roster.main = index → index + 1 < s.roster.size →
    s'.roster.main = placeAfter index (index + 1)
  /-- Where nobody comes next, the member before becomes the protagonist. -/
  previous : s.roster.main = index → 0 < index → index + 1 = s.roster.size →
    s'.roster.main = placeAfter index (index - 1)
  acting : s.active ≠ index → s'.active = placeAfter index s.active
  /-- The protagonist acts in place of one who has left. -/
  relieved : s.active = index → s'.active = s'.roster.main

variable {s s' start : Session} {a : Action}

/-! ## Changes -/

private theorem Seated.of_members {members : List Character} (h : s.Seated)
    (hlength : members.length = s.roster.size) (hroster : s'.roster = { s.roster with members })
    (hactive : s'.active = s.active) : s'.Seated := by
  obtain ⟨hmain, hacting⟩ := h
  refine ⟨?_, ?_⟩
  · rw [hroster, Roster.Seated, Roster.size, hlength]
    exact hmain
  · rw [hactive, hroster, Roster.size, hlength]
    exact hacting

private theorem size_remove {r r' : Roster} {index : Nat} {c : Character}
    (h : r.remove index = .ok (c, r')) : index < r.size ∧ r'.size = r.size - 1 := by
  obtain ⟨hc, rfl⟩ := Roster.remove_eq_ok h
  have hlt : index < r.members.length := (List.getElem?_eq_some_iff.mp hc).1
  exact ⟨hlt, List.length_eraseIdx_of_lt hlt⟩

private theorem activeAfter_le {active index : Nat} {r : Roster} (h : r.Seated) :
    activeAfter active index r ≤ r.size - 1 := by
  have hheld (place : Nat) : (if r.size ≤ place then r.main else place) ≤ r.size - 1 := by
    rw [Roster.Seated] at h
    split <;> omega
  exact hheld _

private theorem seated_restore {game : SavedGame} (h : s.restore game = .ok s')
    (hgame : game.characters ≠ []) : s'.Seated := by
  obtain ⟨-, hactive, hmain⟩ := restore_eq_ok h
  have hplace : s'.roster.main ≤ s'.roster.size - 1 := Nat.le_sub_one_of_lt (hmain hgame)
  exact ⟨hplace, hactive ▸ hplace⟩

private theorem seated_amended (hs : s.Seated)
    (hpeopled : a.Peopled ∨ s'.roster.isEmpty = false) (h : s.Amended a s') : s'.Seated := by
  cases h with
  | joined _ hpush =>
    have hattempt : s.roster.attempt (.push _) = .ok _ := hpush
    refine ⟨Roster.seated_of_attempt hs.protagonist hattempt, ?_⟩
    obtain ⟨-, rfl⟩ := Roster.push_eq_ok hpush
    have hacting := hs.acting
    simp only [Roster.size, List.length_append, List.length_singleton] at hacting ⊢
    omega
  | changed => exact hs.of_members List.length_set rfl rfl
  | @left index c roster hremove =>
    have hattempt : s.roster.attempt (.remove index) = .ok roster := by
      rw [Roster.attempt, hremove]
      rfl
    have hseated := Roster.seated_of_attempt hs.protagonist hattempt
    exact ⟨hseated, activeAfter_le hseated⟩
  | @confirmed index roster hconfirm =>
    have hattempt : s.roster.attempt (.confirmProtagonist index) = .ok roster := hconfirm
    exact ⟨Roster.seated_of_attempt hs.protagonist hattempt, Nat.zero_le _⟩
  | @given giver taker place item roster htransfer =>
    have hattempt : s.roster.attempt (.transfer giver place taker) = .ok roster := by
      rw [Roster.attempt, htransfer]
      rfl
    refine ⟨Roster.seated_of_attempt hs.protagonist hattempt, ?_⟩
    show s.active ≤ roster.size - 1
    rw [Roster.size_of_transfer htransfer]
    exact hs.acting
  | acting hlt => exact ⟨hs.protagonist, Nat.le_sub_one_of_lt hlt⟩
  | speech enabled => exact ⟨hs.protagonist, hs.acting⟩
  | restored hsaved hrestore =>
    refine seated_restore hrestore (hpeopled.elim (fun h => h _ hsaved) fun h hnil => ?_)
    rw [Roster.isEmpty, (restore_eq_ok hrestore).1, hnil] at h
    cases h

/-! ## Deeds -/

private theorem seated_of_starts {d : Deed} {line : List Event} (hs : s.Seated)
    (h : d.Starts s start line) : start.Seated := by
  obtain ⟨hmain, hacting⟩ := hs
  cases h with
  | begin => exact ⟨hmain, hmain⟩
  | submit => exact ⟨hmain, hacting⟩
  | accept =>
    rw [Roster.Seated] at hmain
    constructor <;>
    · simp only [Roster.Seated, mark, withJoiner, Roster.size, List.length_append,
        List.length_singleton] at hmain hacting ⊢
      omega
  | decline => exact ⟨hmain, hacting⟩
  | useItem => exact Seated.of_members ⟨hmain, hacting⟩ List.length_set rfl rfl

private theorem active_settle {m : Move} {line : List Event} {turn : Turn}
    (h : Asks m start line turn) (answer : Answer) :
    (m.settle answer).1.active = start.active := by
  rcases answer.said_or_unanswered _ with ⟨raw, rfl⟩ | ⟨e, he⟩
  · rw [h.settle_said]
    rfl
  · rw [h.settle_of_error? he]

private theorem seated_settle {d : Deed} {m : Move} (hs : s.Seated) (h : d.Comes s m)
    (answer : Answer) : (m.settle answer).1.Seated := by
  cases h with
  | refused e => exact hs
  | unjoined => exact ⟨hs.protagonist, hs.acting⟩
  | idle dice => exact ⟨hs.protagonist, hs.acting⟩
  | asking hstart ha =>
    obtain ⟨members, hnames, hroster⟩ := ha.members_settle answer
    have hlength := Roster.length_eq_of_names hnames
    exact (seated_of_starts hs hstart).of_members hlength hroster (active_settle ha answer)
  | overflow hstart hb =>
    rw [hb.settle]
    exact (seated_of_starts hs hstart).of_members rfl rfl rfl

/-! ## Actions -/

/-- The protagonist and the one who acts keep places of members, unless a saved game without members
is taken up. -/
theorem seated_act (hs : s.Seated) (answer : Answer)
    (hpeopled : a.Peopled ∨ ((a.move s).settle answer).1.roster.isEmpty = false) :
    ((a.move s).settle answer).1.Seated := by
  have hcomes := a.comes s
  generalize a.move s = m at hcomes hpeopled
  cases hcomes with
  | refused e => exact hs
  | amended signals h => exact seated_amended hs hpeopled h
  | deed _ h => exact seated_settle hs h answer

/-- In a party with members these places are taken. -/
private theorem Seated.lt_size (hs : s.Seated) (hparty : s.roster.isEmpty = false) :
    s.roster.main < s.roster.size ∧ s.active < s.roster.size := by
  have hpos : 0 < s.roster.size :=
    List.length_pos_iff.mpr (by simpa [Roster.isEmpty] using hparty)
  obtain ⟨hmain, hacting⟩ := hs
  rw [Roster.Seated] at hmain
  omega

/-- Whoever is at another place than the one who leaves moves up if it is behind. -/
private theorem get?_placeAfter {r r' : Roster} {index place : Nat} {c : Character}
    (h : r.remove index = .ok (c, r')) (hne : place ≠ index) :
    r'.get? (placeAfter index place) = r.get? place := by
  obtain ⟨-, rfl⟩ := Roster.remove_eq_ok h
  simp only [Roster.get?, placeAfter, List.getElem?_eraseIdx]
  by_cases hlt : index < place
  · have hback : place - 1 + 1 = place := by omega
    rw [if_pos hlt, if_neg (by omega), hback]
  · rw [if_neg hlt, if_pos (by omega)]

private theorem closesUp_of_removeMember {index : Nat} {c : Character} (hs : s.Seated)
    (h : s.removeMember index = .ok (c, s')) : s.ClosesUp index s' := by
  obtain ⟨roster, hremove, rfl⟩ := removeMember_eq_ok h
  obtain ⟨hlt, hsize⟩ := size_remove hremove
  obtain ⟨hmain, hacting⟩ := hs
  rw [Roster.Seated] at hmain
  have hplace : roster.main =
      if index < s.roster.main ∨ roster.size ≤ s.roster.main then s.roster.main - 1
      else s.roster.main := by
    obtain ⟨-, rfl⟩ := Roster.remove_eq_ok hremove
    rfl
  have hseated : roster.main ≤ roster.size - 1 := by
    rw [hplace]
    split <;> omega
  refine ⟨by dsimp only; omega, fun place hne => get?_placeAfter hremove hne, fun hne => ?_,
    fun hself hnext => ?_, fun hself hpos hlast => ?_, fun hne => ?_, fun hself => ?_⟩
  · simp only [hplace, placeAfter]
    split <;> split <;> omega
  · simp only [hplace, placeAfter]
    split <;> split <;> omega
  · simp only [hplace, placeAfter]
    split <;> split <;> omega
  · simp only [activeAfter, if_neg hne, placeAfter]
    split <;> split <;> omega
  · simp only [activeAfter, if_pos hself]
    split <;> omega

/-- From a session in which the protagonist and the one who acts have places of members, they have
such places after any actions and one more that leaves members in the party, as long as none but the
last takes up a saved game without members. And whenever a member is removed, the protagonist and
the one who acts stay the members that they are, at the places that these have then; for a
protagonist who leaves the next member is the protagonist, or else the one before, and for the one
who acts the protagonist is. -/
theorem seated_follow {actions : List (Action × Answer)} (hmain : s.roster.main < s.roster.size)
    (hactive : s.active < s.roster.size) (hpeopled : ∀ x ∈ actions, x.1.Peopled) :
    let now := s.follow actions
    (∀ (a : Action) (answer : Answer), let after := ((a.move now).settle answer).1
      after.roster.isEmpty = false →
        after.roster.main < after.roster.size ∧ after.active < after.roster.size) ∧
      ∀ index c after, now.removeMember index = .ok (c, after) →
        now.roster.get? index = some c ∧ now.ClosesUp index after := by
  intro now
  have hs : s.Seated := ⟨Nat.le_sub_one_of_lt hmain, Nat.le_sub_one_of_lt hactive⟩
  have hnow : now.Seated :=
    follow_induction (p := Seated) (q := Action.Peopled)
      (fun _ _ answer hq h => seated_act h answer (.inl hq)) hpeopled hs
  constructor
  · intro a answer after hparty
    exact (seated_act hnow answer (.inr hparty)).lt_size hparty
  · intro index c after h
    obtain ⟨roster, hremove, -⟩ := removeMember_eq_ok h
    exact ⟨(Roster.remove_eq_ok hremove).1, closesUp_of_removeMember hnow h⟩

/-- Of three members the last acts and is hurt, and then the first leaves, the protagonist. -/
theorem seated_follow_three :
    let s := (Session.start .usual (.ofWords [7])).follow
      [(.create (.ofIdentity "Bo" "Elf" "Bard" "male"), .late),
        (.create (.ofIdentity "Ann" "Elf" "Bard" "female"), .late),
        (.create (.ofIdentity "Cy" "Elf" "Bard" "male"), .late)]
    let actions : List (Action × Answer) :=
      [(.setActive 2, .late), (.play (.submit "Hello"), .said "DAMAGE:Cy,1")]
    (s.roster.main < s.roster.size ∧ s.active < s.roster.size) ∧
      (∀ x ∈ actions, x.1.Peopled) ∧ ∃ c after,
        (s.follow actions).removeMember 0 = .ok (c, after) ∧ after.active = 1 ∧
          (after.roster.main < after.roster.size ∧ after.active < after.roster.size) ∧
            (s.follow actions).ClosesUp 0 after := by
  intro s actions
  have hs : s.roster.main < s.roster.size ∧ s.active < s.roster.size := by decide +kernel
  have hpeopled : ∀ x ∈ actions, x.1.Peopled := by
    simp [actions, Action.Peopled, Action.saved?]
  have hleaves : ((s.follow actions).removeMember 0).toOption.map
      (fun x => (x.2.active, x.2.roster.isEmpty)) = some (1, false) := by decide +kernel
  clear_value s actions
  obtain ⟨hkept, hremoved⟩ := seated_follow hs.1 hs.2 hpeopled
  cases hr : (s.follow actions).removeMember 0 with
  | error e =>
    rw [hr] at hleaves
    cases hleaves
  | ok r =>
    rw [hr] at hleaves
    have hafter := hkept (.remove 0) .late
    simp only [Action.move, hr] at hafter
    obtain ⟨hactive, hparty⟩ := Prod.mk.inj (Option.some.inj hleaves)
    exact ⟨hs, hpeopled, r.1, r.2, rfl, hactive, hafter hparty, (hremoved 0 r.1 r.2 hr).2⟩

end Session

end Tabletop
