import Tabletop.Proofs.Session.Ending

/-!
# Members who fall and rise

Somebody who knows which members are down before a turn, and then only hears the notices of the
turn, knows which members are down after it. A healing item is told of before the turn that follows
it, and from the one to the other the same member may rise and fall again.
-/

namespace Tabletop

open Character (Vital)

/-! ## Keeping count -/

/-- A member, known by place and name, goes down or gets up: nothing comes of it where nobody is
known so, or where the member is down or up already. -/
def Notice.cross (names : List String) (down : List Bool) (index : Nat) (name : String)
    (falls : Bool) : Option (List Bool) :=
  if names[index]? = some name ∧ down[index]? = some (!falls) then some (down.set index falls)
  else none

/-- Who is down, in the order of the members, as far as somebody knows who is told so. -/
def Notice.tally (names : List String) (down : List Bool) : Notice → Option (List Bool)
  | .downed index name => cross names down index name true
  | .revived index name => cross names down index name false
  | _ => some down

/-- Which members have no hit points left, in order. -/
def spent (members : List Character) : List Bool :=
  members.map fun c => decide (c.currentHp = 0)

namespace Notice

private theorem tally_of_not_crossing {ns : List Notice} (h : ∀ n ∈ ns, n.isCrossing = false)
    (names : List String) (down : List Bool) :
    ns.foldlM (tally names) down = some down := by
  induction ns with
  | nil => rfl
  | cons n ns ih =>
    obtain ⟨hn, hns⟩ := List.forall_mem_cons.mp h
    have htold : tally names down n = some down := by
      cases n with
      | downed => cases hn
      | revived => cases hn
      | _ => rfl
    rw [List.foldlM_cons, htold]
    exact ih hns

private theorem cross_eq_some {names : List String} {earlier later : List Bool} {name : String}
    (hname : names[earlier.length]? = some name) (falls : Bool) :
    cross names (earlier ++ (!falls) :: later) earlier.length name falls =
      some (earlier ++ falls :: later) := by
  have hdown : (earlier ++ (!falls) :: later)[earlier.length]? = some (!falls) := by simp
  rw [cross, if_pos ⟨hname, hdown⟩]
  simp

private theorem tally_crossing? {names : List String} {earlier : List Bool} {c : Character}
    (hname : names[earlier.length]? = some c.name) (before : Int) (later : List Bool) :
    (crossing? earlier.length before c).toList.foldlM (tally names)
        (earlier ++ decide (before ≤ 0) :: later) =
      some (earlier ++ c.isDown :: later) := by
  unfold crossing?
  dsimp only
  split
  · next h =>
    have hbefore : decide (before ≤ 0) = !true := by simpa using h.1
    have hdown : c.isDown = true := by simpa [Character.isDown] using h.2
    rw [hbefore, hdown]
    simpa [tally] using cross_eq_some hname true
  · split
    · next h =>
      have hbefore : decide (before ≤ 0) = !false := by simpa using h.1
      have hdown : c.isDown = false := by simpa [Character.isDown] using h.2
      rw [hbefore, hdown]
      simpa [tally] using cross_eq_some hname false
    · next hfell hrose =>
      have hsame : decide (before ≤ 0) = c.isDown := by
        rw [Character.isDown, decide_eq_decide]
        omega
      rw [hsame]
      rfl

/-- Told who has crossed zero among the members from a place on, one knows of each of them whether
they are down. -/
private theorem tally_crossings {before : List Int} {members : List Character}
    (hlen : before.length = members.length) (earlier : List Character) :
    (crossings earlier.length before members).foldlM
        (tally ((earlier ++ members).map Character.name))
        (earlier.map Character.isDown ++ before.map fun hp => decide (hp ≤ 0)) =
      some ((earlier ++ members).map Character.isDown) := by
  induction before generalizing earlier members with
  | nil =>
    cases List.eq_nil_of_length_eq_zero hlen.symm
    simp [crossings]
  | cons hp before ih =>
    cases members with
    | nil => cases hlen
    | cons c members =>
      have hname : ((earlier ++ c :: members).map Character.name)[
          (earlier.map Character.isDown).length]? = some c.name := by simp
      have hrest := ih (Nat.succ.inj hlen) (earlier ++ [c])
      have hfirst := tally_crossing? hname hp (before.map fun hp => decide (hp ≤ 0))
      rw [List.length_map] at hfirst
      rw [crossings, List.foldlM_append, List.map_cons, hfirst]
      simpa using hrest

/-- Told what a change of hit points amounts to, one knows who is down. -/
private theorem tally_ofVitals {before : List Int} {r : Roster} (hlen : before.length = r.size) :
    (ofVitals before r).foldlM (tally r.names) (before.map fun hp => decide (hp ≤ 0)) =
      some (r.members.map Character.isDown) := by
  have hcrossings := tally_crossings hlen []
  rw [ofVitals, List.foldlM_append]
  simp only [List.nil_append, List.map_nil, List.length_nil] at hcrossings
  rw [Roster.names, hcrossings]
  refine tally_of_not_crossing (fun n hn => ?_) _ _
  split at hn
  · cases List.mem_singleton.mp hn
    rfl
  · cases hn

/-- The end of the game is told of the protagonist. -/
private theorem name_protagonist? {r : Roster} (h : r.main < r.size) :
    r.protagonist?.map Character.name = some (hero r) := by
  have hsome : r.protagonist? = some r.members[r.main] := List.getElem?_eq_getElem h
  rw [hero, hsome]
  rfl

end Notice

/-! ## Before the turn -/

/-- Of what comes before its turn, if it opens one, a move tells these notices. -/
def Move.Tells (m : Move) (ns : List Notice) : Prop :=
  ∀ turn, m.opening = .asking turn → turn.notices = ns

namespace Move.Tells

variable {m : Move} {ns : List Notice}

private theorem of_refused {s : Session} {signals : List Signal} {e : SessionError} :
    Tells ⟨s, signals, .refused e⟩ ns := by
  intro turn h
  cases h

private theorem ask (s : Session) (text : String) (isPlayers : Bool) :
    (s.ask text isPlayers).Tells [] := by
  intro turn h
  rw [Session.ask] at h
  cases hopen : s.openTurn? text isPlayers with
  | none =>
    rw [hopen] at h
    cases h
  | some opened =>
    obtain ⟨roster, rested, -, rfl⟩ := Session.openTurn?_eq_some_iff.mp hopen
    rw [hopen] at h
    cases h
    rfl

private theorem submit (s : Session) (input : String) : (s.submit input).Tells [] := by
  unfold Session.submit
  dsimp only
  split
  · exact of_refused
  · split
    · exact of_refused
    · exact ask _ _ _

private theorem after (h : m.Tells ns) (signals : List Signal) : (m.after signals).Tells ns := h

private theorem withNotices (h : m.Tells []) (ns : List Notice) : (m.withNotices ns).Tells ns := by
  intro turn hturn
  unfold Move.withNotices at hturn
  split at hturn
  · next t ht =>
    cases hturn
    rw [h t ht]
    exact List.append_nil ns
  · next hnone => exact absurd hturn (hnone turn)

private theorem begin (s : Session) : s.begin.Tells [] := by
  unfold Session.begin
  split
  · exact of_refused
  · split
    · exact of_refused
    · exact ask _ _ _

private theorem accept (s : Session) (index : Nat) : (s.accept index).Tells [] := by
  unfold Session.accept
  split
  · exact of_refused
  · split
    · exact of_refused
    · split
      · exact of_refused
      · exact (submit _ _).after _

private theorem decline (s : Session) (index : Nat) : (s.decline index).Tells [] := by
  unfold Session.decline
  split
  · exact of_refused
  · split
    · exact of_refused
    · exact (submit _ _).after _

/-- Only items have anything to tell before their turns. -/
private theorem deed {d : Deed} (hd : ∀ member index, d ≠ .useItem member index) (s : Session) :
    (d.move s).Tells [] := by
  cases d with
  | begin => exact begin s
  | submit input => exact submit s input
  | accept index => exact accept s index
  | decline index => exact decline s index
  | useItem member index => exact absurd rfl (hd member index)

/-- An item tells of the hit points that it brings. -/
private theorem useItem {s : Session} {member index : Nat} {opened : Session} {line : List Event}
    (h : (Deed.useItem member index).Starts s opened line) :
    (s.useItem member index).Tells (Notice.ofVitals s.roster.hpList opened.roster) := by
  cases h with
  | useItem hc hi hr hcount =>
    unfold Session.useItem
    split
    · exact of_refused
    · simp only [hc, hi, hr]
      split
      · intro turn hidle
        cases hidle
      · next hconsumed =>
        unfold Session.consume? at hconsumed
        dsimp only at hconsumed
        split at hconsumed
        · cases hconsumed
        · cases hconsumed
          exact (submit _ _).withNotices _

end Move.Tells

/-! ## Turns -/

namespace Session

variable {s opened : Session} {d : Deed} {line : List Event} {turn : Turn}

/-- The members of a party as a deed finds them, and whoever has joined them when its turn opens. -/
def present (s opened : Session) : List Character :=
  s.roster.members ++ opened.roster.members.drop s.roster.size

/-- Only who is invited joins before a turn, and only items change hit points there. -/
private theorem present_eq (h : d.Starts s opened line) :
    (∀ member index, d ≠ .useItem member index) ∧ s.present opened = opened.roster.members ∨
      (∃ member index, d = .useItem member index) ∧ s.present opened = s.roster.members ∧
        opened.roster.names = s.roster.names := by
  cases h with
  | begin => exact .inl ⟨by simp, by simp [present, note, Roster.size]⟩
  | submit => exact .inl ⟨by simp, by simp [present, Roster.size]⟩
  | accept => exact .inl ⟨by simp, by simp [present, mark, withJoiner, Roster.size]⟩
  | decline => exact .inl ⟨by simp, by simp [present, mark, Roster.size]⟩
  | useItem hc =>
    refine .inr ⟨⟨_, _, rfl⟩, by simp [present, Roster.size], ?_⟩
    apply Roster.names_set hc
    rfl

/-- Who is present has the names of the party with which the turn opens. -/
private theorem names_present (h : d.Starts s opened line) :
    (s.present opened).map Character.name = opened.roster.names := by
  rcases present_eq h with ⟨-, hpresent⟩ | ⟨-, hpresent, hnames⟩
  · rw [hpresent, Roster.names]
  · rw [hpresent, hnames, Roster.names]

/-- Where there is a protagonist before a deed, there is one when its turn opens. -/
private theorem main_lt_of_starts (hmain : s.roster.main < s.roster.size)
    (h : d.Starts s opened line) : opened.roster.main < opened.roster.size := by
  have hsame : opened.roster.main = s.roster.main := by cases h <;> rfl
  rw [hsame, ← Roster.length_eq_of_names (names_present h), present, List.length_append]
  exact Nat.lt_add_right _ hmain

private theorem map_isDown_eq (members : List Character) :
    members.map Character.isDown =
      (members.map fun c => c.currentHp.toInt).map fun hp => decide (hp ≤ 0) := by
  rw [List.map_map]
  rfl

/-- Told what comes before the turn, one knows who is down when it opens. -/
private theorem tally_of_starts (h : d.Starts s opened line)
    (ha : Asks (d.move s) opened line turn) :
    turn.notices.foldlM (Notice.tally opened.roster.names)
        ((s.present opened).map Character.isDown) =
      some (opened.roster.members.map Character.isDown) := by
  rcases present_eq h with ⟨hd, hpresent⟩ | ⟨⟨member, index, rfl⟩, hpresent, hnames⟩
  · rw [Move.Tells.deed hd s turn ha.opening, hpresent]
    rfl
  · rw [Move.Tells.useItem h turn ha.opening, hpresent, map_isDown_eq]
    apply Notice.tally_ofVitals
    rw [List.length_map]
    exact Roster.length_eq_of_names hnames.symm

/-- Told of a turn that is completed, one knows who is down when it closes. -/
private theorem tally_completeTurn (h : d.Starts s opened line)
    (ha : Asks (d.move s) opened line turn) (raw : String) :
    (opened.completeTurn turn raw).2.2.notices.foldlM (Notice.tally opened.roster.names)
        ((s.present opened).map Character.isDown) =
      some ((opened.completeTurn turn raw).1.roster.members.map Character.isDown) := by
  obtain ⟨told, htold, hnotices⟩ := notices_completeTurn opened turn raw
  obtain ⟨hnames, -⟩ := names_completeTurn ha raw
  have hlen : opened.roster.hpList.length = (opened.completeTurn turn raw).1.roster.size := by
    rw [Roster.hpList, List.length_map]
    exact Roster.length_eq_of_names hnames.symm
  have hbetween := Notice.tally_of_not_crossing (fun n hn => (htold n hn).1) opened.roster.names
    (opened.roster.members.map Character.isDown)
  rw [hnotices, List.append_assoc, List.foldlM_append, tally_of_starts h ha]
  refine List.foldlM_append.trans ?_
  rw [hbetween, ha.hpBefore, map_isDown_eq, ← hnames]
  exact Notice.tally_ofVitals hlen

/-- The end of the game is told of last, of the protagonist, and where nobody stands. -/
private theorem gameOver_completeTurn {m : Move} (ha : Asks m opened line turn)
    (hmain : opened.roster.main < opened.roster.size) {raw hero : String}
    (h : .gameOver hero ∈ (opened.completeTurn turn raw).2.2.notices) :
    let after := (opened.completeTurn turn raw).1.roster
    (∃ earlier, (opened.completeTurn turn raw).2.2.notices = earlier ++ [.gameOver hero] ∧
      ∀ n ∈ earlier, n.isGameOver = false) ∧
    after.protagonist?.map Character.name = some hero ∧ after.allDown = true := by
  intro after
  obtain ⟨told, htold, hnotices⟩ := notices_completeTurn opened turn raw
  obtain ⟨hnames, hplace⟩ := names_completeTurn ha raw
  have hbefore : ∀ n ∈ turn.notices ++ told ++ Notice.crossings 0 turn.hpBefore after.members,
      n.isGameOver = false := by
    intro n hn
    rcases List.mem_append.mp hn with hn | hn
    · rcases List.mem_append.mp hn with hn | hn
      · exact Notice.isGameOver_of_isCrossing (ha.crossings n hn)
      · exact (htold n hn).2
    · exact Notice.isGameOver_of_isCrossing (Notice.isCrossing_of_mem_crossings hn)
  rw [hnotices, Notice.ofVitals, ← List.append_assoc] at h ⊢
  rcases List.mem_append.mp h with h | h
  · cases hbefore _ h
  · split at h
    · next hover =>
      cases List.mem_singleton.mp h
      have hsize : after.size = opened.roster.size := Roster.length_eq_of_names hnames
      have hin : after.main < after.size := by
        rw [hplace, hsize]
        exact hmain
      rw [if_pos hover]
      exact ⟨⟨_, rfl, hbefore⟩, Notice.name_protagonist? hin, (Bool.and_eq_true_iff.mp hover).1⟩
    · cases h

private theorem spent_eq {members : List Character} (h : ∀ c ∈ members, c.Vital) :
    spent members = members.map Character.isDown :=
  List.map_congr_left fun c hc => by
    rw [Bool.eq_iff_iff, isDown_iff (h c hc), decide_eq_true_eq]

/-- The notices of a completed turn, in their order, lead from the members without hit points before
it, counting whoever joins by the deed, to the members without hit points after it: each names a
member, with the place, and nobody falls who is down or rises who is not. The end of the game is
noticed last, once, and of the protagonist, and only where nobody has hit points. -/
theorem tally_of_completed (s : Session) (d : Deed) (answer : Answer) {outcome : Outcome}
    (hvital : s.roster.All Vital) (hmain : s.roster.main < s.roster.size)
    (h : ((d.move s).settle answer).2 = .ok (some outcome)) :
    let after := s.perform (.play d answer)
    ∃ opened line, d.Starts s opened line ∧
      after.roster.names = (s.present opened).map Character.name ∧
      outcome.notices.foldlM (Notice.tally after.roster.names) (spent (s.present opened)) =
        some (spent after.roster.members) ∧
      ∀ hero, .gameOver hero ∈ outcome.notices →
        (∃ earlier, outcome.notices = earlier ++ [.gameOver hero] ∧
          ∀ n ∈ earlier, n.isGameOver = false) ∧
        after.roster.protagonist?.map Character.name = some hero ∧
        ∀ c ∈ after.roster.members, c.currentHp = 0 := by
  intro after
  obtain ⟨opened, line, turn, raw, hstarts, ha, -, hafter, rfl⟩ := exists_completed h
  have hafter : after = (opened.completeTurn turn raw).1 := hafter
  have hopened : opened.roster.All Vital := vital_of_starts hvital hstarts
  have hclosed : after.roster.All Vital := perform_all hvital (.play d answer)
  have hpresent : ∀ c ∈ s.present opened, c.Vital := by
    intro c hc
    rcases List.mem_append.mp hc with hc | hc
    · exact hvital c hc
    · exact hopened c (List.mem_of_mem_drop hc)
  have hnames : after.roster.names = opened.roster.names := by
    rw [hafter]
    exact (names_completeTurn ha raw).1
  refine ⟨opened, line, hstarts, hnames.trans (names_present hstarts).symm, ?_,
    fun hero hhero => ?_⟩
  · rw [hnames, spent_eq hpresent, spent_eq hclosed, hafter]
    exact tally_completeTurn hstarts ha raw
  · obtain ⟨hlast, hname, hdown⟩ := gameOver_completeTurn ha (main_lt_of_starts hmain hstarts) hhero
    rw [← hafter] at hname hdown
    refine ⟨hlast, hname, fun c hc => ?_⟩
    exact (isDown_iff (hclosed c hc)).mp
      (List.all_eq_true.mp (Bool.and_eq_true_iff.mp hdown).2 c hc)

/-- Struck down, a member drinks a potion and gets up, and is struck down again together with the
last who stood. -/
theorem tally_of_completed_struck :
    let s := (Session.start .usual (.ofWords [7])).run
      [.create (.ofIdentity "Bo" "Elf" "Bard" "male"),
        .create (.ofIdentity "Ann" "Elf" "Bard" "female"),
        .play (.submit "Hello") (.said "DAMAGE:Bo,99")]
    let d := Deed.useItem 0 0
    let answer : Answer := .said "DAMAGE:Bo,99\nDAMAGE:Ann,99"
    let after := s.perform (.play d answer)
    s.roster.All Vital ∧ s.roster.main < s.roster.size ∧
      ∃ outcome opened line, ((d.move s).settle answer).2 = .ok (some outcome) ∧
        outcome.notices =
          [.revived 0 "Bo", .downed 0 "Bo", .downed 1 "Ann", .gameOver "Bo"] ∧
        d.Starts s opened line ∧ after.roster.names = (s.present opened).map Character.name ∧
        outcome.notices.foldlM (Notice.tally after.roster.names) (spent (s.present opened)) =
          some (spent after.roster.members) ∧
        after.roster.protagonist?.map Character.name = some "Bo" := by
  intro s d answer after
  have hvital : s.roster.All Vital := vital_of_mem_run _ _ _
  have hmain : s.roster.main < s.roster.size := by decide +kernel
  have hoccurs : ((d.move s).settle answer).2.toOption.join.map Outcome.notices =
      some [.revived 0 "Bo", .downed 0 "Bo", .downed 1 "Ann", .gameOver "Bo"] := by
    decide +kernel
  clear_value s
  obtain ⟨outcome, ho⟩ : ∃ outcome, ((d.move s).settle answer).2 = .ok (some outcome) :=
    exists_outcome_of_isSome (by simpa using congrArg Option.isSome hoccurs)
  rw [ho] at hoccurs
  have hnotices : outcome.notices =
      [.revived 0 "Bo", .downed 0 "Bo", .downed 1 "Ann", .gameOver "Bo"] := Option.some.inj hoccurs
  obtain ⟨opened, line, hstarts, hnames, htally, hover⟩ :=
    tally_of_completed s d answer hvital hmain ho
  obtain ⟨-, hhero, -⟩ := hover "Bo" (by simp [hnotices])
  exact ⟨hvital, hmain, outcome, opened, line, ho, hnotices, hstarts, hnames, htally, hhero⟩

end Session

end Tabletop
