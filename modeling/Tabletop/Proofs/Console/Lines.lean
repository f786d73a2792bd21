import Tabletop.Console.Stage

/-!
# Lines and actions

Every line of a game is handled, up to the first that ends it, whatever has come of the lines
before. Those of them that are neither blank nor commands are what the characters do. To tell what
is done, a game is played once more with every deed put down (`recording`): `submitted_run` says
that this changes nothing and what is on the record.
-/

namespace Tabletop

/-! ## Commands -/

/-- What a deed is of the player's own words. -/
def Deed.action? : Deed → Option String
  | .submit text => some text
  | _ => none

namespace Command

/-- What the command has the character do. -/
def action? : Command → Option String
  | .action text => some text
  | _ => none

/-- The command neither ends the game nor has the character do anything. -/
structure Aside (c : Command) : Prop where
  ne_quit : c ≠ .quit
  action?_eq_none : c.action? = none

variable {α : Type} {c : Command}

private theorem aside_pure (h : c.Aside) : ∀ d ∈ (pure c : Option Command), d.Aside := by
  intro d hd
  cases hd
  exact h

private theorem aside_bind {x : Option α} {f : α → Option Command} (h : ∀ a, ∀ d ∈ f a, d.Aside) :
    ∀ d ∈ x >>= f, d.Aside := by
  intro d hd
  obtain ⟨a, -, ha⟩ := Option.bind_eq_some_iff.mp hd
  exact h a d ha

private theorem aside_orUsage {usage : String} {read : Option Command} (h : ∀ d ∈ read, d.Aside) :
    (orUsage usage read).Aside := by
  cases read with
  | none => exact ⟨nofun, rfl⟩
  | some d => exact h d rfl

/-- Two names alone end the game. -/
private theorem aside_ofName {name : String} (hquit : name ≠ "quit") (hexit : name ≠ "exit")
    (words : List String) : (ofName name words).Aside := by
  unfold ofName
  dsimp only
  split
  · exact absurd rfl hquit
  · exact absurd rfl hexit
  · exact ⟨nofun, rfl⟩
  · apply aside_orUsage
    cases words[0]? with
    | none => exact nofun
    | some path => exact aside_pure ⟨nofun, rfl⟩
  · exact ⟨nofun, rfl⟩
  · exact ⟨nofun, rfl⟩
  · exact ⟨nofun, rfl⟩
  · exact ⟨nofun, rfl⟩
  · exact aside_orUsage (aside_bind fun _ => aside_bind fun _ => aside_pure ⟨nofun, rfl⟩)
  · exact aside_orUsage
      (aside_bind fun _ => aside_bind fun _ => aside_bind fun _ => aside_pure ⟨nofun, rfl⟩)
  · exact aside_orUsage (aside_bind fun _ => aside_bind fun _ => aside_pure ⟨nofun, rfl⟩)
  · exact aside_orUsage
      (aside_bind fun _ => aside_bind fun _ => aside_bind fun _ => aside_pure ⟨nofun, rfl⟩)
  · exact aside_orUsage (aside_bind fun _ => aside_pure ⟨nofun, rfl⟩)
  · exact ⟨nofun, rfl⟩
  · exact ⟨nofun, rfl⟩

end Command

namespace Console

/-! ## Lines -/

/-- The line is a command to end the game. -/
def isFarewell (line : String) : Bool :=
  match (Text.trim line).toList with
  | '#' :: text =>
    let name := (Text.words (String.ofList text)).head?
    name == some "quit" || name == some "exit"
  | _ => false

/-- The lines before the first that ends the game. -/
def heeded (lines : List String) : List String := lines.takeWhile fun line => !isFarewell line

/-- The lines, without the blanks around them, that are neither empty nor begin as commands do. -/
def spoken (lines : List String) : List String :=
  (lines.map Text.trim).filter fun text => text ≠ "" && text.toList.head? ≠ some '#'

/-- What a line comes to. -/
inductive Reads (line : String) : Option Command → Prop
  | blank : Text.trim line = "" → Reads line none
  | farewell : isFarewell line = true → spoken [line] = [] → Reads line (some .quit)
  | aside {c : Command} : isFarewell line = false → spoken [line] = [] → c.Aside →
    Reads line (some c)
  | action : isFarewell line = false → spoken [line] = [Text.trim line] →
    Reads line (some (.action (Text.trim line)))

private theorem reads_ofText {line : String} {text : List Char}
    (h : (Text.trim line).toList = '#' :: text) :
    Reads line (some (Command.ofText (String.ofList text))) := by
  have hspoken : spoken [line] = [] := by simp [spoken, h]
  rw [Command.ofText]
  cases hwords : Text.words (String.ofList text) with
  | nil =>
    refine .aside ?_ hspoken ⟨nofun, rfl⟩
    simp [isFarewell, h, hwords]
  | cons name words =>
    have hfarewell : isFarewell line = (name == "quit" || name == "exit") := by
      simp [isFarewell, h, hwords]
    by_cases hquit : name = "quit"
    · subst hquit
      exact .farewell hfarewell hspoken
    · by_cases hexit : name = "exit"
      · subst hexit
        exact .farewell hfarewell hspoken
      · refine .aside ?_ hspoken (Command.aside_ofName hquit hexit words)
        rw [hfarewell, beq_false_of_ne hquit, beq_false_of_ne hexit]
        rfl

/-- Every line comes to one of these. -/
private theorem reads_ofLine? (line : String) : Reads line (Command.ofLine? line) := by
  rw [Command.ofLine?]
  split
  · next h => exact .blank (String.toList_eq_nil_iff.mp h)
  · next text h => exact reads_ofText h
  · next hnil hcommand =>
    rw [String.ofList_toList]
    have hne : Text.trim line ≠ "" := fun h => hnil (String.toList_eq_nil_iff.mpr h)
    have hhead : (Text.trim line).toList.head? ≠ some '#' := by
      intro h
      obtain ⟨text, htext⟩ := List.head?_eq_some_iff.mp h
      exact hcommand text htext
    refine .action ?_ ?_
    · unfold isFarewell
      split
      · next text h => exact absurd h (hcommand text)
      · rfl
    · simp [spoken, hne, hhead]

private theorem Reads.eq_quit_iff {line : String} {read : Option Command} (h : Reads line read) :
    read = some .quit ↔ isFarewell line = true := by
  cases h with
  | blank h => simp [isFarewell, h]
  | farewell h => simp [h]
  | aside h _ haside => simp [h, haside.ne_quit]
  | action h => simp [h]

private theorem Reads.spoken_eq {line : String} {read : Option Command} (h : Reads line read) :
    spoken [line] = (read.bind Command.action?).toList := by
  cases h with
  | blank h => simp [spoken, h]
  | farewell _ h => exact h
  | aside _ h haside => rw [h, Option.bind_some, haside.action?_eq_none, Option.toList_none]
  | action _ h => exact h

private theorem spoken_cons (line : String) (lines : List String) :
    spoken (line :: lines) = spoken [line] ++ spoken lines := by
  rw [spoken, ← List.singleton_append, List.map_append, List.filter_append]
  rfl

/-! ## Records -/

/-- Deeds in order, with what has come of each. -/
abbrev Record := List (Deed × Except SessionError (Option Outcome))

/-- The texts that have been submitted. -/
def submitted (record : Record) : List String := record.filterMap fun x => x.1.action?

/-- No deed has overflowed. -/
def Unbroken (record : Record) : Prop := ∀ x ∈ record, x.2 ≠ .error .overflow

/-- How a stretch of a game ends: with something left of the game, or with nothing after a deed that
has overflowed. -/
inductive Ends {α : Type} (record : Record) : Option α → Prop
  | left (a : α) : Unbroken record → Ends record (some a)
  | broken {before : Record} {d : Deed} :
    record = before ++ [(d, .error .overflow)] → Unbroken before → Ends record none

private theorem submitted_append (record more : Record) :
    submitted (record ++ more) = submitted record ++ submitted more := List.filterMap_append

private theorem unbroken_nil : Unbroken [] := nofun

private theorem Ends.append {α : Type} {record more : Record} {after : Option α}
    (hrecord : Unbroken record) (h : Ends more after) : Ends (record ++ more) after := by
  cases h with
  | left a hmore => exact .left a fun x hx => (List.mem_append.mp hx).elim (hrecord x) (hmore x)
  | @broken before d hlast hbefore =>
    have hmore : record ++ more = (record ++ before) ++ [(d, .error .overflow)] := by
      rw [hlast, List.append_assoc]
    exact .broken hmore fun x hx => (List.mem_append.mp hx).elim (hrecord x) (hbefore x)

section

variable {σ α β : Type}

/-- The world of a console, with a record beside it that nothing in the world touches. -/
def within (host : Host (StateM σ)) : Host (StateT Record (StateM σ)) where
  print line := liftM (host.print line)
  askNarrator post := liftM (host.askNarrator post)
  askPainter post := liftM (host.askPainter post)
  readFile path := liftM (host.readFile path)
  writeFile path text := liftM (host.writeFile path text)
  listFolder path := liftM (host.listFolder path)
  stamp := liftM host.stamp

/-- Every deed is done as before and put down. -/
def recording (player : Player (StateM σ)) : Player (StateT Record (StateM σ)) := fun c deed => do
  let (c, result) ← player c deed
  modify fun record => record ++ [(deed, result)]
  return (c, result)

/-- With a record beside the world the same is done as without, and what is put down on the record
has a property. -/
def Records (x : StateT Record (StateM σ) α) (y : StateM σ α) (p : α → Record → Prop) : Prop :=
  ∀ record w, ∃ new, (x.run record).run w = (((y.run w).1, record ++ new), (y.run w).2) ∧
    p (y.run w).1 new

private theorem Records.mono {x : StateT Record (StateM σ) α} {y : StateM σ α}
    {p q : α → Record → Prop} (h : Records x y p) (hpq : ∀ a new, p a new → q a new) :
    Records x y q := by
  intro record w
  obtain ⟨new, hrun, hp⟩ := h record w
  exact ⟨new, hrun, hpq _ _ hp⟩

private theorem Records.bind {x : StateT Record (StateM σ) α} {y : StateM σ α}
    {f : α → StateT Record (StateM σ) β} {g : α → StateM σ β} {p : α → Record → Prop}
    {q : β → Record → Prop} (h : Records x y p)
    (hf : ∀ a new, p a new → Records (f a) (g a) fun b more => q b (new ++ more)) :
    Records (x >>= f) (y >>= g) q := by
  intro record w
  obtain ⟨new, hrun, hp⟩ := h record w
  obtain ⟨more, hrest, hq⟩ := hf _ _ hp (record ++ new) (y.run w).2
  refine ⟨new ++ more, ?_, hq⟩
  rw [StateT.run_bind, StateT.run_bind, hrun]
  exact hrest.trans (by rw [List.append_assoc]; rfl)

private theorem records_pure {a : α} {p : α → Record → Prop} (h : p a []) :
    Records (pure a) (pure a : StateM σ α) p := by
  intro record w
  exact ⟨[], by rw [List.append_nil]; rfl, h⟩

/-- Nothing is put down while no deed is done. -/
private theorem records_bind {x : StateM σ α} {x' : StateT Record (StateM σ) α}
    {f : α → StateT Record (StateM σ) β} {g : α → StateM σ β} {q : β → Record → Prop}
    (hx : x' = liftM x) (hf : ∀ a, Records (f a) (g a) q) : Records (x' >>= f) (x >>= g) q := by
  have hlift : Records x' x fun _ new => new = [] := by
    intro record w
    refine ⟨[], ?_, rfl⟩
    rw [hx, List.append_nil]
    rfl
  refine hlift.bind ?_
  rintro a new rfl
  exact hf a

private theorem records_some {x : StateM σ α} {x' : StateT Record (StateM σ) α}
    (hx : x' = liftM x) :
    Records (some <$> x') (some <$> x) fun after new => new = [] ∧ Ends new after := by
  rw [map_eq_pure_bind, map_eq_pure_bind]
  exact records_bind hx fun a => records_pure ⟨rfl, .left a unbroken_nil⟩

private theorem records_player (player : Player (StateM σ)) (c : Console) (deed : Deed) :
    Records (recording player c deed) (player c deed) fun a new => new = [(deed, a.2)] :=
  fun _ _ => ⟨_, rfl, rfl⟩

/-! ## What is done without a deed -/

variable (host : Host (StateM σ)) (c : Console)

private theorem printAll_within (lines : List String) :
    printAll (within host) lines = liftM (printAll host lines) := by
  induction lines with
  | nil => rfl
  | cons line lines ih =>
    change ((within host).print line >>= fun _ => printAll (within host) lines) =
      liftM (host.print line >>= fun _ => printAll host lines)
    rw [ih, liftM_bind]
    rfl

private theorem announce_within : c.announce (within host) = liftM (c.announce host) := by
  unfold announce
  split
  · exact (liftM_pure _).symm
  · split
    · exact (liftM_pure _).symm
    · simp only [liftM_bind, liftM_pure]
      rfl

private theorem paint_within (access : Access) (description : String) :
    access.paint (within host) description = liftM (access.paint host description) := by
  unfold Access.paint
  split
  · simp only [liftM_bind, liftM_pure]
    rfl
  · exact (liftM_pure _).symm

private theorem foldlM_within {f : β → α → StateT Record (StateM σ) β} {g : β → α → StateM σ β}
    (h : ∀ b a, f b a = liftM (g b a)) (as : List α) (b : β) :
    as.foldlM f b = liftM (as.foldlM g b) := by
  induction as generalizing b with
  | nil => exact (liftM_pure _).symm
  | cons a as ih => simp only [List.foldlM_cons, liftM_bind, h, ih]

private theorem pause_within : c.pause (within host) = liftM (c.pause host) := by
  have hone (s : Studio) (request : Nat × String) :
      s.beginOne (c.cast (within host)).paint request =
        liftM (s.beginOne (c.cast host).paint request) := by
    have hpaint := paint_within host c.access request.2
    simp only [Studio.beginOne, liftM_bind, liftM_pure]
    exact congrArg (· >>= _) hpaint
  have hstudio := foldlM_within hone
  simp only [pause, Table.pause, Studio.pause, liftM_bind, liftM_pure]
  rw [hstudio]

private theorem save_within (path : String) :
    c.save (within host) path = liftM (c.save host path) := by
  unfold save
  simp only [liftM_bind]
  congr 1
  funext result
  cases result <;> rw [pause_within] <;> simp only [liftM_bind] <;> rfl

private theorem load_within (path : String) :
    c.load (within host) path = liftM (c.load host path) := by
  unfold load
  rw [pause_within, liftM_bind]
  congr 1
  funext paused
  have hload : loadSession (within host) paused.table.session path =
      liftM (loadSession host paused.table.session path) := by
    simp only [loadSession, liftM_bind, liftM_pure]
    rfl
  rw [hload, liftM_bind]
  congr 1
  funext result
  cases result with
  | error e =>
    simp only [liftM_bind, liftM_pure]
    rfl
  | ok s =>
    simp only [printAll_within, liftM_bind, liftM_pure]

private theorem change_within (result : Except SessionError Session)
    (lines : Session → List String) :
    c.change (within host) result lines = liftM (c.change host result lines) := by
  unfold change
  cases result with
  | error e =>
    simp only [liftM_bind, liftM_pure]
    rfl
  | ok s => simp only [printAll_within, liftM_bind, liftM_pure]

/-! ## Lines handled on a record -/

variable (player : Player (StateM σ))

private theorem records_report (deed : Deed) (refusal : SessionError → String)
    (idle : List String) :
    Records (c.report (within host) (recording player) deed refusal idle)
      (c.report host player deed refusal idle) fun after new =>
        (∃ result, new = [(deed, result)]) ∧ Ends new after := by
  have hleft {e : Except SessionError (Option Outcome)} (h : e ≠ .error .overflow) :
      Unbroken ([(deed, e)] ++ []) := by
    intro x hx
    cases List.mem_singleton.mp hx
    exact h
  refine (records_player player c deed).bind ?_
  rintro ⟨after, result⟩ new rfl
  dsimp only
  split
  · exact records_bind (printAll_within host _) fun _ =>
      records_pure ⟨⟨_, rfl⟩, .left after (hleft nofun)⟩
  · exact records_bind (printAll_within host _) fun _ =>
      records_pure ⟨⟨_, rfl⟩, .left after (hleft nofun)⟩
  · exact records_pure ⟨⟨_, rfl⟩, .broken (List.nil_append _).symm unbroken_nil⟩
  · next e hne =>
    refine records_bind rfl fun _ => records_pure ⟨⟨_, rfl⟩, .left after (hleft ?_)⟩
    intro h
    cases h
    exact hne rfl

private theorem records_answer (reply : Nat → Deed)
    (hreply : ∀ index, (reply index).action? = none) :
    Records (c.answer (within host) (recording player) reply) (c.answer host player reply)
      fun after new => submitted new = [] ∧ Ends new after := by
  unfold answer
  split
  · next index _ =>
    refine (records_report host c player _ _ _).mono ?_
    rintro after new ⟨⟨result, rfl⟩, hends⟩
    exact ⟨by simp [submitted, hreply], hends⟩
  · exact records_bind rfl fun _ => records_pure ⟨rfl, .left c unbroken_nil⟩

/-- A command has a text submitted only if it is an action, and then once. -/
private theorem records_perform (command : Command) :
    Records (c.perform (within host) (recording player) command) (c.perform host player command)
      fun after new => submitted new = command.action?.toList ∧ Ends new after := by
  have hsome {α : Type} {x : StateM σ α} {x' : StateT Record (StateM σ) α} (hx : x' = liftM x) :
      Records (some <$> x') (some <$> x) fun after new => submitted new = [] ∧ Ends new after :=
    (records_some hx).mono fun after new h => ⟨by rw [h.1]; rfl, h.2⟩
  have hquiet : Records (pure (some c)) (pure (some c) : StateM σ (Option Console))
      fun after new => submitted new = [] ∧ Ends new after :=
    records_pure ⟨rfl, .left c unbroken_nil⟩
  cases command with
  | action text =>
    refine records_bind rfl fun _ => (records_report host c player _ _ _).mono ?_
    rintro after new ⟨⟨result, rfl⟩, hends⟩
    exact ⟨rfl, hends⟩
  | useItem member item =>
    refine (records_report host c player _ _ _).mono ?_
    rintro after new ⟨⟨result, rfl⟩, hends⟩
    exact ⟨rfl, hends⟩
  | accept => exact records_answer host c player _ fun _ => rfl
  | decline => exact records_answer host c player _ fun _ => rfl
  | save path =>
    cases path with
    | some path => exact hsome (save_within host c path)
    | none =>
      refine records_bind (by simp only [newPath, liftM_bind, liftM_pure]; rfl) fun path => ?_
      have h := hsome (save_within host c path)
      rwa [map_eq_pure_bind, map_eq_pure_bind] at h
  | load path => exact hsome (load_within host c path)
  | saves =>
    refine records_bind rfl fun files => records_bind (printAll_within host _) fun _ => ?_
    have h := hsome (pause_within host c)
    rwa [map_eq_pure_bind, map_eq_pure_bind] at h
  | equip | unequip | give | act => exact hsome (change_within host c _ _)
  | status | help => exact records_bind (printAll_within host _) fun _ => hquiet
  | quit | malformed | unknown => exact records_bind rfl fun _ => hquiet

private theorem records_step (line : String) :
    Records (c.step (within host) (recording player) line) (c.step host player line)
      fun after new => submitted new = spoken [line] ∧ Ends new after ∧
        ∀ next goesOn, after = some (next, goesOn) → goesOn = !isFarewell line := by
  have hreads := reads_ofLine? line
  rw [step, step, hreads.spoken_eq]
  have hquit := hreads.eq_quit_iff
  generalize Command.ofLine? line = read at hquit ⊢
  cases read with
  | none =>
    have hnot : isFarewell line = false := by simpa using hquit
    refine records_pure ⟨rfl, .left _ unbroken_nil, fun next goesOn h => ?_⟩
    cases h
    rw [hnot]
    rfl
  | some command =>
    have hgoes : (command != .quit) = !isFarewell line := by
      rw [Bool.eq_iff_iff]
      simpa using not_congr hquit
    refine (records_perform host c player command).bind ?_
    rintro after new ⟨htexts, hends⟩
    refine records_pure ?_
    rw [List.append_nil]
    refine ⟨htexts, ?_, fun next goesOn h => ?_⟩
    · cases hends with
      | left a h => exact .left _ h
      | broken hlast h => exact .broken hlast h
    · obtain ⟨d, -, h⟩ := Option.map_eq_some_iff.mp h
      cases h
      exact hgoes

end

/-! ## Games -/

variable {σ : Type} (host : Host (StateM σ)) (player : Player (StateM σ)) (c : Console)

/-- What is put down of a game on lines: what is spoken in those that are handled, which are all
that are heeded if the game does not break off. -/
private def Accounts (lines : List String) (ended : Option Console) (new : Record) : Prop :=
  ∃ handled, handled <+: heeded lines ∧ submitted new = spoken handled ∧
    (ended.isSome → handled = heeded lines) ∧ Ends new ended

private theorem heeded_cons_of_farewell {line : String} (h : isFarewell line = true)
    (lines : List String) : heeded (line :: lines) = [] := by
  rw [heeded, List.takeWhile_cons, h]
  rfl

private theorem heeded_cons {line : String} (h : isFarewell line = false) (lines : List String) :
    heeded (line :: lines) = line :: heeded lines := by
  rw [heeded, List.takeWhile_cons, h]
  rfl

private theorem spoken_of_farewell {line : String} (h : isFarewell line = true) :
    spoken [line] = [] := by
  have hreads := reads_ofLine? line
  rw [hreads.spoken_eq, hreads.eq_quit_iff.mpr h]
  rfl

/-- After a line that does not end the game the next one is handled. -/
private theorem Accounts.cons {line : String} {lines : List String} {ended : Option Console}
    {new more : Record} (hline : isFarewell line = false) (htexts : submitted new = spoken [line])
    (hnew : Unbroken new) (h : Accounts lines ended more) :
    Accounts (line :: lines) ended (new ++ more) := by
  obtain ⟨handled, hprefix, hmore, hall, hends⟩ := h
  refine ⟨line :: handled, ?_, ?_, fun hleft => ?_, hends.append hnew⟩
  · rw [heeded_cons hline]
    exact List.cons_prefix_cons.mpr ⟨rfl, hprefix⟩
  · rw [submitted_append, htexts, hmore, ← spoken_cons]
  · rw [heeded_cons hline, hall hleft]

/-- A line that breaks the game off is the last that is handled. -/
private theorem accounts_of_broken {line : String} {new : Record} (lines : List String)
    (htexts : submitted new = spoken [line]) (h : Ends new (none : Option Console)) :
    Accounts (line :: lines) none new := by
  cases hline : isFarewell line with
  | true =>
    refine ⟨[], List.nil_prefix, ?_, nofun, h⟩
    rw [htexts, spoken_of_farewell hline]
    rfl
  | false =>
    refine ⟨[line], ?_, htexts, nofun, h⟩
    rw [heeded_cons hline]
    exact List.cons_prefix_cons.mpr ⟨rfl, List.nil_prefix⟩

private theorem records_run (lines : List String) :
    Records (c.run (within host) (recording player) lines) (c.run host player lines)
      (Accounts lines) := by
  induction lines generalizing c with
  | nil =>
    exact records_bind (announce_within host c) fun after =>
      records_pure ⟨[], List.nil_prefix, rfl, fun _ => rfl, .left after unbroken_nil⟩
  | cons line lines ih =>
    refine records_bind (announce_within host c) fun announced => ?_
    refine (records_step host announced player line).bind ?_
    rintro after new ⟨htexts, hends, hgoes⟩
    rcases after with _ | ⟨next, goesOn⟩
    · refine records_pure ?_
      rw [List.append_nil]
      cases hends with
      | broken hlast hbefore => exact accounts_of_broken lines htexts (.broken hlast hbefore)
    · have hnew : Unbroken new := by
        cases hends with
        | left a h => exact h
      have hline := hgoes next goesOn rfl
      cases goesOn with
      | true =>
        have hline : isFarewell line = false := by simpa using hline
        exact (ih next).mono fun ended more h => h.cons hline htexts hnew
      | false =>
        have hline : isFarewell line = true := by simpa using hline
        refine records_pure ⟨[], List.nil_prefix, ?_, fun _ => ?_, ?_⟩
        · rw [List.append_nil, htexts, spoken_of_farewell hline]
          rfl
        · exact (heeded_cons_of_farewell hline lines).symm
        · rw [List.append_nil]
          exact .left next hnew

/-- Nothing but deeds asks the narrator. -/
private theorem run_askNarrator (ask : Post → StateM σ (Nat × Response)) (lines : List String) :
    c.run { host with askNarrator := ask } player lines = c.run host player lines := by
  induction lines generalizing c with
  | nil => rfl
  | cons line lines ih =>
    simp only [run, ih]
    rfl

/-- Whatever the services answer and whatever fails, a game has what is spoken in its lines
submitted: the lines before the first that ends the game, without those that are blank or commands
and without the blanks around them, each once and in order. None of them begins as a command does.
That holds of the whole game unless a deed overflows; the game breaks off with the first that does,
and what is spoken in the lines up to there has been submitted. Putting the deeds down changes
nothing, each is done by one move of the session, and nothing else in a game asks the narrator. -/
theorem submitted_run (lines : List String) :
    (∀ record w, ∃ new handled,
      ((c.run (within host) (recording (play host)) lines).run record).run w =
          ((((c.run host (play host) lines).run w).1, record ++ new),
            ((c.run host (play host) lines).run w).2) ∧
        handled <+: heeded lines ∧ submitted new = spoken handled ∧
        (((c.run host (play host) lines).run w).1.isSome → handled = heeded lines) ∧
        Ends new ((c.run host (play host) lines).run w).1) ∧
      (∀ text ∈ spoken lines, text.toList.head? ≠ some '#') ∧
      (∀ text, play host c (.submit text) = (do
        let (table, result) ← c.table.play (c.cast host) fun s => s.submit text
        return ({ c with table }, result))) ∧
      ∀ (player : Player (StateM σ)) (ask : Post → StateM σ (Nat × Response)),
        c.run { host with askNarrator := ask } player lines = c.run host player lines := by
  refine ⟨fun record w => ?_, ?_, fun _ => rfl,
    fun player ask => run_askNarrator host player c ask lines⟩
  · obtain ⟨new, hrun, handled, hprefix, htexts, hall, hends⟩ :=
      records_run host (play host) c lines record w
    exact ⟨new, handled, hrun, hprefix, htexts, hall, hends⟩
  · intro text htext
    have hfilter := (List.mem_filter.mp htext).2
    simp only [Bool.and_eq_true, decide_eq_true_eq] at hfilter
    exact hfilter.2

/-- A game whose only member, strong and hurt, has rested as often as can be counted breaks off with
the first line that is spoken, and the second one is never submitted. -/
theorem submitted_run_of_greatest_counter :
    let bo := { Character.bare "Bo" "Elf" "Bard" 8 with
      stats := { AbilityScores.average with strength := 14 }
      currentHp := 5
      regenCounter := 4294967295 }
    let s := { Session.start .usual (.ofWords [7]) with roster := ⟨[bo], 0, 5⟩ }
    let access : Access := ⟨.ofKey "key", none⟩
    let c : Console := ⟨.ofSession s access.services, access, none⟩
    let stage := Stage.start [Stage.said "Silence.", Stage.said "Silence."] [] (.ofList [] [])
    let lines := ["Hello", "#status", "I wait"]
    let played := ((c.run (within Stage.host) (recording (play Stage.host)) lines).run []).run stage
    spoken (heeded lines) = ["Hello", "I wait"] ∧ submitted played.1.2 = ["Hello"] ∧
      played.1.1.isNone ∧ played.2.printed = ["[PROCESSING]"] ∧ played.2.asked.length = 0 := by
  decide +kernel

example : spoken (heeded ["  Hello. ", "#act 9", "", "#nonsense", "I wait", " # exit now", "Go"]) =
    ["Hello.", "I wait"] := by
  decide

end Console

end Tabletop
