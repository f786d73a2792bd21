import Tabletop.Console.Host
import Tabletop.Proofs.Document.Accepting
import Tabletop.Proofs.Document.Parsing

/-!
# Replies

Which answers of the service the narrator speaks by. What a message is, is said here of documents
alone: its fields, and blocks in order, of which those of text have their texts and all others
nothing. The main result says of every answer, whatever its status and body, that the narrator
speaks exactly when the answer is good and holds a message with a block of text that is not blank,
and how it fails otherwise.
-/

namespace Tabletop

open Document (Has Intact Only Plain)

namespace Messages

/-! ## Messages as documents -/

/-- A block of a message, with its text if it is a block of text. Whatever else the block has must
be intact. -/
inductive IsBlock : Document → Option String → Prop
  | text {fields : List (String × Document)} {s : String} :
    Intact blockDepth (.object fields) → Only fields "type" (.text "text") →
      Only fields "text" (.text s) → IsBlock (.object fields) (some s)
  | other {fields : List (String × Document)} {kind : String} :
    Intact blockDepth (.object fields) → Only fields "type" (.text kind) → kind ≠ "text" →
      IsBlock (.object fields) none
  | textItems (s : String) : IsBlock (.array [.text "text", .text s]) (some s)
  | otherItems {kind : String} : kind ≠ "text" → IsBlock (.array [.text kind]) none

/-- The names of the counts of tokens. -/
def countNames : List String := ["input_tokens", "output_tokens"]

/-- The counts of tokens, of at most 64 bits each. -/
structure IsUsage (d : Document) (usage : Nat × Nat) : Prop where
  input : Has countNames d "input_tokens" (some (.nat usage.1))
  output : Has countNames d "output_tokens" (some (.nat usage.2))
  input_lt : usage.1 < UInt64.size
  output_lt : usage.2 < UInt64.size

/-- The names of the parts of a message that matter. -/
def partNames : List String := ["id", "model", "content", "stop_reason", "usage"]

/-- A message. The reason for its end may be missing. -/
structure IsMessage (d : Document) (m : RawMessage) : Prop where
  id : Has partNames d "id" (some (.text m.id))
  model : Has partNames d "model" (some (.text m.model))
  content : ∃ items, Has partNames d "content" (some (.array items)) ∧
    List.Forall₂ IsBlock items m.blocks
  stop : Has partNames d "stop_reason" (some (.textOrNull m.stop)) ∨
    Has partNames d "stop_reason" none ∧ m.stop = none
  usage : ∃ u, Has partNames d "usage" (some u) ∧ IsUsage u m.usage

/-- The body of an answer holds a message. -/
def Holds (body : String) (m : RawMessage) : Prop :=
  ∃ d, Document.parse? body = some d ∧ IsMessage d m

/-- The texts of the blocks of text, in order. -/
def RawMessage.texts (m : RawMessage) : List String := m.blocks.filterMap fun block => block

/-! ## Reading messages -/

open Document

/-- A name that is read alone stands once. -/
private theorem required?_text?_iff {fields : List (String × Document)} {key s : String} :
    (∃ r, keyed? [key] (.object fields) = some r ∧ r.required? key text? = some s) ↔
      Only fields key (.text s) := by
  constructor
  · rintro ⟨r, hr, hs⟩
    obtain ⟨e, he, ht⟩ := (required?_eq_some_iff (d := .object fields) hr List.mem_cons_self).mp hs
    cases text?_eq_some_iff.mp ht
    cases he with
    | only h => exact h
  · intro h
    obtain ⟨r, hr⟩ := exists_record? (d := .object fields) (List.cons_ne_nil key [])
      fun name hname => ⟨_, .only (List.mem_singleton.mp hname ▸ h)⟩
    exact ⟨r, hr, (required?_eq_some_iff hr List.mem_cons_self).mpr ⟨_, .only h, rfl⟩⟩

/-- The reader of blocks accepts blocks. -/
theorem blockText?_eq_some_iff {d : Document} {block : Option String} :
    blockText? d = some block ↔ IsBlock d block := by
  have hsettles : (∃ e, d.settle? blockDepth = some e) ↔ Intact blockDepth d := by
    rw [← isSome_settle?_iff, Option.isSome_iff_exists]
  simp only [blockText?, Option.bind_eq_bind, Option.bind_eq_some_iff]
  constructor
  · rintro ⟨e, he, h⟩
    have hintact := hsettles.mp ⟨e, he⟩
    split at h
    · next fields =>
      simp only [Option.bind_eq_some_iff] at h
      obtain ⟨r, hr, kind, hkind, h⟩ := h
      have htype := required?_text?_iff.mp ⟨r, hr, hkind⟩
      split at h
      · simp only [Option.bind_eq_some_iff] at h
        obtain ⟨r, hr, s, hs, h⟩ := h
        cases h
        exact .text hintact htype (required?_text?_iff.mp ⟨r, hr, hs⟩)
      · next hne =>
        cases h
        exact .other hintact htype hne
    · cases h
      exact .textItems _
    · split at h
      · cases h
      · next hne =>
        cases h
        exact .otherItems hne
    · cases h
  · intro h
    cases h with
    | text hintact htype htext =>
      obtain ⟨e, he⟩ := hsettles.mpr hintact
      obtain ⟨r, hr, hkind⟩ := required?_text?_iff.mpr htype
      obtain ⟨r', hr', hs⟩ := required?_text?_iff.mpr htext
      simp only [he, hr, hkind, hr', hs, Option.bind_some]
      exact ⟨e, rfl, rfl⟩
    | other hintact htype hne =>
      obtain ⟨e, he⟩ := hsettles.mpr hintact
      obtain ⟨r, hr, hkind⟩ := required?_text?_iff.mpr htype
      simp only [he, hr, hkind, Option.bind_some]
      exact ⟨e, rfl, rfl⟩
    | textItems s => exact ⟨_, rfl, rfl⟩
    | otherItems hne => exact ⟨_, rfl, by simp [hne]⟩

/-- The reader of counts accepts counts. -/
theorem usage?_eq_some_iff {d : Document} {usage : Nat × Nat} :
    usage? d = some usage ↔ IsUsage d usage := by
  simp only [usage?, Option.bind_eq_bind, Option.bind_eq_some_iff]
  have hinput : "input_tokens" ∈ countNames := by decide
  have houtput : "output_tokens" ∈ countNames := by decide
  constructor
  · rintro ⟨r, hr, input, hi, output, ho, h⟩
    cases h
    obtain ⟨_, hhas, hi⟩ := (required?_eq_some_iff hr hinput).mp hi
    obtain ⟨_, hhas', ho⟩ := (required?_eq_some_iff hr houtput).mp ho
    obtain ⟨rfl, hilt⟩ := count?_eq_some_iff.mp hi
    obtain ⟨rfl, holt⟩ := count?_eq_some_iff.mp ho
    exact ⟨hhas, hhas', hilt, holt⟩
  · intro h
    have hall : ∀ key ∈ countNames, ∃ v, Has countNames d key v := by
      simp only [countNames, List.forall_mem_cons]
      exact ⟨⟨_, h.input⟩, ⟨_, h.output⟩, List.forall_mem_nil _⟩
    obtain ⟨r, hr⟩ := exists_record? (List.cons_ne_nil _ _) hall
    exact ⟨r, hr, _, (required?_eq_some_iff hr hinput).mpr
        ⟨_, h.input, count?_eq_some_iff.mpr ⟨rfl, h.input_lt⟩⟩, _,
      (required?_eq_some_iff hr houtput).mpr
        ⟨_, h.output, count?_eq_some_iff.mpr ⟨rfl, h.output_lt⟩⟩, rfl⟩

/-- The reader of messages accepts messages. -/
theorem rawMessage?_eq_some_iff {d : Document} {m : RawMessage} :
    rawMessage? d = some m ↔ IsMessage d m := by
  simp only [rawMessage?, Option.bind_eq_bind, Option.bind_eq_some_iff]
  have hid : "id" ∈ partNames := by decide
  have hmodel : "model" ∈ partNames := by decide
  have hcontent : "content" ∈ partNames := by decide
  have hstop : "stop_reason" ∈ partNames := by decide
  have husage : "usage" ∈ partNames := by decide
  constructor
  · rintro ⟨r, hr, id, hi, model, hm, blocks, hb, stop, hs, usage, hu, h⟩
    cases h
    obtain ⟨_, hhasId, hi⟩ := (required?_eq_some_iff hr hid).mp hi
    obtain ⟨_, hhasModel, hm⟩ := (required?_eq_some_iff hr hmodel).mp hm
    obtain ⟨_, hhasContent, hb⟩ := (required?_eq_some_iff hr hcontent).mp hb
    obtain ⟨u, hhasUsage, hu⟩ := (required?_eq_some_iff hr husage).mp hu
    obtain ⟨items, rfl, hblocks⟩ := listOf?_eq_some_iff.mp hb
    cases text?_eq_some_iff.mp hi
    cases text?_eq_some_iff.mp hm
    refine ⟨hhasId, hhasModel, ⟨items, hhasContent,
      hblocks.imp fun _ _ => blockText?_eq_some_iff.mp⟩,
      ?_, u, hhasUsage, usage?_eq_some_iff.mp hu⟩
    rcases (withDefault?_eq_some_iff hr hstop).mp hs with ⟨_, hhasStop, hs⟩ | ⟨hnone, rfl⟩
    · cases orNull?_text?_eq_some_iff.mp hs
      exact .inl hhasStop
    · exact .inr ⟨hnone, rfl⟩
  · intro h
    obtain ⟨items, hhasContent, hb⟩ := h.content
    obtain ⟨u, hhasUsage, hu⟩ := h.usage
    have hall : ∀ key ∈ partNames, ∃ v, Has partNames d key v := by
      simp only [partNames, List.forall_mem_cons]
      refine ⟨⟨_, h.id⟩, ⟨_, h.model⟩, ⟨_, hhasContent⟩, ?_, ⟨_, hhasUsage⟩, List.forall_mem_nil _⟩
      exact h.stop.elim (fun hs => ⟨_, hs⟩) fun hs => ⟨_, hs.1⟩
    obtain ⟨r, hr⟩ := exists_record? (List.cons_ne_nil _ _) hall
    refine ⟨r, hr, _, (required?_eq_some_iff hr hid).mpr ⟨_, h.id, rfl⟩, _,
      (required?_eq_some_iff hr hmodel).mpr ⟨_, h.model, rfl⟩, _,
      (required?_eq_some_iff hr hcontent).mpr ⟨_, hhasContent, listOf?_eq_some_iff.mpr
        ⟨items, rfl, hb.imp fun _ _ => blockText?_eq_some_iff.mpr⟩⟩, _,
      (withDefault?_eq_some_iff hr hstop).mpr ?_, _,
      (required?_eq_some_iff hr husage).mpr ⟨u, hhasUsage, usage?_eq_some_iff.mpr hu⟩, rfl⟩
    exact h.stop.imp (fun hs => ⟨_, hs, orNull?_text?_eq_some_iff.mpr rfl⟩)
      fun hs => ⟨hs.1, hs.2.symm⟩

/-- A body holds the message that is read from it. -/
theorem holds_iff {body : String} {m : RawMessage} :
    Holds body m ↔ (parse? body).bind rawMessage? = some m := by
  simp only [Holds, Option.bind_eq_some_iff, rawMessage?_eq_some_iff]

/-- A message that is written out is held by what is written. -/
theorem IsMessage.holds_indented {d : Document} {m : RawMessage} (h : IsMessage d m)
    (hd : Plain d) : Holds d.indented m :=
  ⟨d, parse?_indented hd, h⟩

/-- A body holds one message at most. -/
theorem Holds.unique {body : String} {m m' : RawMessage} (h : Holds body m) (h' : Holds body m') :
    m = m' :=
  Option.some.inj ((holds_iff.mp h).symm.trans (holds_iff.mp h'))

end Messages

/-! ## What the narrator says -/

open Messages

namespace Narration

/-- What becomes of an answer of the service. -/
inductive Heard (status : Nat) (body : String) : Except NarratorError String → Prop
  | refused : ¬(200 ≤ status ∧ status < 300) →
    Heard status body (.error (.service (.api status body)))
  | unreadable : 200 ≤ status ∧ status < 300 → (∀ m, ¬Holds body m) →
    Heard status body (.error (.service .unreadable))
  | wordless {m : RawMessage} : 200 ≤ status ∧ status < 300 → Holds body m → m.texts = [] →
    Heard status body (.error (.service .noText))
  | blank {m : RawMessage} : 200 ≤ status ∧ status < 300 → Holds body m → m.texts ≠ [] →
    Text.isAllBlank (String.join m.texts) = true → Heard status body (.error .empty)
  | spoken {m : RawMessage} : 200 ≤ status ∧ status < 300 → Holds body m → m.texts ≠ [] →
    Text.isAllBlank (String.join m.texts) = false →
      Heard status body (.ok (String.join m.texts))

variable {status : Nat} {body : String} {r : Except NarratorError String}

private theorem readMessage_of_holds {m : RawMessage} (h : Holds body m) :
    readMessage body = if m.texts = [] then .error .noText else
      .ok ⟨m.id, m.model, String.join m.texts, .ofName m.stop, m.usage.1, m.usage.2⟩ := by
  simp only [readMessage, holds_iff.mp h]
  split
  · next hnone => exact (if_pos hnone).symm
  · next hsome => exact (if_neg hsome).symm

/-- Every answer comes to one of these. -/
theorem heard_ofResponse (status : Nat) (body : String) :
    Heard status body (ofResponse (.answered status body)) := by
  have hsuccess : Response.isSuccess status = true ↔ 200 ≤ status ∧ status < 300 := by
    simp [Response.isSuccess]
  by_cases hgood : 200 ≤ status ∧ status < 300
  · simp only [ofResponse, Messages.ofResponse, if_pos (hsuccess.mpr hgood)]
    cases hread : (Document.parse? body).bind rawMessage? with
    | none =>
      simp only [readMessage, hread, ofMessage]
      refine .unreadable hgood fun m hm => ?_
      rw [holds_iff.mp hm] at hread
      cases hread
    | some m =>
      have hm := holds_iff.mpr hread
      rw [readMessage_of_holds hm]
      by_cases htexts : m.texts = []
      · rw [if_pos htexts]
        exact .wordless hgood hm htexts
      · rw [if_neg htexts]
        simp only [ofMessage]
        split
        · next hblank => exact .blank hgood hm htexts hblank
        · next hspoken => exact .spoken hgood hm htexts (Bool.not_eq_true _ ▸ hspoken)
  · simp only [ofResponse, Messages.ofResponse, if_neg fun h => hgood (hsuccess.mp h)]
    exact .refused hgood

/-- The narrator speaks by a message with words in it. -/
private theorem Heard.eq_ok_iff (h : Heard status body r) (text : String) :
    r = .ok text ↔ (200 ≤ status ∧ status < 300) ∧ ∃ m, Holds body m ∧
      m.texts ≠ [] ∧ text = String.join m.texts ∧ Text.isAllBlank text = false := by
  constructor
  · rintro rfl
    cases h with
    | spoken hgood hm htexts hspoken => exact ⟨hgood, _, hm, htexts, rfl, hspoken⟩
  · rintro ⟨hgood, m, hm, htexts, rfl, hspoken⟩
    cases h with
    | refused hbad => exact absurd hgood hbad
    | unreadable _ hnone => exact absurd hm (hnone m)
    | wordless _ hm' hnone => exact absurd (hm.unique hm' ▸ hnone) htexts
    | blank _ hm' _ hblank =>
      cases hm.unique hm'
      rw [hblank] at hspoken
      cases hspoken
    | spoken _ hm' => rw [hm.unique hm']

/-- A bad status is told with all that came with it. -/
private theorem Heard.eq_api_iff (h : Heard status body r) :
    r = .error (.service (.api status body)) ↔ ¬(200 ≤ status ∧ status < 300) := by
  cases h with
  | refused hbad => exact ⟨fun _ => hbad, fun _ => rfl⟩
  | unreadable hgood | wordless hgood | blank hgood | spoken hgood =>
    exact ⟨nofun, fun hbad => absurd hgood hbad⟩

/-- A body without words in it cannot be read as a reply. -/
private theorem Heard.kind_parse_iff (h : Heard status body r) :
    (∃ e, r = .error e ∧ e.kind = "Parse") ↔
      (200 ≤ status ∧ status < 300) ∧ ∀ m, Holds body m → m.texts = [] := by
  constructor
  · rintro ⟨e, rfl, hkind⟩
    cases h with
    | refused => exact absurd (show "Api" = "Parse" from hkind) (by decide)
    | unreadable hgood hnone => exact ⟨hgood, fun m hm => absurd hm (hnone m)⟩
    | wordless hgood hm hnone => exact ⟨hgood, fun m' hm' => hm.unique hm' ▸ hnone⟩
    | blank => exact absurd hkind (by decide)
  · rintro ⟨hgood, hnone⟩
    cases h with
    | refused hbad => exact absurd hgood hbad
    | unreadable => exact ⟨_, rfl, rfl⟩
    | wordless => exact ⟨_, rfl, rfl⟩
    | blank _ hm htexts | spoken _ hm htexts => exact absurd (hnone _ hm) htexts

/-- Blank words are none. -/
private theorem Heard.eq_empty_iff (h : Heard status body r) :
    r = .error .empty ↔ (200 ≤ status ∧ status < 300) ∧ ∃ m, Holds body m ∧
      m.texts ≠ [] ∧ Text.isAllBlank (String.join m.texts) = true := by
  constructor
  · rintro rfl
    cases h with
    | blank hgood hm htexts hblank => exact ⟨hgood, _, hm, htexts, hblank⟩
  · rintro ⟨hgood, m, hm, htexts, hblank⟩
    cases h with
    | refused hbad => exact absurd hgood hbad
    | unreadable _ hnone => exact absurd hm (hnone m)
    | wordless _ hm' hnone => exact absurd (hm.unique hm' ▸ hnone) htexts
    | blank => rfl
    | spoken _ hm' _ hspoken =>
      cases hm.unique hm'
      rw [hblank] at hspoken
      cases hspoken

end Narration

/-- An answer of the service, whatever its status and body, makes the narrator speak exactly when
the status is good and the body holds a message with a block of text, and the texts in it are not
all blank; the narrator then says the texts one after another, whatever stands between them. If not,
the narrator fails: with status and body when the status is not good, for want of words when the
body holds no message or one without a block of text, and as empty when the texts are blank. -/
theorem Access.narrate_of_answered {σ : Type} (a : Access) (host : Host (StateM σ))
    (settings : NarratorSettings) (n : Narration) {post : Post} {status delay : Nat}
    {body : String} {w w' : σ} (hpost : a.client.post (settings.request n) = .ok post)
    (hanswer : (host.askNarrator post).run w = ((delay, .answered status body), w')) :
    ∃ r, (a.narrate host settings n).run w = (some (delay, r), w') ∧
      (∀ text, r = .ok text ↔ (200 ≤ status ∧ status < 300) ∧ ∃ m, Holds body m ∧
        m.texts ≠ [] ∧ text = String.join m.texts ∧ Text.isAllBlank text = false) ∧
      (r = .error (.service (.api status body)) ↔ ¬(200 ≤ status ∧ status < 300)) ∧
      ((∃ e, r = .error e ∧ e.kind = "Parse") ↔
        (200 ≤ status ∧ status < 300) ∧ ∀ m, Holds body m → m.texts = []) ∧
      (r = .error .empty ↔ (200 ≤ status ∧ status < 300) ∧ ∃ m, Holds body m ∧
        m.texts ≠ [] ∧ Text.isAllBlank (String.join m.texts) = true) := by
  have hheard := Narration.heard_ofResponse status body
  refine ⟨Narration.ofResponse (.answered status body), ?_, hheard.eq_ok_iff, hheard.eq_api_iff,
    hheard.kind_parse_iff, hheard.eq_empty_iff⟩
  simp only [narrate, hpost]
  rw [StateT.run_bind, hanswer]
  rfl

/-- The narrator's words come in two blocks, behind a thought and with the use of a tool between
them. -/
theorem Access.narrate_of_answered_blocks :
    let thought : Document := .object [("type", .text "thinking"), ("thinking", .text "Hm.")]
    let roll : Document := .object [("type", .text "tool_use"), ("input", .array [.nat 20])]
    let words (s : String) : Document := .object [("type", .text "text"), ("text", .text s)]
    let reply : Document := .object [("id", .text "msg"), ("model", .text "m"),
      ("content", .array [thought, words "The door ", roll, words "creaks."]),
      ("usage", .object [("input_tokens", .nat 10), ("output_tokens", .nat 4)])]
    let host : Host (StateM Unit) :=
      { print := fun _ => pure ()
        askNarrator := fun _ => pure (7, .answered 200 reply.indented)
        askPainter := fun _ => pure (0, .overdue)
        readFile := fun _ => pure (.ok "")
        writeFile := fun _ _ => pure (.ok ())
        listFolder := fun _ => pure (.ok [])
        stamp := pure "" }
    let a : Access := ⟨.ofKey "key", none⟩
    let n : Narration := ⟨"You narrate.", [], "I open the door."⟩
    (a.narrate host .usual n).run () = (some (7, .ok "The door creaks."), ()) := by
  intro thought roll words reply host a n
  have hpost : a.client.post (NarratorSettings.usual.request n) = .ok _ := if_pos (by decide)
  obtain ⟨r, hrun, hok, -⟩ := narrate_of_answered a host .usual n (w := ()) hpost rfl
  have hmessage : IsMessage reply
      ⟨"msg", "m", [none, some "The door ", none, some "creaks."], none, (10, 4)⟩ :=
    rawMessage?_eq_some_iff.mp (by decide +kernel)
  have hplain : Plain reply := by
    simp [reply, thought, roll, words, UInt64.size]
  have hr : r = .ok "The door creaks." :=
    (hok _).mpr ⟨by decide, _, hmessage.holds_indented hplain, by decide, by decide, by decide⟩
  rw [hrun, hr]

end Tabletop
