import Tabletop.Proofs.Save.Sheets
import Tabletop.Save.Game

/-!
# Saved games read back

The text of a saved game whose characters have vitals that agree is read as that game: characters,
log and campaign are found in the settled document, whatever its order.
-/

namespace Tabletop

open Document (Conveys)

/-! ## The log -/

namespace Chronicle

private theorem lookup_voiceNames (v : Voice) : voiceNames.lookup v.name = some v := by
  cases v <;> rfl

private theorem lookup_statusNames (s : InvitationStatus) :
    statusNames.lookup s.name = some s := by
  cases s <;> rfl

private theorem conveys_ofInvitation (depth : Nat) (i : Invitation) :
    Conveys (depth + 1) (ofInvitation i) invitation? i := by
  have htext := Conveys.text depth
  have hstatus := Conveys.named depth (lookup_statusNames i.status)
  refine .record (by simp) ?_ fun r hr => ?_
  · simp only [List.forall_mem_cons]
    exact ⟨(htext _).sound, (htext _).sound, (htext _).sound, (htext _).sound, hstatus.sound,
      List.forall_mem_nil _⟩
  · rw [hr.required? rfl (htext i.name), hr.required? rfl (htext i.race),
      hr.required? rfl (htext i.calling), hr.required? rfl (htext i.gender),
      hr.required? rfl hstatus]
    rfl

private theorem conveys_ofEvent (depth : Nat) (e : Event) :
    Conveys (depth + 2) (ofEvent e) event? e := by
  obtain ⟨voice, text, invitation⟩ := e
  have hvoice := Conveys.named (depth + 1) (lookup_voiceNames voice)
  have htext := Conveys.text (depth + 1) text
  cases invitation with
  | none =>
    refine .record (by simp) ?_ fun r hr => ?_
    · simp only [List.forall_mem_cons]
      exact ⟨hvoice.sound, htext.sound, List.forall_mem_nil _⟩
    · rw [hr.required? rfl hvoice, hr.required? rfl htext, hr.withDefault?_absent rfl]
      rfl
  | some i =>
    have hinvitation := (conveys_ofInvitation depth i).orNull rfl
    refine .record (by simp) ?_ fun r hr => ?_
    · simp only [List.forall_mem_cons]
      exact ⟨hvoice.sound, htext.sound, hinvitation.sound, List.forall_mem_nil _⟩
    · rw [hr.required? rfl hvoice, hr.required? rfl htext, hr.withDefault? rfl hinvitation]
      rfl

/-- A log is read back with its invitations. -/
theorem conveys_ofLog (depth : Nat) (log : Log) : Conveys (depth + 3) (ofLog log) log? log :=
  .list fun e _ => conveys_ofEvent depth e

end Chronicle

/-! ## Games -/

namespace SavedGame

variable {g : SavedGame}

private theorem lookup_campaignNames (c : Campaign) : campaignNames.lookup c.id = some c := by
  cases c <;> rfl

section

variable {α : Type} {depth : Nat} {fields out : List (String × Document)} {key : String}
  {d : Document} {read : Document → Option α} {a : α}

/-- A field in which something is read that is not read in null is there. -/
theorem not_lacks (hfield : Document.fieldOf? out key = some d) (hread : read d = some a)
    (hnull : read .null = none) : ¬ lacks out key = true := by
  unfold lacks
  rw [hfield]
  split
  · next hnone => cases hnone
  · next hnone =>
    cases hnone
    rw [hnull] at hread
    cases hread
  · exact Bool.false_ne_true

private theorem not_lacks_of_conveys
    (hr : Document.Record.Holds ⟨Document.fieldOf? out⟩ depth fields)
    (hd : Document.fieldOf? fields key = some d) (h : Conveys depth d read a)
    (hnull : read .null = none) : ¬ lacks out key = true := by
  obtain ⟨e, he, hread⟩ := hr.exists_get? hd h
  exact not_lacks he hread hnull

end

/-- The document of a game is as deep as documents may be. -/
private theorem conveys_toDocument (hvital : ∀ c ∈ g.characters, c.Vital)
    (hmain : g.main < UInt64.size) :
    Conveys (126 + 1) g.toDocument (fun d => (ofDocument d).toOption) g := by
  have hversion := Conveys.text 126 saveVersion
  have hcharacters := Conveys.list fun c hc => Sheet.conveys_ofCharacter 122 (hvital c hc)
  have hlog := Chronicle.conveys_ofLog 123 g.log
  have hplace := Conveys.count 126 hmain
  have hcampaign := Conveys.named 126 (lookup_campaignNames g.campaign)
  refine .object (by simp) ?_ fun out hsorted hr => ?_
  · simp only [List.forall_mem_cons]
    exact ⟨hversion.sound, hcharacters.sound, hlog.sound, hplace.sound, hcampaign.sound,
      List.forall_mem_nil _⟩
  · have hcheck : checkVersion out = .ok () := by
      have hfield : Document.fieldOf? out "version" = some (.text saveVersion) := hr "version"
      rw [checkVersion, hfield]
      exact if_pos rfl
    have hneeded : firstLacking? neededKeys out = none := by
      rw [firstLacking?, List.find?_eq_none]
      simp only [neededKeys, List.forall_mem_cons]
      exact ⟨not_lacks_of_conveys hr rfl hcharacters rfl, not_lacks_of_conveys hr rfl hlog rfl,
        not_lacks_of_conveys hr rfl hplace rfl, List.forall_mem_nil _⟩
    have hcontent : content? (.object out) = some g := by
      rw [content?, Document.record?_object keys hsorted]
      simp only [Option.bind_eq_bind, Option.bind_some]
      rw [hr.required? rfl hversion, hr.required? rfl hcharacters, hr.required? rfl hlog,
        hr.required? rfl hplace, hr.withDefault? rfl hcampaign]
      rfl
    simp only [ofDocument, hcheck, hneeded, hcontent]
    rfl

/-- A saved game is read from its text. -/
theorem read_write (hvital : ∀ c ∈ g.characters, c.Vital) (hmain : g.main < UInt64.size) :
    read g.write = .ok g := by
  have hconveys := conveys_toDocument hvital hmain
  obtain ⟨e, hparse, hread⟩ :=
    hconveys.exists_parseWhole? (Document.parse?_indented hconveys.plain)
  rw [read, write, hparse]
  exact eq_ok_of_toOption hread

/-- The place of the protagonist in a game that is read is a count of 64 bits. -/
theorem main_lt_of_read {text : String} (h : read text = .ok g) : g.main < UInt64.size := by
  obtain ⟨-, d, hd⟩ := exists_of_read h
  obtain ⟨i, hi, hmain⟩ := Option.map_eq_some_iff.mp hd
  unfold Document.intWithin? at hi
  split at hi
  · split at hi
    · next hrange =>
      cases hi
      rw [← hmain]
      omega
    · cases hi
  · cases hi

end SavedGame

end Tabletop
