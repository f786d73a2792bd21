import Tabletop.Proofs.Document.Repetitions
import Tabletop.Save.Game

/-!
# Lists of saved games

A file is listed as a saved game by the version that its text shows at a glance, and it is loaded if
the document that the text holds has that version. The two agree but for three kinds of documents.
-/

namespace Tabletop.SavedGame

open Document (Has Intact Lacks Last Only occurrences)

variable {content : String} {d : Document} {fields : List (String × Document)}

/-- The text holds a document that can be taken as a whole, the document is an object, and its
version is the current one. This is checked before anything else is read of a saved game. -/
def Passes (content : String) : Prop :=
  ∃ fields, Document.parseWhole? content = some (.object fields) ∧ checkVersion fields = .ok ()

/-- The document shows the current version at a glance. -/
def ShowsVersion (d : Document) : Prop := Has ["version"] d "version" (some (.text saveVersion))

/-- The document is an intact object, and the last version in it is the current one. -/
def HasVersion (d : Document) : Prop :=
  ∃ fields, d = .object fields ∧ Intact Document.maxDepth d ∧
    Last fields "version" (.text saveVersion)

/-- The list of saved games is wrong about a document. -/
inductive Misjudged : Document → Prop
  /-- An array with nothing but the version is listed. -/
  | bare : Misjudged (.array [.text saveVersion])
  /-- An object with the version is listed even if it is broken or nested too deep elsewhere. -/
  | broken {fields : List (String × Document)} : Only fields "version" (.text saveVersion) →
    ¬Intact Document.maxDepth (.object fields) → Misjudged (.object fields)
  /-- An object with several versions is not listed even if the last one is current. -/
  | repeated {fields : List (String × Document)} : Intact Document.maxDepth (.object fields) →
    Last fields "version" (.text saveVersion) → occurrences "version" fields ≠ 1 →
      Misjudged (.object fields)

/-! ## What is listed -/

private theorem peekVersion_eq_ok_iff {v : String} : peekVersion content = .ok v ↔
    ∃ d, Document.parse? content = some d ∧ Has ["version"] d "version" (some (.text v)) := by
  have hmem : "version" ∈ ["version"] := List.mem_singleton_self _
  rw [peekVersion]
  constructor
  · intro h
    split at h
    · next hread =>
      cases h
      simp only [Option.bind_eq_bind, Option.bind_eq_some_iff] at hread
      obtain ⟨d, hd, r, hr, hv⟩ := hread
      obtain ⟨e, he, ht⟩ := (Document.required?_eq_some_iff hr hmem).mp hv
      cases Document.text?_eq_some_iff.mp ht
      exact ⟨d, hd, he⟩
    · cases h
  · rintro ⟨d, hd, hhas⟩
    obtain ⟨r, hr⟩ := Document.exists_record? (List.cons_ne_nil "version" [])
      (List.forall_mem_singleton.mpr ⟨_, hhas⟩)
    have hv := (Document.required?_eq_some_iff hr hmem).mpr
      ⟨_, hhas, Document.text?_eq_some_iff.mpr rfl⟩
    simp only [hd, Option.bind_eq_bind, Option.bind_some, hr, hv]

/-- A text is listed by what its document shows. -/
theorem isListed_iff :
    isListed content = true ↔ ∃ d, Document.parse? content = some d ∧ ShowsVersion d := by
  unfold ShowsVersion
  rw [← peekVersion_eq_ok_iff, isListed]
  cases peekVersion content with
  | ok v => simp
  | error e => simp

theorem showsVersion_object_iff :
    ShowsVersion (.object fields) ↔ Only fields "version" (.text saveVersion) := by
  constructor
  · intro h
    cases h with
    | only h => exact h
  · exact .only

theorem showsVersion_array_iff {items : List Document} :
    ShowsVersion (.array items) ↔ items = [.text saveVersion] := by
  constructor
  · intro h
    unfold ShowsVersion at h
    generalize hv : some (Document.text saveVersion) = v at h
    cases h with
    | item _ hlength =>
      match items with
      | [] => cases hv
      | [item] =>
        cases hv
        rfl
      | _ :: _ :: _ => simp at hlength
  · rintro rfl
    exact .item "version" (Nat.le_refl 1)

/-- The files listed are those of the right name whose texts are. -/
theorem mem_listing_iff {files : List (String × Option String)} {name : String} :
    name ∈ listing files ↔ isSaveName name = true ∧
      ∃ content, (name, some content) ∈ files ∧ isListed content = true := by
  rw [listing, List.mem_mergeSort, List.mem_map]
  constructor
  · rintro ⟨⟨name, text⟩, hmem, rfl⟩
    obtain ⟨hfile, hkept⟩ := List.mem_filter.mp hmem
    obtain ⟨hname, hlisted⟩ := Bool.and_eq_true_iff.mp hkept
    cases text with
    | none => cases hlisted
    | some content => exact ⟨hname, content, hfile, hlisted⟩
  · rintro ⟨hname, content, hfile, hlisted⟩
    refine ⟨(name, some content), List.mem_filter.mpr ⟨hfile, ?_⟩, rfl⟩
    rw [hname, Option.any_some, hlisted]
    rfl

/-! ## What passes -/

private theorem checkVersion_eq_ok_iff : checkVersion fields = .ok () ↔
    Document.fieldOf? fields "version" = some (.text saveVersion) := by
  rw [checkVersion]
  split
  · next h => simp [h]
  · next found h =>
    rw [h]
    split
    · next heq => simp [heq]
    · next hne => simp [hne]
  · next d hnot h =>
    rw [h]
    refine ⟨nofun, fun heq => ?_⟩
    exact absurd (Option.some.inj heq) (hnot saveVersion)

/-- A text passes by what its document has. -/
theorem passes_iff :
    Passes content ↔ ∃ d, Document.parse? content = some d ∧ HasVersion d := by
  simp only [Passes, checkVersion_eq_ok_iff, Document.parseWhole?, Option.bind_eq_bind,
    Option.bind_eq_some_iff]
  constructor
  · rintro ⟨out, ⟨d, hd, hsettle⟩, hfield⟩
    have hintact : Intact Document.maxDepth d :=
      (Document.isSome_settle?_iff _ d).mp (Option.isSome_of_mem hsettle)
    cases d with
    | object fields =>
      obtain ⟨out', hout, hlacks, hlast⟩ := Document.fieldOf?_of_settle? hsettle
      cases hout
      rcases Document.lacks_or_last fields "version" with hnone | ⟨e, he⟩
      · rw [hlacks hnone] at hfield
        cases hfield
      · obtain ⟨e', he', hfound⟩ := hlast e he
        rw [hfound] at hfield
        cases hfield
        cases Document.settle?_eq_text_iff.mp he'
        exact ⟨_, hd, fields, rfl, hintact, he⟩
    | array items =>
      rw [Document.settle?, if_neg (by decide)] at hsettle
      obtain ⟨_, _, hout⟩ := Option.map_eq_some_iff.mp hsettle
      cases hout
    | _ => cases hsettle
  · rintro ⟨d, hd, fields, rfl, hintact, hversion⟩
    obtain ⟨e, hsettle⟩ :=
      Option.isSome_iff_exists.mp ((Document.isSome_settle?_iff _ _).mpr hintact)
    obtain ⟨out, rfl, -, hlast⟩ := Document.fieldOf?_of_settle? hsettle
    obtain ⟨e, he, hfound⟩ := hlast _ hversion
    cases he
    exact ⟨out, ⟨_, hd, hsettle⟩, hfound⟩

/-- A text that passes is a game, or is refused for what a game needs besides its version. -/
private theorem read_of_passes (h : Passes content) :
    (∃ g, read content = .ok g) ∨ read content = .error .unreadable ∨
      ∃ name ∈ neededKeys, read content = .error (.missingField name) := by
  obtain ⟨fields, hwhole, hcheck⟩ := h
  rw [read, hwhole]
  simp only [ofDocument, hcheck]
  cases hlacking : firstLacking? neededKeys fields with
  | some name => exact .inr (.inr ⟨name, List.mem_of_find?_eq_some hlacking, rfl⟩)
  | none =>
    cases content? (.object fields) with
    | some g => exact .inl ⟨g, rfl⟩
    | none => exact .inr (.inl rfl)

/-- Every game that is read passes. -/
private theorem passes_of_read {g : SavedGame} (h : read content = .ok g) : Passes content := by
  rw [read] at h
  split at h
  · next d hd =>
    cases d with
    | object fields =>
      refine ⟨fields, hd, ?_⟩
      cases hcheck : checkVersion fields with
      | ok _ => rfl
      | error e =>
        simp only [ofDocument, hcheck] at h
        cases h
    | _ => cases h
  · cases h

/-! ## Agreement -/

theorem hasVersion_object_iff : HasVersion (.object fields) ↔
    Intact Document.maxDepth (.object fields) ∧ Last fields "version" (.text saveVersion) := by
  constructor
  · rintro ⟨_, heq, hintact, hlast⟩
    cases heq
    exact ⟨hintact, hlast⟩
  · rintro ⟨hintact, hlast⟩
    exact ⟨fields, rfl, hintact, hlast⟩

private theorem misjudged_object_iff : Misjudged (.object fields) ↔
    (Only fields "version" (.text saveVersion) ∧ ¬Intact Document.maxDepth (.object fields)) ∨
      (Intact Document.maxDepth (.object fields) ∧ Last fields "version" (.text saveVersion) ∧
        occurrences "version" fields ≠ 1) := by
  constructor
  · rintro (_ | ⟨honly, hbroken⟩ | ⟨hintact, hlast, hmany⟩)
    · exact .inl ⟨honly, hbroken⟩
    · exact .inr ⟨hintact, hlast, hmany⟩
  · rintro (⟨honly, hbroken⟩ | ⟨hintact, hlast, hmany⟩)
    · exact .broken honly hbroken
    · exact .repeated hintact hlast hmany

private theorem showsVersion_iff_hasVersion_iff :
    (ShowsVersion d ↔ HasVersion d) ↔ ¬Misjudged d := by
  cases d with
  | object fields =>
    rw [showsVersion_object_iff, hasVersion_object_iff, misjudged_object_iff]
    by_cases hlast : Last fields "version" (.text saveVersion)
    · rw [hlast.only_iff]
      tauto
    · have honly : ¬Only fields "version" (.text saveVersion) := fun h => hlast h.last
      tauto
  | array items =>
    have hnot : ¬HasVersion (.array items) := by
      rintro ⟨_, heq, -⟩
      cases heq
    rw [showsVersion_array_iff, iff_false_right hnot]
    constructor
    · rintro hne hmisjudged
      cases hmisjudged
      exact hne rfl
    · rintro hright rfl
      exact hright .bare
  | _ =>
    refine ⟨fun _ => nofun, fun _ => ⟨nofun, ?_⟩⟩
    rintro ⟨_, heq, -⟩
    cases heq

/-- The version alone, in an array, is listed, and refused as no game at all. -/
private theorem judged_of_bare (hd : Document.parse? content = some (.array [.text saveVersion])) :
    isListed content = true ∧ read content = .error .notAnObject := by
  have hwhole : Document.parseWhole? content = some (.array [.text saveVersion]) := by
    rw [Document.parseWhole?, hd]
    rfl
  refine ⟨isListed_iff.mpr ⟨_, hd, showsVersion_array_iff.mpr rfl⟩, ?_⟩
  rw [read, hwhole]
  rfl

/-- What is broken is refused as unreadable. -/
private theorem read_of_broken (hd : Document.parse? content = some d)
    (hbroken : ¬Intact Document.maxDepth d) : read content = .error .unreadable := by
  have hwhole : Document.parseWhole? content = none := by
    rw [← Document.isSome_settle?_iff, Bool.not_eq_true, Option.isSome_eq_false_iff,
      Option.isNone_iff_eq_none] at hbroken
    rw [Document.parseWhole?, hd]
    exact hbroken
  rw [read, hwhole]

/-- With several versions of which the last is current a text passes and is not listed. -/
private theorem judged_of_repeated (hd : Document.parse? content = some (.object fields))
    (hintact : Intact Document.maxDepth (.object fields))
    (hlast : Last fields "version" (.text saveVersion)) (hmany : occurrences "version" fields ≠ 1) :
    isListed content = false ∧ Passes content := by
  have hpasses : Passes content := passes_iff.mpr ⟨_, hd, fields, rfl, hintact, hlast⟩
  refine ⟨Bool.eq_false_iff.mpr fun hlisted => ?_, hpasses⟩
  obtain ⟨d, hd', hshows⟩ := isListed_iff.mp hlisted
  cases hd.symm.trans hd'
  exact hmany (hlast.only_iff.mp (showsVersion_object_iff.mp hshows))

/-- A listed text is refused as no game at all only if it is an array, and never for its version. -/
private theorem read_of_isListed (h : isListed content = true) :
    (read content = .error .notAnObject ↔
      Document.parse? content = some (.array [.text saveVersion])) ∧
    read content ≠ .error (.missingField "version") ∧
    ∀ found, read content ≠ .error (.versionMismatch found) := by
  obtain ⟨d, hd, hshows⟩ := isListed_iff.mp h
  rw [hd]
  cases d with
  | object fields =>
    by_cases hintact : Intact Document.maxDepth (.object fields)
    · have hlast := (showsVersion_object_iff.mp hshows).last
      have hpasses : Passes content := passes_iff.mpr ⟨_, hd, fields, rfl, hintact, hlast⟩
      rcases read_of_passes hpasses with ⟨g, hg⟩ | hg | ⟨name, hname, hg⟩ <;> rw [hg]
      · exact ⟨⟨nofun, nofun⟩, nofun, nofun⟩
      · exact ⟨⟨nofun, nofun⟩, nofun, nofun⟩
      · refine ⟨⟨nofun, nofun⟩, ?_, nofun⟩
        intro heq
        cases heq
        exact absurd hname (by decide)
    · rw [read_of_broken hd hintact]
      exact ⟨⟨nofun, nofun⟩, nofun, nofun⟩
  | array items =>
    rw [showsVersion_array_iff] at hshows
    subst hshows
    rw [(judged_of_bare hd).2]
    exact ⟨⟨fun _ => rfl, fun _ => rfl⟩, nofun, nofun⟩
  | _ => cases hshows

/-- A text is listed exactly if it passes, but for three kinds of documents: an array with nothing
but the version is listed and refused as no game at all, an object that is broken elsewhere is
listed and refused as unreadable, and an object with several versions passes by the last one and is
not listed. So a listed game is never refused for its version, and as no game at all only if it is
such an array, and one that loads is listed exactly if its version stands once. -/
theorem isListed_iff_passes_iff (content : String) :
    ((isListed content = true ↔ Passes content) ↔
      ∀ d, Document.parse? content = some d → ¬Misjudged d) ∧
    (Document.parse? content = some (.array [.text saveVersion]) →
      isListed content = true ∧ read content = .error .notAnObject) ∧
    (∀ fields, Document.parse? content = some (.object fields) →
      (Only fields "version" (.text saveVersion) → ¬Intact Document.maxDepth (.object fields) →
        isListed content = true ∧ read content = .error .unreadable) ∧
      (Intact Document.maxDepth (.object fields) → Last fields "version" (.text saveVersion) →
        occurrences "version" fields ≠ 1 → isListed content = false ∧ Passes content)) ∧
    (isListed content = true →
      (read content = .error .notAnObject ↔
        Document.parse? content = some (.array [.text saveVersion])) ∧
      read content ≠ .error (.missingField "version") ∧
      ∀ found, read content ≠ .error (.versionMismatch found)) ∧
    (∀ g, read content = .ok g → ∃ fields, Document.parse? content = some (.object fields) ∧
      (isListed content = true ↔ occurrences "version" fields = 1)) ∧
    ∀ files name, name ∈ listing files ↔ isSaveName name = true ∧
      ∃ content, (name, some content) ∈ files ∧ isListed content = true := by
  refine ⟨?_, judged_of_bare, fun fields hd => ⟨fun honly hbroken => ?_, judged_of_repeated hd⟩,
    read_of_isListed, ?_, fun _ _ => mem_listing_iff⟩
  · rw [isListed_iff, passes_iff]
    cases Document.parse? content with
    | none => simp
    | some d => simpa using showsVersion_iff_hasVersion_iff
  · have hlisted : isListed content = true :=
      isListed_iff.mpr ⟨_, hd, showsVersion_object_iff.mpr honly⟩
    exact ⟨hlisted, read_of_broken hd hbroken⟩
  · intro g hg
    obtain ⟨_, hd, fields, rfl, -, hlast⟩ := passes_iff.mp (passes_of_read hg)
    refine ⟨fields, hd, ?_⟩
    rw [isListed_iff, hd, ← hlast.only_iff, ← showsVersion_object_iff]
    simp

/-- The version alone, in an array, is listed and is no game. -/
theorem isListed_bare_version :
    isListed "[\"1.0\"]" = true ∧ ¬Passes "[\"1.0\"]" ∧
      read "[\"1.0\"]" = .error .notAnObject := by
  have hparse : Document.parse? "[\"1.0\"]" = some (.array [.text "1.0"]) := rfl
  refine ⟨by decide, ?_, by decide⟩
  rw [passes_iff, hparse]
  rintro ⟨_, heq, _, rfl, -⟩
  cases heq

end Tabletop.SavedGame
