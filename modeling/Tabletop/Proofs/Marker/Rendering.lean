import Tabletop.Proofs.Marker.Scan
import Tabletop.Proofs.Text.Numerals
import Tabletop.Proofs.Text.Splitting
import Tabletop.Proofs.Text.Trimming

/-!
# Markers as the narrator writes them

The rendering of a directive is its marker in the spelling that the narrator is told to use.
`markerOf?_render` says that each kind reads its own renderings back, whatever the texts and numbers
in them; the patterns forgive much more than what is rendered here.
-/

namespace Tabletop

open Grammar (isFieldChar)

/-! ## Renderings -/

/-- A combatant with slashes between side, name, column and row. -/
def Combatant.render (c : Combatant) : String :=
  "/".intercalate [c.side.name, c.id, Text.ofInt c.x.toInt, Text.ofInt c.y.toInt]

/-- Coins with commas between gold, silver and copper. -/
def Wallet.render (w : Wallet) : String :=
  Text.ofNat w.gold.toNat ++ "," ++ Text.ofNat w.silver.toNat ++ "," ++ Text.ofNat w.copper.toNat

namespace Directive

/-- What follows the word of a marker. -/
def fields : Directive → String
  | .reward coins => ":[" ++ coins.render ++ "]"
  | .item name tag => ":[" ++ name ++ "] (Tag: " ++ tag ++ ")"
  | .purchase cost tag items =>
    ":[" ++ cost.render ++ "]," ++ tag.getD "" ++ "," ++ ", ".intercalate items
  | .damage target amount => ":" ++ target ++ "," ++ Text.ofInt amount.toInt
  | .ambiance description => ":[" ++ description ++ "]"
  | .minimap combatants => ":[" ++ ";".intercalate (combatants.map Combatant.render) ++ "]"
  | .distance meters => ":[" ++ Text.ofNat meters.toNat ++ "]"
  | .combatEnd => ""
  | .quest name => ":[" ++ name ++ "]"
  | .invite i => ":[" ++ i.name ++ "," ++ i.race ++ "," ++ i.calling ++ "," ++ i.gender ++ "]"

/-- The marker of a directive. -/
def render (d : Directive) : String := d.keyword.name ++ d.fields

end Directive

/-! ## What can be rendered -/

/-- Characters of a text in brackets: no bracket or line end. -/
def isPlain (c : Char) : Bool := !(c == '[' || c == ']' || c == '\r' || c == '\n')

/-- Characters of a part of a combatant: no separator of parts or combatants either. -/
def Combatant.isPartChar (c : Char) : Bool := isPlain c && c != '/' && c != ';'

/-- A text that a field can hold: characters of a class, at least one, and no blank at either
end. -/
def IsField (p : Char → Bool) (s : String) : Prop :=
  s ≠ "" ∧ Text.trim s = s ∧ ∀ c ∈ s.toList, p c = true

instance (p : Char → Bool) (s : String) : Decidable (IsField p s) :=
  decidable_of_iff (s ≠ "" ∧ Text.trim s = s ∧ s.toList.all p = true) (by simp [IsField])

/-- The texts of a directive are fields that its rendering keeps apart, its damage is none below
zero, and its invitation still has to be answered. -/
def Directive.Renderable : Directive → Prop
  | .reward _ | .distance _ | .combatEnd => True
  | .item name tag =>
    IsField (fun c => isPlain c && c != '(') name ∧ IsField (fun c => isPlain c && c != ')') tag
  | .purchase _ none _ => False
  | .purchase _ (some tag) items =>
    IsField isFieldChar tag ∧ ∀ i ∈ items, IsField isFieldChar i
  | .damage target amount => IsField isFieldChar target ∧ 0 ≤ amount.toInt
  | .ambiance description => IsField isPlain description
  | .minimap combatants =>
    ∀ c ∈ combatants, IsField Combatant.isPartChar c.id
  | .quest name => IsField isPlain name
  | .invite i => i = .offer i.name i.race i.calling i.gender ∧
      ∀ s ∈ [i.name, i.race, i.calling, i.gender], IsField isFieldChar s

instance : DecidablePred Directive.Renderable
  | .reward _ | .distance _ | .combatEnd => inferInstanceAs (Decidable True)
  | .item .. => inferInstanceAs (Decidable (_ ∧ _))
  | .purchase _ none _ => inferInstanceAs (Decidable False)
  | .purchase _ (some _) _ => inferInstanceAs (Decidable (_ ∧ ∀ i ∈ _, _))
  | .damage .. => inferInstanceAs (Decidable (_ ∧ _))
  | .ambiance _ | .quest _ => inferInstanceAs (Decidable (IsField _ _))
  | .minimap _ => inferInstanceAs (Decidable (∀ c ∈ _, _))
  | .invite _ => inferInstanceAs (Decidable (_ ∧ ∀ s ∈ _, _))

namespace IsField

variable {p : Char → Bool} {s : String}

/-- A text of the class with nothing to trim is a field. -/
theorem of_tight (ht : Text.Tight s.toList) (hc : ∀ c ∈ s.toList, p c = true) : IsField p s := by
  refine ⟨fun h => ht.1 (by rw [h]; rfl), ?_, hc⟩
  rw [Text.trim, ht.trimChars_eq, String.ofList_toList]

/-- A field has characters. -/
theorem toList_ne_nil (h : IsField p s) : s.toList ≠ [] := by
  rw [Ne, String.toList_eq_nil_iff]
  exact h.1

/-- A field has nothing to trim. -/
theorem tight (h : IsField p s) : Text.Tight s.toList := by
  have ht := h.2.1
  rw [Text.trim, ← String.toList_inj, String.toList_ofList] at ht
  exact ⟨h.toList_ne_nil, Text.trimChars_eq_self_iff.mp ht⟩

/-- A field starts with a character of its class that is no blank. -/
theorem exists_cons (h : IsField p s) :
    ∃ c cs, s.toList = c :: cs ∧ p c = true ∧ Text.isBlank c = false := by
  cases hs : s.toList with
  | nil => exact absurd hs h.toList_ne_nil
  | cons c cs =>
    have hb := h.tight.2.1
    rw [hs, List.head?_cons, Option.any_some] at hb
    exact ⟨c, cs, rfl, h.2.2 c (by simp [hs]), hb⟩

variable {sep : String} {parts : List String}

/-- Fields joined with any separator have nothing to trim. -/
theorem tight_intercalate (hne : parts ≠ []) (h : ∀ s ∈ parts, IsField p s) :
    Text.Tight (sep.intercalate parts).toList := by
  rw [String.toList_intercalate]
  apply Text.Tight.intercalate
  · simpa using hne
  · intro piece hp
    obtain ⟨s, hs, rfl⟩ := List.mem_map.mp hp
    exact (h s hs).tight

/-- Joined fields hold the characters of the separator and those of their class. -/
theorem forall_mem_intercalate {q : Char → Prop} (hsep : ∀ c ∈ sep.toList, q c)
    (h : ∀ s ∈ parts, IsField p s) (hq : ∀ c, p c = true → q c) :
    ∀ c ∈ (sep.intercalate parts).toList, q c := by
  rw [String.toList_intercalate]
  apply Text.forall_mem_intercalate hsep
  intro piece hp c hc
  obtain ⟨s, hs, rfl⟩ := List.mem_map.mp hp
  exact hq c ((h s hs).2.2 c hc)

end IsField

/-! ## Combatants -/

namespace Combatant

private theorem ofName?_name (s : Side) : Side.ofName? s.name = some s := by
  cases s <;> decide

private theorem isPartChar_of_mem_ofInt {i : Int} {c : Char} (h : c ∈ (Text.ofInt i).toList) :
    isPartChar c = true ∧ Text.isBlank c = false := by
  rcases Text.isDigit_of_mem_ofInt h with rfl | hd
  · decide
  · have hne {d : Char} (hd' : Text.isDigit d = false) : c ≠ d := Text.ne_of_isDigit hd hd'
    refine ⟨?_, Text.isBlank_of_isDigit hd⟩
    simp [isPartChar, isPlain, hne (d := '[') rfl, hne (d := ']') rfl, hne (d := '\r') rfl,
      hne (d := '\n') rfl, hne (d := '/') rfl, hne (d := ';') rfl]

private theorem isField_ofInt (i : Int) : IsField isPartChar (Text.ofInt i) := by
  have htight : Text.Tight (Text.ofInt i).toList :=
    .of_not_blank (Text.toList_ofInt_ne_nil i) fun _ hc => (isPartChar_of_mem_ofInt hc).2
  exact .of_tight htight fun _ hc => (isPartChar_of_mem_ofInt hc).1

private theorem isField_name (s : Side) : IsField isPartChar s.name := by
  cases s <;> decide

variable {c : Combatant}

private theorem isField_part (h : IsField isPartChar c.id) :
    ∀ s ∈ [c.side.name, c.id, Text.ofInt c.x.toInt, Text.ofInt c.y.toInt],
      IsField isPartChar s := by
  simp only [List.forall_mem_cons]
  exact ⟨isField_name _, h, isField_ofInt _, isField_ofInt _, by simp⟩

private theorem not_mem_of_isField {s : String} {d : Char} (h : IsField isPartChar s)
    (hd : isPartChar d = false) : d ∉ s.toList := by
  intro hm
  rw [h.2.2 d hm] at hd
  cases hd

/-- A combatant reads as itself. -/
theorem combatant?_render (h : IsField isPartChar c.id) : Grammar.combatant? c.render = some c := by
  have hparts := isField_part h
  have hlisted : Grammar.listed '/' c.render =
      [c.side.name, c.id, Text.ofInt c.x.toInt, Text.ofInt c.y.toInt] := by
    rw [Grammar.listed, render, Text.splitAt_intercalate rfl (by simp)
      fun s hs => not_mem_of_isField (hparts s hs) rfl]
    refine List.map_congr_left (fun s hs => (hparts s hs).2.1) |>.trans (List.map_id _)
  rw [Grammar.combatant?, hlisted]
  simp [ofName?_name, Text.int32?_ofInt]

/-- The rendering of a combatant holds no bracket, line end or semicolon, and no blank at its
ends. -/
theorem isField_render (h : IsField isPartChar c.id) :
    IsField (fun c => isPlain c && c != ';') c.render := by
  have hparts := isField_part h
  apply IsField.of_tight
  · exact IsField.tight_intercalate (by simp) hparts
  · have hslash : ∀ d ∈ ("/" : String).toList, (isPlain d && d != ';') = true :=
      List.forall_mem_singleton.mpr rfl
    refine IsField.forall_mem_intercalate hslash hparts fun d hd => ?_
    simp only [isPartChar, Bool.and_eq_true] at hd
    simp [hd.1.1, hd.2]

end Combatant

end Tabletop
