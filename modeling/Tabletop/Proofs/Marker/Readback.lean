import Tabletop.Proofs.Marker.Numerals
import Tabletop.Proofs.Marker.Rendering

/-!
# Renderings read back

`markerOf?_render` says that each kind of marker reads its own renderings back. It is put together
from the parts of the patterns, each of which takes its part of a rendering and leaves the rest.
-/

namespace Tabletop.Grammar

open Pattern (Reads)

variable {cs rest : List Char} {c : Char} {i : Nat}

/-! ## Parts of patterns -/

/-- No gap stands before a text that starts with no gap. -/
theorem reads_gap_nil (h : cs.head?.any isGap = false) : Reads gap cs cs [] := .run_nil h

/-- A gap before a bracket is none. -/
theorem reads_bracket (hc : isGap c = false) : Reads (bracket c) (c :: rest) rest [] :=
  .left ((reads_gap_nil (by simpa using hc)).seq (.char c))

/-- A bracket is left out where something else comes. -/
theorem reads_bracket_absent (hgap : cs.head?.any isGap = false)
    (hc : cs.head?.any (· == c) = false) :
    Reads (bracket c) cs cs [] := by
  apply Reads.absent
  obtain ⟨t, ht⟩ := reads_gap_nil hgap
  have hn : (Pattern.char c).matchStart cs = none := Pattern.matchStart_one_eq_none hc
  simp [Pattern.matchStart, ht, hn]

/-- A colon without gaps. -/
theorem reads_colon (h : rest.head?.any isGap = false) : Reads colon (':' :: rest) rest [] :=
  (reads_gap_nil rfl).all_cons ((Reads.char ':').all_cons (reads_gap_nil h))

/-- A colon and the bracket that fields stand in. -/
theorem reads_opensFields : Reads opensFields (':' :: '[' :: rest) rest [] :=
  (reads_gap_nil rfl).all_cons ((Reads.char ':').all_cons (reads_bracket rfl))

/-- A colon and no bracket. -/
theorem reads_opensFields_plain (hgap : rest.head?.any isGap = false)
    (hc : rest.head?.any (· == '[') = false) : Reads opensFields (':' :: rest) rest [] :=
  (reads_gap_nil rfl).all_cons ((Reads.char ':').all_cons (reads_bracket_absent hgap hc))

/-- A comma without gaps and brackets. -/
theorem reads_comma (hgap : rest.head?.any isGap = false) (hc : rest.head?.any (· == '[') = false) :
    Reads comma (',' :: rest) rest [] :=
  (reads_bracket_absent rfl rfl).all_cons ((reads_gap_nil rfl).all_cons
    ((Reads.char ',').all_cons (reads_bracket_absent hgap hc)))

/-- What is not blank is no gap. -/
theorem isGap_of_not_blank (h : Text.isBlank c = false) : isGap c = false := by
  have hspace : c ≠ ' ' := by rintro rfl; exact absurd h (by decide)
  have htab : c ≠ '\t' := by rintro rfl; exact absurd h (by decide)
  simp [isGap, hspace, htab]

/-- What follows a numeral is not taken for a part of it. -/
structure EndsNumeral (rest : List Char) : Prop where
  gap : rest.head?.any isGap = false
  sign : rest.head?.any isSign = false
  word : rest.head?.any Text.isWordChar = false

/-- A numeral leaves no gap before it. -/
private theorem head?_numeral (n : Numeral) (h : rest.head?.any isGap = false) :
    (n.text ++ rest).head?.any isGap = false :=
  n.head?_text_append (fun d hd => by rcases eq_of_isSign hd with rfl | rfl <;> rfl)
    (fun _ hd => isGap_of_not_blank (Text.isBlank_of_isWordChar hd)) h

/-- A comma before a numeral. -/
theorem reads_comma_numeral (n : Numeral) (hgap : rest.head?.any isGap = false)
    (hc : rest.head?.any (· == '[') = false) :
    Reads comma (',' :: (n.text ++ rest)) (n.text ++ rest) [] := by
  refine reads_comma (head?_numeral n hgap) (n.head?_text_append (fun d hd => ?_)
    (fun d hd => ?_) hc)
  · rcases eq_of_isSign hd with rfl | rfl <;> rfl
  · rw [beq_eq_false_iff_ne]
    rintro rfl
    exact absurd hd (by decide)

private theorem reads_sign (n : Numeral) (h : rest.head?.any isSign = false) :
    Reads (Pattern.optional (.one isSign)) (n.text ++ rest) (n.word ++ rest) [] := by
  have htext : n.text ++ rest = n.sign.toList ++ (n.word ++ rest) := List.append_assoc ..
  rw [htext]
  cases hs : n.sign with
  | some d => exact .left (.one (n.isSign_of_mem d (by simp [hs])))
  | none =>
    apply Reads.absent
    apply Pattern.matchStart_one_eq_none
    cases hw : n.word with
    | nil => exact h
    | cons d ds => exact isSign_of_isWordChar (n.isWordChar_of_mem_word d (by simp [hw]))

/-- A numeral is read where it stands. -/
theorem reads_numeral (n : Numeral) (h : EndsNumeral rest) :
    Reads (numeral i) (n.text ++ rest) rest [(i, n.text)] :=
  (reads_gap_nil (head?_numeral n h.gap)).seq
    (.capture ((reads_sign n h.sign).seq (.run n.isWordChar_of_mem_word h.word)))

/-- A numeral is read where one with word characters is asked for. -/
theorem reads_numeralSome (n : Numeral) (hne : n.word ≠ []) (h : EndsNumeral rest) :
    Reads (numeralSome i) (n.text ++ rest) rest [(i, n.text)] :=
  (reads_gap_nil (head?_numeral n h.gap)).seq
    (.capture ((reads_sign n h.sign).seq (.someOf hne n.isWordChar_of_mem_word h.word)))

/-- Three numerals and the commas between them. -/
def coinsText (gold silver copper : Numeral) : List Char :=
  gold.text ++ ',' :: (silver.text ++ ',' :: copper.text)

/-- Three numerals between commas. -/
theorem reads_coins (gold silver copper : Numeral) (h : EndsNumeral rest)
    (hc : rest.head?.any (· == '[') = false) :
    Reads coins (coinsText gold silver copper ++ rest) rest
      [(1, gold.text), (2, silver.text), (3, copper.text)] := by
  have hcomma (cs : List Char) : EndsNumeral (',' :: cs) := ⟨rfl, rfl, rfl⟩
  have hsource : coinsText gold silver copper ++ rest =
      gold.text ++ ',' :: (silver.text ++ ',' :: (copper.text ++ rest)) := by simp [coinsText]
  rw [hsource]
  exact (reads_numeral _ (hcomma _)).all_cons ((reads_comma_numeral _ rfl rfl).all_cons
    ((reads_numeral _ (hcomma _)).all_cons ((reads_comma_numeral _ h.gap hc).all_cons
      (reads_numeral _ h))))

/-- A field is the text that stands there. -/
theorem reads_field {s : String} (hs : IsField isFieldChar s)
    (h : rest.head?.any isFieldChar = false) :
    Reads (field i) (s.toList ++ rest) rest [(i, s.toList)] :=
  .capture (.someOf hs.toList_ne_nil hs.2.2 h)

/-- A text in brackets. -/
theorem reads_bracketed (h : ∀ c ∈ cs, isBracketed c = true) :
    Reads (bracketed i) ('[' :: (cs ++ ']' :: rest)) rest [(i, cs)] :=
  (Reads.char '[').all_cons ((Reads.capture (.run h rfl)).all_cons (.char ']'))

/-! ## Reading what is kept -/

/-- A count in decimal reads as itself. -/
theorem count_text_ofNat (n : UInt32) : count (Numeral.ofNat n.toNat).text = n := by
  have hlt := n.toNat_lt
  have hmax : maxCount = 4294967295 := rfl
  have hsize : UInt64.size = 18446744073709551616 := rfl
  rw [← UInt32.toNat_inj, Numeral.toNat_count_text, Numeral.reading_ofNat (by omega) (by omega)]

/-- Damage that is none below zero reads as itself. -/
theorem damageOf_count_text_ofNat {amount : Int32} (h : 0 ≤ amount.toInt) :
    damageOf (count (Numeral.ofNat amount.toInt.toNat).text) = amount := by
  have hlt := amount.toInt_lt
  have hsize : UInt64.size = 18446744073709551616 := rfl
  rw [← Int32.toInt_inj, Numeral.toInt_damageOf_count_text,
    Numeral.reading_ofNat (by omega) (by omega), Int.toNat_of_nonneg h]

/-- Coins in decimal are three numerals. -/
private theorem toList_render (w : Wallet) :
    w.render.toList =
      coinsText (.ofNat w.gold.toNat) (.ofNat w.silver.toNat) (.ofNat w.copper.toNat) := by
  simp [Wallet.render, Text.ofNat, coinsText]

/-- Coins in decimal read as themselves. -/
private theorem keptCoins_text_ofNat (w : Wallet) (more : Pattern.Captures) :
    keptCoins ((1, (Numeral.ofNat w.gold.toNat).text) ::
      (2, (Numeral.ofNat w.silver.toNat).text) ::
      (3, (Numeral.ofNat w.copper.toNat).text) :: more) = w := by
  show Wallet.mk (count (Numeral.ofNat w.gold.toNat).text)
    (count (Numeral.ofNat w.silver.toNat).text) (count (Numeral.ofNat w.copper.toNat).text) = w
  rw [count_text_ofNat, count_text_ofNat, count_text_ofNat]

private theorem kept_eq {caps : Pattern.Captures} {s : String} {p : Char → Bool} (hs : IsField p s)
    (h : caps.text i = s.toList) : kept caps i = s := by
  rw [kept, h, hs.tight.trimChars_eq, String.ofList_toList]

/-! ## Kinds of markers -/

/-- A text ends, or its line does. -/
def AtLineEnd (rest : List Char) : Prop := ∀ c ∈ rest.head?, c = '\n'

private theorem AtLineEnd.head?_any {p : Char → Bool} (h : AtLineEnd rest) (hp : p '\n' = false) :
    rest.head?.any p = false := by
  cases hr : rest.head? with
  | none => rfl
  | some c => rw [h c hr, Option.any_some, hp]

/-- A reading of a kind's pattern whose texts give a directive is a marker. -/
private theorem markerOf?_of_reads {k : Keyword} {source : List Char} {d : Directive}
    (caps : Pattern.Captures) (h : Reads (pattern k) (source ++ rest) rest caps)
    (hd : read? k caps = some d) :
    markerOf? k (source ++ rest) = some ⟨d, source⟩ := by
  simp [markerOf?, h.matchStart_eq, hd]

private theorem head?_field {p q : Char → Bool} {s : String} (hs : IsField p s)
    (hq : ∀ c, p c = true → Text.isBlank c = false → q c = false) :
    (s.toList ++ rest).head?.any q = false := by
  obtain ⟨c, cs, hcs, hp, hb⟩ := hs.exists_cons
  rw [hcs]
  exact hq c hp hb

private theorem ne_bracket_of_isFieldChar (h : isFieldChar c = true) : (c == '[') = false := by
  rw [beq_eq_false_iff_ne]
  rintro rfl
  exact absurd h (by decide)

private theorem reads_comma_field {s : String} (hs : IsField isFieldChar s) :
    Reads comma (',' :: (s.toList ++ rest)) (s.toList ++ rest) [] :=
  reads_comma (head?_field hs fun _ _ => isGap_of_not_blank)
    (head?_field hs fun _ h _ => ne_bracket_of_isFieldChar h)

/-- Coins in brackets. -/
theorem reads_reward (gold silver copper : Numeral) (rest : List Char) :
    Reads (pattern .reward)
      ("REWARD_CURRENCY".toList ++ (':' :: '[' :: (coinsText gold silver copper ++ ']' :: rest)))
      rest [(1, gold.text), (2, silver.text), (3, copper.text)] :=
  (Reads.word _).all_cons (reads_opensFields.all_cons
    ((reads_coins gold silver copper ⟨rfl, rfl, rfl⟩ rfl).all_cons
      ((reads_gap_nil rfl).all_cons (.left (.char ']')))))

private theorem markerOf?_reward (w : Wallet) (rest : List Char) :
    markerOf? .reward ((Directive.reward w).render.toList ++ rest) =
      some ⟨.reward w, (Directive.reward w).render.toList⟩ := by
  refine markerOf?_of_reads _ ?_ (congrArg some (congrArg _ (keptCoins_text_ofNat w [])))
  have hsource : (Directive.reward w).render.toList ++ rest =
      "REWARD_CURRENCY".toList ++ (':' :: '[' :: (w.render.toList ++ ']' :: rest)) := by
    show ("REWARD_CURRENCY" ++ (":[" ++ w.render ++ "]")).toList ++ rest = _
    simp
  rw [hsource, toList_render]
  exact reads_reward _ _ _ rest

/-- A distance in brackets. -/
theorem reads_distance (n : Numeral) (rest : List Char) :
    Reads (pattern .distance)
      ("DISTANCE_INFO".toList ++ (':' :: '[' :: (n.text ++ ']' :: rest))) rest [(1, n.text)] :=
  (Reads.word _).all_cons ((reads_colon rfl).all_cons ((Reads.char '[').all_cons
    ((reads_numeral n ⟨rfl, rfl, rfl⟩).all_cons
      ((reads_gap_nil rfl).all_cons (.char ']')))))

private theorem markerOf?_distance (n : UInt32) (rest : List Char) :
    markerOf? .distance ((Directive.distance n).render.toList ++ rest) =
      some ⟨.distance n, (Directive.distance n).render.toList⟩ := by
  apply markerOf?_of_reads [(1, (Numeral.ofNat n.toNat).text)]
  · have hsource : (Directive.distance n).render.toList ++ rest = "DISTANCE_INFO".toList ++
        (':' :: '[' :: ((Numeral.ofNat n.toNat).text ++ ']' :: rest)) := by
      show ("DISTANCE_INFO" ++ (":[" ++ Text.ofNat n.toNat ++ "]")).toList ++ rest = _
      simp [Text.ofNat]
    rw [hsource]
    exact reads_distance _ rest
  · exact congrArg (some ∘ Directive.distance) (count_text_ofNat n)

private theorem markerOf?_combatEnd (h : rest.head?.any Text.isWordChar = false) :
    markerOf? .combatEnd (Directive.combatEnd.render.toList ++ rest) =
      some ⟨.combatEnd, Directive.combatEnd.render.toList⟩ := by
  refine markerOf?_of_reads [] ?_ rfl
  exact (Reads.word "COMBAT_END").all_cons (.notNext h)

private theorem AtLineEnd.endsNumeral (h : AtLineEnd rest) : EndsNumeral rest :=
  ⟨h.head?_any rfl, h.head?_any rfl, h.head?_any (by decide)⟩

/-- A target and what it takes, to the end of the line. -/
theorem reads_damage {target : String} (ht : IsField isFieldChar target) (n : Numeral)
    (hne : n.word ≠ []) (h : AtLineEnd rest) :
    Reads (pattern .damage)
      ("DAMAGE".toList ++ (':' :: (target.toList ++ ',' :: (n.text ++ rest)))) rest
      [(1, target.toList), (2, n.text)] :=
  (Reads.word _).all_cons
    ((reads_opensFields_plain (head?_field ht fun _ _ => isGap_of_not_blank)
      (head?_field ht fun _ h _ => ne_bracket_of_isFieldChar h)).all_cons
    ((reads_field ht rfl).all_cons
      ((reads_comma_numeral n (h.head?_any rfl) (h.head?_any rfl)).all_cons
        ((reads_numeralSome n hne h.endsNumeral).all_cons
          (reads_bracket_absent (h.head?_any rfl) (h.head?_any rfl))))))

private theorem markerOf?_damage {target : String} {amount : Int32}
    (ht : IsField isFieldChar target) (ha : 0 ≤ amount.toInt) (h : AtLineEnd rest) :
    markerOf? .damage ((Directive.damage target amount).render.toList ++ rest) =
      some ⟨.damage target amount, (Directive.damage target amount).render.toList⟩ := by
  apply markerOf?_of_reads [(1, target.toList), (2, (Numeral.ofNat amount.toInt.toNat).text)]
  · have habs : amount.toInt.natAbs = amount.toInt.toNat := by omega
    have hnonneg : ¬amount.toInt < 0 := by omega
    have hsource : (Directive.damage target amount).render.toList ++ rest = "DAMAGE".toList ++
        (':' :: (target.toList ++ ',' :: ((Numeral.ofNat amount.toInt.toNat).text ++ rest))) := by
      show ("DAMAGE" ++ (":" ++ target ++ "," ++ Text.ofInt amount.toInt)).toList ++ rest = _
      rw [Text.ofInt, if_neg hnonneg, habs, Text.ofNat]
      simp
    rw [hsource]
    exact reads_damage ht _ (by simp [Numeral.word, Numeral.ofNat, Text.natDigits_ne_nil]) h
  · have hk : kept [(1, target.toList), (2, (Numeral.ofNat amount.toInt.toNat).text)] 1 = target :=
      kept_eq ht rfl
    have hd := damageOf_count_text_ofNat ha
    rw [read?, hk]
    exact congrArg (some ∘ Directive.damage target) hd

private theorem isBracketed_of_isPlain (h : isPlain c = true) : isBracketed c = true := by
  simp only [isPlain, isBracketed, Bool.not_eq_true', Bool.or_eq_false_iff] at h ⊢
  exact ⟨⟨h.1.1.2, h.1.2⟩, h.2⟩

private theorem markerOf?_quest {name : String} (hn : IsField isPlain name) (rest : List Char) :
    markerOf? .quest ((Directive.quest name).render.toList ++ rest) =
      some ⟨.quest name, (Directive.quest name).render.toList⟩ := by
  apply markerOf?_of_reads [(1, name.toList)]
  · have hsource : (Directive.quest name).render.toList ++ rest =
        "QUEST_COMPLETE".toList ++ (':' :: '[' :: (name.toList ++ ']' :: rest)) := by
      show ("QUEST_COMPLETE" ++ (":[" ++ name ++ "]")).toList ++ rest = _
      simp
    rw [hsource]
    exact (Reads.word _).all_cons ((reads_colon rfl).all_cons
      (reads_bracketed fun c hc => isBracketed_of_isPlain (hn.2.2 c hc)))
  · rw [read?, kept_eq hn rfl]

private theorem reads_ambiance {description : String} {mid : List Char}
    (hd : IsField isPlain description)
    (h : Reads (Pattern.optional (.seq (Pattern.optional (.char '\r')) (.char '\n'))) mid rest []) :
    Reads (pattern .ambiance) ((Directive.ambiance description).render.toList ++ mid) rest
      [(1, description.toList)] := by
  have hsource : (Directive.ambiance description).render.toList ++ mid =
      "AMBIANCE".toList ++ (':' :: '[' :: (description.toList ++ ']' :: mid)) := by
    show ("AMBIANCE" ++ (":[" ++ description ++ "]")).toList ++ mid = _
    simp
  have hall : ∀ c ∈ description.toList, isBracketed c = true :=
    fun c hc => isBracketed_of_isPlain (hd.2.2 c hc)
  rw [hsource]
  exact (Reads.wordAnyCase rfl).all_cons ((reads_colon rfl).all_cons
    ((Reads.left ((Reads.char '[').seq (.capture (.someOf hd.toList_ne_nil hall rfl)))).all_cons
      ((Reads.left (.char ']')).all_cons h)))

private theorem read?_ambiance {description : String} (hd : IsField isPlain description) :
    read? .ambiance [(1, description.toList)] = some (.ambiance description) := by
  have hk : kept [(1, description.toList)] 1 = description := kept_eq hd rfl
  simp only [read?, hk, if_neg hd.1]

private theorem markerOf?_ambiance_line {description : String} (hd : IsField isPlain description)
    (rest : List Char) :
    markerOf? .ambiance (((Directive.ambiance description).render.toList ++ ['\n']) ++ rest) =
      some ⟨.ambiance description, (Directive.ambiance description).render.toList ++ ['\n']⟩ := by
  refine markerOf?_of_reads _ ?_ (read?_ambiance hd)
  rw [List.append_assoc]
  exact reads_ambiance hd (.left (.seq (.absent rfl) (.char '\n')))

private theorem markerOf?_ambiance_end {description : String} (hd : IsField isPlain description) :
    markerOf? .ambiance ((Directive.ambiance description).render.toList ++ []) =
      some ⟨.ambiance description, (Directive.ambiance description).render.toList⟩ :=
  markerOf?_of_reads _ (reads_ambiance hd (.absent rfl)) (read?_ambiance hd)

private theorem markerOf?_invite {name race calling gender : String}
    (h : ∀ s ∈ [name, race, calling, gender], IsField isFieldChar s) (rest : List Char) :
    markerOf? .invite
        ((Directive.invite (.offer name race calling gender)).render.toList ++ rest) =
      some ⟨.invite (.offer name race calling gender),
        (Directive.invite (.offer name race calling gender)).render.toList⟩ := by
  have hn : IsField isFieldChar name := h name (by simp)
  have hr : IsField isFieldChar race := h race (by simp)
  have hc : IsField isFieldChar calling := h calling (by simp)
  have hg : IsField isFieldChar gender := h gender (by simp)
  apply markerOf?_of_reads
    [(1, name.toList), (2, race.toList), (3, calling.toList), (4, gender.toList)]
  · have hsource : (Directive.invite (.offer name race calling gender)).render.toList ++ rest =
        "INVITE_CHARACTER".toList ++ (':' :: '[' :: (name.toList ++ ',' :: (race.toList ++
          ',' :: (calling.toList ++ ',' :: (gender.toList ++ ']' :: rest))))) := by
      show ("INVITE_CHARACTER" ++ (":[" ++ name ++ "," ++ race ++ "," ++ calling ++ "," ++ gender ++
        "]")).toList ++ rest = _
      simp
    rw [hsource]
    exact (Reads.word _).all_cons (reads_opensFields.all_cons ((reads_field hn rfl).all_cons
      ((reads_comma_field hr).all_cons ((reads_field hr rfl).all_cons
      ((reads_comma_field hc).all_cons ((reads_field hc rfl).all_cons
      ((reads_comma_field hg).all_cons ((reads_field hg rfl).all_cons (.left (.char ']'))))))))))
  · simp only [read?]
    rw [kept_eq hn rfl, kept_eq hr rfl, kept_eq hc rfl, kept_eq hg rfl]
    simp [hn.1, hr.1, hc.1, hg.1]

private theorem splitAt_combatants {cs : List Combatant}
    (h : ∀ c ∈ cs, IsField Combatant.isPartChar c.id) :
    (Text.splitAt ';' (";".intercalate (cs.map Combatant.render))).filterMap combatant? = cs := by
  by_cases hcs : cs = []
  · subst hcs
    rfl
  · rw [Text.splitAt_intercalate rfl (by simpa using hcs), List.filterMap_map]
    · have hread : ∀ c ∈ cs, (combatant? ∘ Combatant.render) c = some c :=
        fun c hc => Combatant.combatant?_render (h c hc)
      rw [List.filterMap_congr hread, List.filterMap_some]
    · intro s hs hm
      obtain ⟨c, hc, rfl⟩ := List.mem_map.mp hs
      exact absurd ((Combatant.isField_render (h c hc)).2.2 _ hm) (by decide)

private theorem markerOf?_minimap {combatants : List Combatant}
    (h : ∀ c ∈ combatants, IsField Combatant.isPartChar c.id) (rest : List Char) :
    markerOf? .minimap ((Directive.minimap combatants).render.toList ++ rest) =
      some ⟨.minimap combatants, (Directive.minimap combatants).render.toList⟩ := by
  let text := ";".intercalate (combatants.map Combatant.render)
  have hfield : ∀ s ∈ combatants.map Combatant.render,
      IsField (fun c => isPlain c && c != ';') s := by
    intro s hs
    obtain ⟨c, hc, rfl⟩ := List.mem_map.mp hs
    exact Combatant.isField_render (h c hc)
  apply markerOf?_of_reads [(1, text.toList)]
  · have hsource : (Directive.minimap combatants).render.toList ++ rest =
        "MINIMAP".toList ++ (':' :: '[' :: (text.toList ++ ']' :: rest)) := by
      show ("MINIMAP" ++ (":[" ++ text ++ "]")).toList ++ rest = _
      simp [text]
    have hall : ∀ c ∈ text.toList, isBracketed c = true := by
      have hsemicolon : ∀ c ∈ (";" : String).toList, isBracketed c = true :=
        List.forall_mem_singleton.mpr rfl
      refine IsField.forall_mem_intercalate hsemicolon hfield fun c hc => ?_
      rw [Bool.and_eq_true] at hc
      exact isBracketed_of_isPlain hc.1
    rw [hsource]
    exact (Reads.word _).all_cons ((reads_colon rfl).all_cons (reads_bracketed hall))
  · have htrim : Text.trimChars text.toList = text.toList := by
      by_cases hcs : combatants = []
      · simp only [text, hcs]
        rfl
      · apply Text.Tight.trimChars_eq
        exact IsField.tight_intercalate (by simpa using hcs) hfield
    have hk : kept [(1, text.toList)] 1 = text := by
      simp [kept, Pattern.Captures.text, htrim]
    rw [read?, hk, splitAt_combatants h]

/-- What follows the tag of a purchase. -/
private def itemList (items : List String) : List Char := ',' :: (", ".intercalate items).toList

private theorem not_comma_of_isField {s : String} (h : IsField isFieldChar s) : ',' ∉ s.toList := by
  intro hm
  exact absurd (h.2.2 ',' hm) (by decide)

private theorem splitAt_itemList {i : String} {is : List String}
    (h : ∀ s ∈ i :: is, IsField isFieldChar s) :
    Text.splitAt ',' (String.ofList (itemList (i :: is))) =
      "" :: i :: is.map fun s => String.ofList (' ' :: s.toList) := by
  have htext : itemList (i :: is) =
      [','].intercalate ([] :: i.toList :: is.map fun s => ' ' :: s.toList) := by
    have hsep : (", " : String).toList = [',', ' '] := rfl
    rw [itemList, String.toList_intercalate, hsep, List.map_cons, Text.intercalate_pair,
      List.map_map, List.intercalate_cons_cons]
    rfl
  have hpieces : ∀ piece ∈ [] :: i.toList :: is.map fun s => ' ' :: s.toList, ',' ∉ piece := by
    intro piece hp
    simp only [List.mem_cons, List.mem_map] at hp
    obtain rfl | rfl | ⟨s, hs, rfl⟩ := hp
    · simp
    · exact not_comma_of_isField (h i (by simp))
    · have hn := not_comma_of_isField (h s (by simp [hs]))
      simp [hn]
  rw [Text.splitAt, String.toList_ofList, htext, Text.splitChars_intercalate (by simp) hpieces]
  simp

/-- The items of a purchase read as themselves. -/
private theorem listed_itemList {items : List String} (h : ∀ s ∈ items, IsField isFieldChar s) :
    (listed ',' (String.ofList (itemList items))).filter (fun s => s ≠ "") = items := by
  cases items with
  | nil => rfl
  | cons i is =>
    have htrim : (is.map fun s => String.ofList (' ' :: s.toList)).map Text.trim = is := by
      rw [List.map_map]
      refine (List.map_congr_left fun s hs => ?_).trans (List.map_id _)
      have hs' := (h s (by simp [hs])).tight.trimChars_eq
      rw [Function.comp_apply, Text.trim, String.toList_ofList, Text.trimChars_cons rfl, hs',
        String.ofList_toList]
      rfl
    have hempty : Text.trim "" = "" := rfl
    rw [listed, splitAt_itemList h, List.map_cons, List.map_cons, htrim, hempty,
      (h i (by simp)).2.1, List.filter_cons_of_neg (by simp), List.filter_eq_self]
    intro s hs
    simpa using (h s hs).1

private theorem tight_itemList {items : List String} (h : ∀ s ∈ items, IsField isFieldChar s) :
    Text.Tight (itemList items) := by
  have hcomma : Text.Tight [','] := .singleton rfl
  by_cases hi : items = []
  · subst hi
    exact hcomma
  · have hjoined : Text.Tight (", ".intercalate items).toList := IsField.tight_intercalate hi h
    have ht : Text.Tight ([','] ++ ([] ++ (", ".intercalate items).toList)) :=
      hcomma.append_append hjoined
    rwa [List.nil_append] at ht

private theorem forall_mem_itemList {q : Char → Prop} {items : List String} (hcomma : q ',')
    (hspace : q ' ') (hq : ∀ c, isFieldChar c = true → q c)
    (h : ∀ s ∈ items, IsField isFieldChar s) : ∀ c ∈ itemList items, q c := by
  have hsep : ∀ c ∈ (", " : String).toList, q c :=
    List.forall_mem_cons.mpr ⟨hcomma, List.forall_mem_singleton.mpr hspace⟩
  intro c hc
  rcases List.mem_cons.mp hc with rfl | hc
  · exact hcomma
  · exact IsField.forall_mem_intercalate hsep h hq c hc

private theorem kept_itemList {caps : Pattern.Captures} {items : List String}
    (h : ∀ s ∈ items, IsField isFieldChar s) (hc : caps.text i = itemList items) :
    Text.remove isBracket (kept caps i) = String.ofList (itemList items) := by
  have hb : ∀ c ∈ itemList items, isBracket c = false := by
    refine forall_mem_itemList rfl rfl (fun c hc => ?_) h
    simp only [isFieldChar, Bool.not_eq_true', Bool.or_eq_false_iff] at hc
    simp [isBracket, hc.1.1.1.2, hc.1.1.2]
  rw [kept, hc, (tight_itemList h).trimChars_eq, Text.remove, String.toList_ofList,
    List.filter_eq_self.mpr fun c hc => by simp [hb c hc]]

/-- Coins in brackets, the name of who pays, and what comes with the purchase. -/
theorem reads_purchase (gold silver copper : Numeral) {tag : String}
    (ht : IsField isFieldChar tag) {items : List Char} (hi : ∀ c ∈ items, isNotLineFeed c = true)
    (hend : (items ++ rest).head?.any isFieldChar = false) (h : AtLineEnd rest) :
    Reads (pattern .purchase)
      ("TRANSACTION".toList ++ (':' :: '[' :: (coinsText gold silver copper ++ ']' :: ',' ::
        (tag.toList ++ (items ++ rest)))))
      rest [(1, gold.text), (2, silver.text), (3, copper.text), (5, tag.toList), (6, items)] := by
  have hplain : (Pattern.char '[').matchStart (tag.toList ++ (items ++ rest)) = none :=
    Pattern.matchStart_one_eq_none (head?_field ht fun _ h _ => ne_bracket_of_isFieldChar h)
  exact (Reads.word _).all_cons (reads_opensFields.all_cons
    ((reads_coins gold silver copper ⟨rfl, rfl, rfl⟩ rfl).all_cons
    ((reads_bracket rfl).all_cons ((reads_bracket_absent rfl rfl).all_cons
    ((reads_gap_nil rfl).all_cons ((Reads.char ',').all_cons
    ((reads_gap_nil (head?_field ht fun _ _ => isGap_of_not_blank)).all_cons
    ((Reads.right (by simp [Pattern.all, Pattern.matchStart, hplain])
      (.capture (.run ht.2.2 hend))).all_cons
    (.capture (.run hi (h.head?_any rfl)))))))))))

private theorem markerOf?_purchase {cost : Wallet} {tag : String} {items : List String}
    (ht : IsField isFieldChar tag) (hi : ∀ s ∈ items, IsField isFieldChar s) (h : AtLineEnd rest) :
    markerOf? .purchase ((Directive.purchase cost (some tag) items).render.toList ++ rest) =
      some ⟨.purchase cost (some tag) items,
        (Directive.purchase cost (some tag) items).render.toList⟩ := by
  apply markerOf?_of_reads
    [(1, (Numeral.ofNat cost.gold.toNat).text), (2, (Numeral.ofNat cost.silver.toNat).text),
      (3, (Numeral.ofNat cost.copper.toNat).text), (5, tag.toList), (6, itemList items)]
  · have hsource : (Directive.purchase cost (some tag) items).render.toList ++ rest =
        "TRANSACTION".toList ++ (':' :: '[' :: (cost.render.toList ++ ']' :: ',' ::
          (tag.toList ++ (itemList items ++ rest)))) := by
      show ("TRANSACTION" ++ (":[" ++ cost.render ++ "]," ++ tag ++ "," ++
        ", ".intercalate items)).toList ++ rest = _
      simp [itemList]
    have hline : ∀ c ∈ itemList items, isNotLineFeed c = true := by
      refine forall_mem_itemList rfl rfl (fun c hc => ?_) hi
      simp only [isFieldChar, Bool.not_eq_true', Bool.or_eq_false_iff] at hc
      simpa [isNotLineFeed] using hc.2
    rw [hsource, toList_render]
    exact reads_purchase _ _ _ ht hline rfl h
  · have h₄ (caps : Pattern.Captures) (hc : caps.text 4 = []) : kept caps 4 = "" := by
      rw [kept, hc]
      rfl
    simp only [read?]
    rw [h₄ _ rfl, kept_eq ht rfl, kept_itemList hi rfl, listed_itemList hi, keptCoins_text_ofNat]
    simp [ht.1]

private theorem reads_tagOpening (h : rest.head?.any (· == ')') = false) :
    Reads tagOpening ("(Tag:".toList ++ rest) rest [] := by
  have hword : Reads (.wordAnyCase "tag") ("Tag".toList ++ ':' :: rest) (':' :: rest) [] :=
    .wordAnyCase rfl
  exact (Reads.char '(').all_cons ((reads_gap_nil rfl).all_cons (hword.all_cons
    ((reads_gap_nil rfl).all_cons ((Reads.char ':').all_cons (.notNext h)))))

private theorem matchStart_tagOpening_eq_none (h : c ≠ '(') :
    tagOpening.matchStart (c :: cs) = none := by
  have hn : (Pattern.char '(').matchStart (c :: cs) = none :=
    Pattern.matchStart_one_eq_none (by simpa using h)
  simp [tagOpening, Pattern.all, Pattern.matchStart, hn]

private theorem isLineChar_of_isPlain (h : isPlain c = true) : isLineChar c = true := by
  simp only [isPlain, isLineChar, Bool.not_eq_true', Bool.or_eq_false_iff] at h ⊢
  exact ⟨h.1.2, h.2⟩

/-- The name of an item runs up to its tag. -/
private theorem reads_upTo_tag {text : List Char}
    (htext : ∀ c ∈ text, isLineChar c = true ∧ c ≠ '(') (h : (tagOpening.matchStart rest).isSome) :
    Reads (.upTo isLineChar tagOpening) (text ++ rest) rest [] := by
  refine .upTo (fun c hc => (htext c hc).1) (fun before after he hne => ?_) h
  obtain ⟨c, after, rfl⟩ := List.exists_cons_of_ne_nil hne
  exact matchStart_tagOpening_eq_none (htext c (by simp [he])).2

private theorem trimChars_bracketed (cs : List Char) :
    Text.trimChars ('[' :: (cs ++ [']', ' '])) = '[' :: (cs ++ [']']) := by
  have hsource : '[' :: (cs ++ [']', ' ']) = ('[' :: (cs ++ [']'])) ++ [' '] := by simp
  rw [hsource, Text.trimChars_concat rfl, (Text.Tight.enclosed rfl rfl).trimChars_eq]

private theorem remove_brackets {s : String} (h : ∀ c ∈ s.toList, isPlain c = true) :
    Text.remove isBracket (String.ofList ('[' :: (s.toList ++ [']']))) = s := by
  have hplain : s.toList.filter (fun c => !isBracket c) = s.toList := by
    apply List.filter_eq_self.mpr
    intro c hc
    have hc := h c hc
    simp only [isPlain, Bool.not_eq_true', Bool.or_eq_false_iff] at hc
    simp [isBracket, hc.1.1.1, hc.1.1.2]
  rw [Text.remove, String.toList_ofList, List.filter_cons_of_neg (by decide), List.filter_append,
    hplain, List.filter_cons_of_neg (by decide), List.filter_nil, List.append_nil,
    String.ofList_toList]

variable {name tag : String}

private theorem read?_item (hn : IsField (fun c => isPlain c && c != '(') name)
    (ht : IsField (fun c => isPlain c && c != ')') tag) :
    read? .item [(1, '[' :: (name.toList ++ [']', ' '])), (2, ' ' :: tag.toList)] =
      some (.item name tag) := by
  have hplain : ∀ c ∈ name.toList, isPlain c = true := by
    intro c hc
    have hc := hn.2.2 c hc
    rw [Bool.and_eq_true] at hc
    exact hc.1
  have hfirst : kept [(1, '[' :: (name.toList ++ [']', ' '])), (2, ' ' :: tag.toList)] 1 =
      String.ofList ('[' :: (name.toList ++ [']'])) :=
    congrArg String.ofList (trimChars_bracketed name.toList)
  have hsecond : kept [(1, '[' :: (name.toList ++ [']', ' '])), (2, ' ' :: tag.toList)] 2 =
      String.ofList tag.toList :=
    congrArg String.ofList ((Text.trimChars_cons rfl tag.toList).trans ht.tight.trimChars_eq)
  simp only [read?]
  rw [hfirst, hsecond, remove_brackets hplain, hn.2.1, if_neg hn.1, String.ofList_toList]

private theorem isLineChar_of_mem_name (hn : IsField (fun c => isPlain c && c != '(') name) :
    ∀ c ∈ name.toList ++ [']', ' '], isLineChar c = true ∧ c ≠ '(' := by
  intro c hc
  rcases List.mem_append.mp hc with hc | hc
  · have hc := hn.2.2 c hc
    simp only [Bool.and_eq_true, bne_iff_ne] at hc
    exact ⟨isLineChar_of_isPlain hc.1, hc.2⟩
  · simp only [List.mem_cons, List.not_mem_nil, or_false] at hc
    obtain rfl | rfl := hc <;> decide

private theorem isTagChar_of_mem_tag (ht : IsField (fun c => isPlain c && c != ')') tag) :
    ∀ c ∈ ' ' :: tag.toList, isTagChar c = true := by
  intro c hc
  rcases List.mem_cons.mp hc with rfl | hc
  · decide
  · have hc := ht.2.2 c hc
    simp only [isPlain, Bool.and_eq_true, Bool.not_eq_true', Bool.or_eq_false_iff,
      bne_iff_ne] at hc
    simp [isTagChar, hc.2, hc.1.1.2, hc.1.2]

private theorem markerOf?_item (hn : IsField (fun c => isPlain c && c != '(') name)
    (ht : IsField (fun c => isPlain c && c != ')') tag) (rest : List Char) :
    markerOf? .item ((Directive.item name tag).render.toList ++ rest) =
      some ⟨.item name tag, (Directive.item name tag).render.toList⟩ := by
  refine markerOf?_of_reads _ ?_ (read?_item hn ht)
  have hsource : (Directive.item name tag).render.toList ++ rest =
      "ITEM".toList ++ (':' :: ('[' :: (name.toList ++ [']', ' ']) ++ ("(Tag:".toList ++
        (' ' :: tag.toList ++ ')' :: rest)))) := by
    show ("ITEM" ++ (":[" ++ name ++ "] (Tag: " ++ tag ++ ")")).toList ++ rest = _
    simp
  have hopening : Reads tagOpening ("(Tag:".toList ++ (' ' :: tag.toList ++ ')' :: rest))
      (' ' :: tag.toList ++ ')' :: rest) [] := reads_tagOpening rfl
  have hbracket : Reads (.one isLineChar) ('[' :: (name.toList ++ [']', ' '] ++ ("(Tag:".toList ++
      (' ' :: tag.toList ++ ')' :: rest)))) _ [] := .one rfl
  have hfirst := hbracket.seq
    (reads_upTo_tag (isLineChar_of_mem_name hn) (by rw [hopening.matchStart_eq]; rfl))
  have hclose : Reads (.all [.char ')']) (')' :: rest) rest [] := .char ')'
  have hsecond : Reads (.capture 2 (Pattern.someOf isTagChar)) (' ' :: tag.toList ++ ')' :: rest)
      (')' :: rest) [(2, ' ' :: tag.toList)] :=
    .capture (.someOf (List.cons_ne_nil _ _) (isTagChar_of_mem_tag ht) rfl)
  rw [← List.cons_append] at hfirst
  rw [hsource]
  exact (Reads.wordAnyCase rfl).all_cons ((reads_colon rfl).all_cons
    (hfirst.capture.all_cons (hopening.all_cons (hsecond.all_cons hclose))))

/-! ## Every kind -/

/-- A rendering is read back as its directive, whatever follows the line; a scene takes the line
break with it, and an item may stand within its line. -/
theorem markerOf?_render {d : Directive} (hd : d.Renderable)
    (h : AtLineEnd rest ∨ d.keyword = .item) (ha : d.keyword = .ambiance → rest = []) :
    markerOf? d.keyword (d.render.toList ++ rest) = some ⟨d, d.render.toList⟩ := by
  have hend (hk : d.keyword ≠ .item) : AtLineEnd rest := h.resolve_right hk
  cases d with
  | reward coins => exact markerOf?_reward coins rest
  | item name tag => exact markerOf?_item hd.1 hd.2 rest
  | purchase cost tag items =>
    cases tag with
    | none => exact hd.elim
    | some tag => exact markerOf?_purchase hd.1 hd.2 (hend nofun)
  | damage target amount => exact markerOf?_damage hd.1 hd.2 (hend nofun)
  | ambiance description =>
    rw [ha rfl]
    exact markerOf?_ambiance_end hd
  | minimap combatants => exact markerOf?_minimap hd rest
  | distance meters => exact markerOf?_distance meters rest
  | combatEnd => exact markerOf?_combatEnd ((hend nofun).head?_any (by decide))
  | quest name => exact markerOf?_quest hd rest
  | invite i =>
    obtain ⟨hi, hf⟩ := hd
    rw [hi]
    exact markerOf?_invite hf rest

/-- The line break after a scene belongs to its marker. -/
theorem markerOf?_render_line {d : Directive} (hd : d.Renderable) (ha : d.keyword = .ambiance) :
    markerOf? d.keyword ((d.render.toList ++ ['\n']) ++ rest) =
      some ⟨d, d.render.toList ++ ['\n']⟩ := by
  cases d with
  | ambiance description => exact markerOf?_ambiance_line hd rest
  | _ => cases ha

end Tabletop.Grammar
