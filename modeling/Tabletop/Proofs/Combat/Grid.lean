import Mathlib.Data.List.Induction
import Tabletop.Combat
import Tabletop.Proofs.Text.AsciiCase

/-!
# What a grid shows

The grid of a fight is drawn one combatant after another. It keeps its five rows of ten places,
nobody is put beside it, and each place shows the last of those who stand there.
-/

namespace Tabletop

/-- The combatant stands in a column and a row. -/
def Combatant.StandsAt (c : Combatant) (x y : Nat) : Prop := c.x.toInt = x ∧ c.y.toInt = y

/-- What a combatant is shown as: the letter of the side, or for a player with an id the capital of
its first character. -/
inductive Combatant.ShownAs (c : Combatant) : Char → Prop
  | enemy : c.side = .enemy → c.ShownAs 'E'
  | neutral : c.side = .neutral → c.ShownAs 'N'
  | unnamed : c.side = .player → c.id = "" → c.ShownAs 'P'
  | named {first : Char} {rest : List Char} : c.side = .player → c.id.toList = first :: rest →
    c.ShownAs first.toUpper

theorem Combatant.shownAs_marker (c : Combatant) : c.ShownAs c.marker := by
  unfold marker
  split
  · next hside =>
    cases hid : c.id.toList with
    | nil => exact .unnamed hside (String.toList_eq_nil_iff.mp hid)
    | cons first rest =>
      rw [List.head?_cons, Option.map_some, Option.getD_some, Text.asciiUpperChar_eq_toUpper]
      exact .named hside hid
  · next hside => exact .enemy hside
  · next hside => exact .neutral hside

/-- The grid has ten columns and five rows. -/
theorem Combatant.onGrid_iff {c : Combatant} :
    c.onGrid = true ↔ ∃ x y, x < 10 ∧ y < 5 ∧ c.StandsAt x y := by
  unfold onGrid StandsAt columns rows
  simp only [Bool.and_eq_true, decide_eq_true_eq]
  constructor
  · intro h
    exact ⟨c.x.toInt.toNat, c.y.toInt.toNat, by omega, by omega, by omega, by omega⟩
  · rintro ⟨x, y, hx, hy, hstands⟩
    omega

namespace Combat

/-- What is seen at a place: the last one who stands there, or a point where nobody does. -/
inductive Shows (x y : Nat) : List Combatant → Char → Prop
  | last {before after : List Combatant} {c : Combatant} {shown : Char} :
    c.StandsAt x y → (∀ d ∈ after, ¬d.StandsAt x y) → c.ShownAs shown →
      Shows x y (before ++ c :: after) shown
  | point {combatants : List Combatant} :
    (∀ d ∈ combatants, ¬d.StandsAt x y) → Shows x y combatants '.'

/-- The grid has five rows of ten characters. -/
def Shaped (grid : List (List Char)) : Prop :=
  grid.length = 5 ∧ ∀ row ∈ grid, row.length = 10

/-- The character at a place of a grid. -/
def charAt? (grid : List (List Char)) (x y : Nat) : Option Char := grid[y]?.bind fun row => row[x]?

/-- A coordinate as an index. The sign of a negative one is extended, so that it lies far beyond
every row. -/
def index (i : Int32) : Nat := i.toInt64.toUInt64.toNat

/-- A combatant put at the place on a grid that the coordinates are the indices of; nothing if there
is no such place. -/
def place? (grid : List (List Char)) (c : Combatant) : Option (List (List Char)) :=
  match grid[index c.y]? with
  | some row =>
    if index c.x < row.length then some (grid.set (index c.y) (row.set (index c.x) c.marker))
    else .none
  | .none => .none

variable {grid : List (List Char)} {combatants : List Combatant} {c : Combatant} {x y : Nat}

/-! ## One combatant -/

/-- The index of a coordinate on the grid is the coordinate. -/
private theorem index_of_stands {i : Int32} {n : Nat} (h : i.toInt = n) : index i = n := by
  have hnonneg : 0 ≤ i.toInt64 := by
    rw [Int64.le_iff_toInt_le, Int32.toInt_toInt64, h]
    exact Int.natCast_nonneg n
  rw [index, Int64.toNat_toUInt64_of_le hnonneg, Int64.toNatClampNeg, Int32.toInt_toInt64, h]
  exact Int.toNat_natCast n

private theorem shaped_emptyGrid : Shaped emptyGrid := by
  constructor
  · exact List.length_replicate
  · intro row hrow
    rw [List.eq_of_mem_replicate hrow]
    exact List.length_replicate

/-- Whoever stands on the grid is drawn there. -/
private theorem draw_of_stands (hx : x < 10) (hy : y < 5) (h : c.StandsAt x y) :
    draw grid c = grid.modify y fun row => row.set x c.marker := by
  have hgrid : c.onGrid = true := Combatant.onGrid_iff.mpr ⟨x, y, hx, hy, h⟩
  rw [draw, if_pos hgrid, h.1, h.2]
  rfl

/-- Drawing keeps the shape of a grid. -/
private theorem Shaped.draw (hg : Shaped grid) (c : Combatant) : Shaped (draw grid c) := by
  unfold Combat.draw
  split
  · constructor
    · rw [List.length_modify]
      exact hg.1
    · intro row hrow
      obtain ⟨i, hi⟩ := List.mem_iff_getElem?.mp hrow
      rw [List.getElem?_modify] at hi
      obtain ⟨old, hold, rfl⟩ := Option.map_eq_some_iff.mp hi
      have hlength := hg.2 old (List.mem_of_getElem? hold)
      split
      · rwa [List.length_set]
      · exact hlength
  · exact hg

/-- There is a row of ten characters at each height. -/
private theorem Shaped.exists_row (hg : Shaped grid) (hy : y < 5) :
    ∃ row, grid[y]? = some row ∧ row.length = 10 := by
  have hlt : y < grid.length := by
    rw [hg.1]
    exact hy
  exact ⟨grid[y], List.getElem?_eq_getElem hlt, hg.2 _ (List.getElem_mem hlt)⟩

/-- Whoever stands on a grid can be put there, which draws the grid. -/
private theorem Shaped.place?_eq (hg : Shaped grid) (hc : c.onGrid = true) :
    place? grid c = some (Combat.draw grid c) := by
  obtain ⟨x, y, hx, hy, hstands⟩ := Combatant.onGrid_iff.mp hc
  obtain ⟨row, hrow, hlength⟩ := hg.exists_row hy
  have hlt : x < row.length := by omega
  rw [draw_of_stands hx hy hstands, place?, index_of_stands hstands.1, index_of_stands hstands.2]
  simp only [hrow, if_pos hlt]
  congr 1
  apply List.ext_getElem?
  intro i
  rw [List.getElem?_modify, List.getElem?_set]
  by_cases hi : y = i
  · subst hi
    obtain ⟨hlt', hget⟩ := List.getElem?_eq_some_iff.mp hrow
    simp [hlt', hget]
  · simp [hi]

/-- Where somebody is drawn the marker is seen, and everywhere else what was seen there before. -/
private theorem Shaped.charAt?_draw (hg : Shaped grid) (hx : x < 10) (hy : y < 5) (c : Combatant) :
    (c.StandsAt x y → charAt? (Combat.draw grid c) x y = some c.marker) ∧
      (¬c.StandsAt x y → charAt? (Combat.draw grid c) x y = charAt? grid x y) := by
  obtain ⟨row, hrow, hlength⟩ := hg.exists_row hy
  have hlt : x < row.length := by omega
  constructor
  · intro hstands
    rw [draw_of_stands hx hy hstands, charAt?, List.getElem?_modify, hrow]
    simp [hlt]
  · intro hnot
    by_cases hc : c.onGrid = true
    · obtain ⟨x', y', hx', hy', hstands⟩ := Combatant.onGrid_iff.mp hc
      rw [draw_of_stands hx' hy' hstands, charAt?, charAt?, List.getElem?_modify, hrow]
      by_cases hrows : y' = y
      · have hne : x' ≠ x := by
          intro heq
          subst heq hrows
          exact hnot hstands
        simp [hrows, hne]
      · simp [hrows]
    · rw [Combat.draw, if_neg hc]

/-! ## All combatants -/

private theorem gridRows_concat (combatants : List Combatant) (c : Combatant) :
    gridRows (combatants ++ [c]) = draw (gridRows combatants) c := by
  rw [gridRows, List.foldl_append]
  rfl

/-- However many are drawn, the grid keeps its shape. -/
private theorem shaped_gridRows (combatants : List Combatant) : Shaped (gridRows combatants) := by
  induction combatants using List.reverseRecOn with
  | nil => exact shaped_emptyGrid
  | append_singleton combatants c ih =>
    rw [gridRows_concat]
    exact ih.draw c

/-- Those on the grid are put there one after another. -/
private theorem foldlM_place? (combatants : List Combatant) :
    (combatants.filter Combatant.onGrid).foldlM place? emptyGrid = some (gridRows combatants) := by
  induction combatants using List.reverseRecOn with
  | nil => rfl
  | append_singleton combatants c ih =>
    rw [List.filter_append, List.foldlM_append, ih, gridRows_concat]
    by_cases hc : c.onGrid = true
    · simp [hc, (shaped_gridRows combatants).place?_eq hc]
    · simp [hc, draw]

/-- Those beside the grid are not drawn. -/
private theorem gridRows_filter_onGrid (combatants : List Combatant) :
    gridRows (combatants.filter Combatant.onGrid) = gridRows combatants := by
  have h := foldlM_place? (combatants.filter Combatant.onGrid)
  rw [List.filter_filter] at h
  simp only [Bool.and_self] at h
  rw [foldlM_place?] at h
  exact (Option.some.inj h).symm

/-- Somebody who stands elsewhere covers nothing. -/
private theorem Shows.concat {shown : Char} (h : Shows x y combatants shown) (c : Combatant)
    (hnot : ¬c.StandsAt x y) : Shows x y (combatants ++ [c]) shown := by
  cases h with
  | last hd hafter hshown =>
    rw [List.append_assoc, List.cons_append]
    refine .last hd ?_ hshown
    rw [List.forall_mem_append]
    exact ⟨hafter, List.forall_mem_singleton.mpr hnot⟩
  | point hnobody =>
    apply Shows.point
    rw [List.forall_mem_append]
    exact ⟨hnobody, List.forall_mem_singleton.mpr hnot⟩

private theorem charAt?_emptyGrid (hx : x < 10) (hy : y < 5) :
    charAt? emptyGrid x y = some '.' := by
  rw [charAt?, emptyGrid, List.getElem?_replicate, Combatant.rows, if_pos hy, Option.bind_some,
    List.getElem?_replicate, Combatant.columns, if_pos hx]

-- By induction from the last combatant on, who covers all those at the same place.
private theorem exists_charAt? (combatants : List Combatant) (hx : x < 10) (hy : y < 5) :
    ∃ shown, charAt? (gridRows combatants) x y = some shown ∧ Shows x y combatants shown := by
  induction combatants using List.reverseRecOn with
  | nil => exact ⟨'.', charAt?_emptyGrid hx hy, .point (List.forall_mem_nil _)⟩
  | append_singleton combatants c ih =>
    obtain ⟨hmarker, hother⟩ := (shaped_gridRows combatants).charAt?_draw hx hy c
    rw [gridRows_concat]
    by_cases hc : c.StandsAt x y
    · exact ⟨c.marker, hmarker hc, .last hc (List.forall_mem_nil _) c.shownAs_marker⟩
    · obtain ⟨shown, hshown, hshows⟩ := ih
      rw [hother hc]
      exact ⟨shown, hshown, hshows.concat c hc⟩

/-- A grid of any combatants, wherever they stand, is drawn without a place beside it, as five rows
of ten characters with line feeds between them. At each place the last combatant who stands there is
seen, or a point where nobody does, and those who stand beside the grid make no difference. -/
theorem render?_grid (active : Bool) (combatants : List Combatant) :
    ∃ rows : List (List Char),
      render? ⟨active, some (.grid combatants)⟩ =
        some (String.ofList (Text.joinChars ['\n'] rows)) ∧
      (combatants.filter Combatant.onGrid).foldlM place? emptyGrid = some rows ∧
      rows.length = 5 ∧ (∀ row ∈ rows, row.length = 10) ∧
      (∀ x < 10, ∀ y < 5, ∃ shown, charAt? rows x y = some shown ∧ Shows x y combatants shown) ∧
      render? ⟨active, some (.grid (combatants.filter Combatant.onGrid))⟩ =
        render? ⟨active, some (.grid combatants)⟩ := by
  obtain ⟨hlength, hrows⟩ := shaped_gridRows combatants
  refine ⟨gridRows combatants, rfl, foldlM_place? combatants, hlength, hrows, ?_, ?_⟩
  · intro x hx y hy
    exact exists_charAt? combatants hx hy
  · simp only [render?, Option.map_some, gridRows_filter_onGrid]

example :
    let thorin : Combatant := ⟨.player, "thorin", 0, 0⟩
    let goblin (x y : Int32) : Combatant := ⟨.enemy, "goblin", x, y⟩
    render? ⟨true, some (.grid [thorin, goblin 2 1, goblin 9 4, goblin 20 20, goblin (-1) 2])⟩ =
      some "T.........\n..E.......\n..........\n..........\n.........E" := by
  decide

end Combat

end Tabletop
