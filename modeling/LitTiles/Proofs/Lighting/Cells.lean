import LitTiles.Proofs.Geometry.Rect
import LitTiles.Proofs.Lighting.Query

/-!
# What the cells of a grid hold

A finite rectangle covers a range of cells that is in order (`Grid.ordered_rangeOf`), and rectangles
that overlap cover ranges that meet (`Grid.meets_rangeOf`), because the number of a cell follows the
order of coordinates; neither overflow nor clamping spoils that.

An insertion adds an item to each cell of its range, or to the items that are kept apart. So what is
in a cell, and what is kept apart, is known of a grid that holds some items
(`Grid.Holds.mem_cells_iff`, `Grid.Holds.mem_oversized_iff`).
-/

namespace LitTiles

namespace CellRange

variable {r s : CellRange}

/-- Neither corner is beyond the other. -/
structure Ordered (r : CellRange) : Prop where
  /-- The columns are in order. -/
  x : r.x₀ ≤ r.x₁
  /-- The rows are in order. -/
  y : r.y₀ ≤ r.y₁

/-- The count of an ordered range is the number of its cells. -/
theorem Ordered.length_cells (h : r.Ordered) : (r.cells.length : Int) = r.count := by
  have columns := h.x
  have rows := h.y
  have width : ((between r.x₀ r.x₁).length : Int) = r.x₁ - r.x₀ + 1 := by
    simp only [between, List.length_map, List.length_range]
    omega
  have height : ((between r.y₀ r.y₁).length : Int) = r.y₁ - r.y₀ + 1 := by
    simp only [between, List.length_map, List.length_range]
    omega
  rw [cells, List.length_flatMap]
  simp only [List.length_map, List.map_const', List.sum_replicate_nat]
  rw [Nat.cast_mul, width, height, count]
  ring

/-- Ordered ranges meet if there is a cell in both. -/
theorem Ordered.meets_iff (hr : r.Ordered) (hs : s.Ordered) :
    r.meets s = true ↔ ∃ c, r.contains c = true ∧ s.contains c = true := by
  have rx := hr.x
  have ry := hr.y
  have sx := hs.x
  have sy := hs.y
  simp only [meets, contains, Bool.and_eq_true, decide_eq_true_eq]
  constructor
  · intro h
    -- the cell at the larger of the lower corners
    refine ⟨(max r.x₀ s.x₀, max r.y₀ s.y₀), ?_⟩
    simp only
    omega
  · rintro ⟨c, h⟩
    omega

end CellRange

namespace Grid

open Scalar Rect

variable {g : Grid} {edge : Scalar} {r s : Rect} {i : Nat} {c : Int × Int}

/-! ## Ranges -/

/-- The edge of a cell is finite and positive. -/
theorem usableCellSize_spec (edge : Scalar) :
    (usableCellSize edge).isFinite = true ∧ 0 < (usableCellSize edge).value := by
  unfold usableCellSize
  split
  · rename_i h
    rw [Bool.and_eq_true, decide_eq_true_eq] at h
    exact ⟨h.2, (zero_lt_iff (isNaN_of_isFinite h.2)).mp h.1⟩
  · decide

/-- Cells are numbered in the order of coordinates. -/
theorem cell_div_mono {x y : Scalar} (hx : x.isNaN = false) (hy : y.isNaN = false)
    (h : x.value ≤ y.value) : (x / usableCellSize edge).cell ≤ (y / usableCellSize edge).cell := by
  obtain ⟨hc, hpos⟩ := usableCellSize_spec edge
  apply cell_mono
  · exact (isNaN_div hx hc hpos).1
  · exact (isNaN_div hy hc hpos).1
  · exact div_mono hx hy hc hpos h

/-- A finite rectangle covers a range in order. -/
theorem ordered_rangeOf (h : r.isFinite = true) :
    (rangeOf (usableCellSize edge) r.normalized).Ordered := by
  have hx := inOrder_x h
  have hy := inOrder_y h
  exact ⟨cell_div_mono hx.lower hx.upper hx.le, cell_div_mono hy.lower hy.upper hy.le⟩

/-- **Rectangles that overlap cover ranges that meet.** -/
theorem meets_rangeOf (hr : r.isFinite = true) (hs : s.isFinite = true) (h : r.overlaps s = true) :
    (rangeOf (usableCellSize edge) r.normalized).meets
    (rangeOf (usableCellSize edge) s.normalized) =
      true := by
  obtain ⟨⟨hx, hx'⟩, hy, hy'⟩ := (overlaps_iff hr hs).mp h
  have rx := inOrder_x hr
  have ry := inOrder_y hr
  have sx := inOrder_x hs
  have sy := inOrder_y hs
  simp only [CellRange.meets, Bool.and_eq_true, decide_eq_true_eq, and_assoc]
  refine ⟨?_, ?_, ?_, ?_⟩
  · exact cell_div_mono rx.lower sx.upper hx
  · exact cell_div_mono sx.lower rx.upper hx'
  · exact cell_div_mono ry.lower sy.upper hy
  · exact cell_div_mono sy.lower ry.upper hy'

/-! ## Insertions -/

theorem usable_eq_some_iff {b : Option Rect} {s : Rect} :
    usable b = some s ↔ ∃ r, b = some r ∧ r.isFinite = true ∧ r.normalized = s := by
  simp only [usable, Option.map_eq_some_iff, Option.filter_eq_some_iff, and_assoc]

theorem mem_getD_foldl_insert (cells : List (Int × Int)) (item : Nat)
    (m : Std.HashMap (Int × Int) (List Nat)) :
    i ∈ (cells.foldl (fun m c => m.insert c (m.getD c [] ++ [item])) m).getD c [] ↔
      i ∈ m.getD c [] ∨ i = item ∧ c ∈ cells := by
  induction cells generalizing m with
  | nil => simp
  | cons c' cells ih =>
    rw [List.foldl_cons, ih, List.mem_cons]
    by_cases hc : c = c'
    · subst hc
      rw [Std.HashMap.getD_insert_self, List.mem_append, List.mem_singleton, or_assoc]
      simp only [true_or, and_true, or_iff_left_of_imp And.left]
    · rw [Std.HashMap.getD_insert, if_neg (by simpa using fun h => hc h.symm)]
      simp only [hc, false_or]

/-- An item with some bounds is to be found in a cell. -/
def Lists (edge : Scalar) (b : Option Rect) (c : Int × Int) : Prop :=
  ∃ s, usable b = some s ∧ (rangeOf edge s).count ≤ maxItemCells ∧
    (rangeOf edge s).contains c = true

/-- An item with some bounds is kept apart, under normalized ones. -/
def Exceeds (edge : Scalar) (b : Option Rect) (s : Rect) : Prop :=
  usable b = some s ∧ maxItemCells < (rangeOf edge s).count

theorem mem_cells_insert (item : Nat) (b : Option Rect) :
    i ∈ (g.insert item b).cells.getD c [] ↔
      i ∈ g.cells.getD c [] ∨ i = item ∧ Lists g.cellSize b c := by
  unfold insert Lists
  cases usable b with
  | none => simp
  | some s =>
    simp only [Option.some.injEq, exists_eq_left']
    split
    · rename_i hlarge
      have : ¬ (rangeOf g.cellSize s).count ≤ maxItemCells := not_le.mpr hlarge
      simp [this]
    · rename_i hsmall
      rw [mem_getD_foldl_insert, CellRange.mem_cells]
      simp [not_lt.mp hsmall]

theorem mem_oversized_insert (item : Nat) (b : Option Rect) :
    (i, s) ∈ (g.insert item b).oversized ↔
      (i, s) ∈ g.oversized ∨ i = item ∧ Exceeds g.cellSize b s := by
  unfold insert Exceeds
  cases usable b with
  | none => simp
  | some s' =>
    simp only [Option.some.injEq]
    split
    · rename_i hlarge
      rw [List.mem_append, List.mem_singleton, Prod.mk.injEq]
      refine or_congr_right (and_congr_right fun _ => ⟨?_, ?_⟩)
      · rintro rfl
        exact ⟨rfl, hlarge⟩
      · exact fun h => h.1.symm
    · rename_i hsmall
      refine (or_iff_left ?_).symm
      rintro ⟨-, rfl, hlarge⟩
      exact hsmall hlarge

/-- What an insertion makes true of the item that is inserted alone, many make true of each of
theirs. -/
theorem insertAll_iff {P : Grid → Prop} {Q : Scalar → Option Rect → Prop}
    (step : ∀ g item b, P (insert g item b) ↔ P g ∨ i = item ∧ Q g.cellSize b)
    (items : List (Option Rect × Nat)) :
    P (g.insertAll items) ↔ P g ∨ ∃ b, (b, i) ∈ items ∧ Q g.cellSize b := by
  induction items generalizing g with
  | nil => simp [insertAll]
  | cons p items ih =>
    obtain ⟨b, item⟩ := p
    change P ((g.insert item b).insertAll items) ↔ _
    rw [ih, step, (insert_spares item b).1, or_assoc]
    refine or_congr_right ?_
    simp only [List.mem_cons, Prod.mk.injEq]
    constructor
    · rintro (⟨rfl, h⟩ | ⟨b', hmem, h⟩)
      · exact ⟨b, .inl ⟨rfl, rfl⟩, h⟩
      · exact ⟨b', .inr hmem, h⟩
    · rintro ⟨b', ⟨rfl, rfl⟩ | hmem, h⟩
      · exact .inl ⟨rfl, h⟩
      · exact .inr ⟨b', hmem, h⟩

/-! ## A grid that holds items -/

variable {bounds : List (Option Rect)}

/-- Each item is in the cells of its range. -/
theorem Holds.mem_cells_iff (h : g.Holds edge bounds) :
    i ∈ g.cells.getD c [] ↔ ∃ b, bounds[i]? = some b ∧ Lists (usableCellSize edge) b c := by
  have same : g.cells = (filled edge bounds).cells := congrArg (·.2.1) h.shelf
  have all :=
    insertAll_iff (P := fun g => i ∈ g.cells.getD c []) (Q := fun edge b => Lists edge b c)
    (fun g item b => mem_cells_insert item b) (g := (empty edge).emptied bounds) bounds.zipIdx
  rw [same]
  apply all.trans
  simp [emptied, empty, List.mem_zipIdx_iff_getElem?]

/-- The items with large ranges are kept apart. -/
theorem Holds.mem_oversized_iff (h : g.Holds edge bounds) :
    (i, s) ∈ g.oversized ↔ ∃ b, bounds[i]? = some b ∧ Exceeds (usableCellSize edge) b s := by
  have same : g.oversized = (filled edge bounds).oversized := congrArg (·.2.2) h.shelf
  have all :=
    insertAll_iff (P := fun g => (i, s) ∈ g.oversized) (Q := fun edge b => Exceeds edge b s)
    (fun g item b => mem_oversized_insert item b) (g := (empty edge).emptied bounds) bounds.zipIdx
  rw [same]
  apply all.trans
  simp [emptied, empty, List.mem_zipIdx_iff_getElem?]

end Grid

end LitTiles
