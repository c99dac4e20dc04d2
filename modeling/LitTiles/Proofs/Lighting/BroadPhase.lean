import LitTiles.Proofs.Lighting.Cells

/-!
# The broad phase

What a query answers is a function of the items that the grid was last rebuilt from
(`Grid.query_of_history`): those near the area, in ascending order. Other items that the grid held
before, and queries, have no part in it, and neither have the ways to look for candidates. A query
goes through the cells of its area or through the occupied cells, in the order that the table of
cells happens to have; their candidates differ in order and in repetitions alone
(`Grid.mem_covered_iff`, `Grid.mem_occupied_iff`), and a report depends on neither.

No collider is missed: what overlaps the area is among the answers (`Grid.mem_query_of_overlaps`).
-/

namespace LitTiles

namespace Grid

variable {g : Grid} {edge : Scalar} {bounds : List (Option Rect)} {b : Option Rect} {area r : Rect}
  {i : Nat} {range : CellRange} {entries : List ((Int × Int) × List Nat)}

/-! ## Two ways to look for candidates -/

/-- The items that are kept apart and overlap an area. -/
def apart (g : Grid) (area : Rect) : List Nat :=
  (g.oversized.filter fun p => p.2.overlaps area).map (·.1)

/-- The items in the cells of a range, cell by cell. -/
def covered (g : Grid) (range : CellRange) : List Nat :=
  range.cells.flatMap fun c => g.cells.getD c []

/-- The items that a list of the occupied cells has in a range. -/
def occupied (entries : List ((Int × Int) × List Nat)) (range : CellRange) : List Nat :=
  (entries.filter fun p => range.contains p.1).flatMap (·.2)

theorem candidates_eq (g : Grid) (area : Rect) :
    g.candidates area =
      (if (g.cells.size : Int) < (rangeOf g.cellSize area).count
        then occupied g.cells.toList (rangeOf g.cellSize area)
        else g.covered (rangeOf g.cellSize area)) ++ g.apart area := rfl

theorem mem_covered_iff :
    i ∈ g.covered range ↔ ∃ c, range.contains c = true ∧ i ∈ g.cells.getD c [] := by
  simp only [covered, List.mem_flatMap, CellRange.mem_cells]

theorem mem_occupied_iff (h : entries.Perm g.cells.toList) :
    i ∈ occupied entries range ↔ i ∈ g.covered range := by
  have listed : ∀ p, p ∈ entries ↔ g.cells[p.1]? = some p.2 := by
    rintro ⟨c, found⟩
    rw [h.mem_iff, Std.HashMap.mem_toList_iff_getElem?_eq_some]
  rw [mem_covered_iff]
  simp only [occupied, List.mem_flatMap, List.mem_filter, listed, Std.HashMap.getD_eq_getD_getElem?]
  constructor
  · rintro ⟨⟨c, found⟩, ⟨hc, hr⟩, hi⟩
    refine ⟨c, hr, ?_⟩
    rwa [hc]
  · rintro ⟨c, hr, hi⟩
    cases hc : g.cells[c]? with
    | none =>
      rw [hc] at hi
      cases hi
    | some found =>
      rw [hc] at hi
      exact ⟨(c, found), ⟨hc, hr⟩, hi⟩

/-- Either way leads to the same items. -/
theorem mem_candidates_iff :
    i ∈ g.candidates area ↔ i ∈ g.covered (rangeOf g.cellSize area) ++ g.apart area := by
  rw [candidates_eq, List.mem_append, List.mem_append]
  refine or_congr_left ?_
  split
  · exact mem_occupied_iff (List.Perm.refl _)
  · exact Iff.rfl

/-! ## The items near an area -/

/-- Whether an item with some bounds belongs to the answer for an area: finite ones that cover few
cells if one of these is a cell of the area, and finite ones that cover many cells if they overlap
the area. -/
def answers (edge : Scalar) (area : Rect) : Option Rect → Bool
  | none => false
  | some r =>
    let own := (rangeOf (usableCellSize edge) r.normalized).cells
    let range := rangeOf (usableCellSize edge) area.normalized
    r.isFinite && if (own.length : Int) ≤ maxItemCells then own.any range.contains
      else r.overlaps area

theorem answers_iff (ha : area.isFinite = true) :
    answers edge area b = true ↔
      (∃ c, (rangeOf (usableCellSize edge) area.normalized).contains c = true ∧
          Lists (usableCellSize edge) b c) ∨
        ∃ s, Exceeds (usableCellSize edge) b s ∧ s.overlaps area.normalized = true := by
  cases b with
  | none => simp [answers, Lists, Exceeds, usable]
  | some r =>
    by_cases hr : r.isFinite = true
    · have own : usable (some r) = some r.normalized := usable_eq_some_iff.mpr ⟨r, rfl, hr, rfl⟩
      simp only [answers, hr, Bool.true_and, (ordered_rangeOf hr).length_cells, Lists, Exceeds, own,
        Option.some.injEq, exists_eq_left', and_assoc]
      split
      · rename_i hsmall
        rw [List.any_eq_true]
        simp only [CellRange.mem_cells, hsmall, not_lt.mpr hsmall, true_and, false_and, or_false]
        exact exists_congr fun c => and_comm
      · rename_i hlarge
        simp only [hlarge, not_le.mp hlarge, true_and, false_and, and_false, exists_false, false_or,
          Rect.overlaps_normalized hr ha]
    · have none : usable (some r) = none := by simp [usable, hr]
      simp [answers, Lists, Exceeds, none, hr]

theorem Holds.mem_apart_iff (h : g.Holds edge bounds) :
    i ∈ g.apart area ↔
      ∃ b, bounds[i]? = some b ∧ ∃ s, Exceeds (usableCellSize edge) b s ∧
      s.overlaps area = true := by
  simp only [apart, List.mem_map, List.mem_filter]
  constructor
  · rintro ⟨⟨j, s⟩, ⟨hs, ho⟩, rfl⟩
    obtain ⟨b, hb, hx⟩ := h.mem_oversized_iff.mp hs
    exact ⟨b, hb, s, hx, ho⟩
  · rintro ⟨b, hb, s, hx, ho⟩
    exact ⟨(i, s), ⟨h.mem_oversized_iff.mpr ⟨b, hb, hx⟩, ho⟩, rfl⟩

/-- The candidates of a grid are the items that belong to the answer. -/
theorem Holds.mem_candidates_iff (h : g.Holds edge bounds) (ha : area.isFinite = true) :
    i ∈ g.candidates area.normalized ↔ ∃ b, bounds[i]? = some b ∧ answers edge area b = true := by
  rw [Grid.mem_candidates_iff, List.mem_append, mem_covered_iff, h.mem_apart_iff, h.cellSize]
  simp only [h.mem_cells_iff, answers_iff ha]
  constructor
  · rintro (⟨c, hc, b, hb, hl⟩ | ⟨b, hb, hx⟩)
    · exact ⟨b, hb, .inl ⟨c, hc, hl⟩⟩
    · exact ⟨b, hb, .inr hx⟩
  · rintro ⟨b, hb, ⟨c, hc, hl⟩ | hx⟩
    · exact .inl ⟨c, hc, b, hb, hl⟩
    · exact .inr ⟨b, hb, hx⟩

/-- Every candidate has a stamp. -/
theorem Holds.lt_size_of_mem_candidates (h : g.Holds edge bounds) (ha : area.isFinite = true)
    (hi : i ∈ g.candidates area.normalized) : i < g.stamps.size := by
  obtain ⟨b, hb, -⟩ := (h.mem_candidates_iff ha).mp hi
  rw [h.size]
  exact (List.getElem?_eq_some_iff.mp hb).1

theorem Holds.query_answers (h : g.Holds edge bounds) (ha : area.isFinite = true) :
    (g.query area).1 =
      (List.range bounds.length).filter fun i => answers edge area (bounds.getD i none) := by
  have ascending : ((List.range bounds.length).filter fun i =>
      answers edge area (bounds.getD i none)).Pairwise (· < ·) := List.pairwise_lt_range.filter _
  refine (pairwise_query h.past area).eq_of_mem_iff ascending fun i => ?_
  rw [mem_query_iff h.past, h.mem_candidates_iff ha, List.mem_filter, List.mem_range, h.size,
    List.getD_eq_getElem?_getD]
  constructor
  · rintro ⟨-, ⟨b, hb, hanswers⟩, hi⟩
    refine ⟨hi, ?_⟩
    rwa [hb]
  · rintro ⟨hi, hanswers⟩
    rw [List.getElem?_eq_getElem hi] at hanswers ⊢
    exact ⟨ha, ⟨_, rfl, hanswers⟩, hi⟩

/-- Bounds that overlap the area belong to the answer, whether they cover few cells or many. -/
theorem answers_of_overlaps (hr : r.isFinite = true) (ha : area.isFinite = true)
    (ho : r.overlaps area = true) : answers edge area (some r) = true := by
  simp only [answers, hr, Bool.true_and]
  split
  · obtain ⟨c, hc, hc'⟩ :=
      ((ordered_rangeOf hr).meets_iff (ordered_rangeOf ha)).mp (meets_rangeOf hr ha ho)
    exact List.any_eq_true.mpr ⟨c, CellRange.mem_cells.mpr hc, hc'⟩
  · exact ho

/-! ## Histories -/

/-- What a grid is used for. -/
inductive Use where
  /-- Its items are replaced. -/
  | rebuild (bounds : List (Option Rect))
  /-- It is asked for the items near an area. -/
  | query (area : Rect)

/-- What a use leaves of a grid. -/
def use (g : Grid) : Use → Grid
  | .rebuild bounds => g.rebuild bounds
  | .query area => (g.query area).2

/-- What some uses leave of a grid that was new. -/
def used (edge : Scalar) (uses : List Use) : Grid := uses.foldl use (empty edge)

theorem cellSize_use (g : Grid) (u : Use) : (g.use u).cellSize = g.cellSize := by
  cases u with
  | rebuild bounds => exact (insertAll_spares (g := g.emptied bounds) bounds.zipIdx).1
  | query area => exact cellSize_query area

theorem cellSize_foldl_use (uses : List Use) : (uses.foldl use g).cellSize = g.cellSize := by
  induction uses generalizing g with
  | nil => rfl
  | cons u uses ih => exact ih.trans (cellSize_use g u)

theorem Holds.foldl_query (h : g.Holds edge bounds) (areas : List Rect) :
    ((areas.map Use.query).foldl use g).Holds edge bounds := by
  induction areas generalizing g with
  | nil => exact h
  | cons area areas ih => exact ih (h.query area)

/-- Since a grid was rebuilt it holds the same items. -/
theorem holds_used (edge : Scalar) (before : List Use) (bounds : List (Option Rect))
    (areas : List Rect) :
    (used edge (before ++ .rebuild bounds :: areas.map .query)).Holds edge bounds := by
  rw [used, List.foldl_append, List.foldl_cons]
  apply Holds.foldl_query
  apply Holds.rebuild
  exact cellSize_foldl_use before

/-- **What a query answers.** A grid with any history answers from the items of its last rebuild
those that belong to the answer, in ascending order. It would do so from the occupied cells, however
these are listed, as from the cells of the area, and every item that it looks at has a stamp. -/
theorem query_of_history (edge : Scalar) (before : List Use) (bounds : List (Option Rect))
    (areas : List Rect) {area : Rect} (ha : area.isFinite = true) :
    let g := used edge (before ++ .rebuild bounds :: areas.map .query)
    let range := rangeOf g.cellSize area.normalized
    let found := (List.range bounds.length).filter fun i => answers edge area (bounds.getD i none)
    (g.query area).1 = found ∧
      ∀ entries, entries.Perm g.cells.toList →
        ∀ near, near = occupied entries range ∨ near = g.covered range →
          g.report (near ++ g.apart area.normalized) = found ∧
            ∀ i ∈ near ++ g.apart area.normalized, i < g.nextStamp.stamps.size := by
  intro g range found
  have holds : g.Holds edge bounds := holds_used edge before bounds areas
  refine ⟨holds.query_answers ha, ?_⟩
  intro entries perm near hnear
  -- both listings of the cells hold the same items
  have same : ∀ i, i ∈ near ++ g.apart area.normalized ↔ i ∈ g.candidates area.normalized := by
    intro i
    rw [mem_candidates_iff, List.mem_append, List.mem_append]
    refine or_congr_left ?_
    rcases hnear with rfl | rfl
    · exact mem_occupied_iff perm
    · exact Iff.rfl
  constructor
  · rw [report_eq_of_mem_iff holds.past same, ← query_eq_report ha]
    exact holds.query_answers ha
  · intro i hi
    rw [size_stamps_nextStamp]
    exact holds.lt_size_of_mem_candidates ha ((same i).mp hi)

/-- Flipped bounds that end where the area starts, none, infinite ones, large ones and some far
away, after other items and other queries. -/
theorem query_of_history_mixed :
    let area : Rect := ⟨⟨24, 4⟩, ⟨-4, -2⟩⟩
    let items : List (Option Rect) :=
      [some ⟨⟨20, 2⟩, ⟨-20, -2⟩⟩, none, some ⟨⟨0, 0⟩, ⟨Scalar.infinity, 1⟩⟩,
        some ⟨⟨0, 0⟩, ⟨72, 72⟩⟩, some ⟨⟨100, 100⟩, ⟨1, 1⟩⟩]
    area.isFinite = true ∧
      ((used 8 ([.query area, .rebuild [some area]] ++ .rebuild items ::
        [area, area].map .query)).query
        area).1 = [0, 3] := by
  intro area items
  have finite : area.isFinite = true := by decide +kernel
  refine ⟨finite, ?_⟩
  rw [(query_of_history 8 [.query area, .rebuild [some area]] items [area, area] finite).1]
  decide +kernel

/-- **No collider is missed.** A query answers every item whose bounds are finite and overlap the
area. -/
theorem mem_query_of_overlaps (edge : Scalar) (before : List Use) (bounds : List (Option Rect))
    (areas : List Rect) {area r : Rect} {i : Nat} (hi : bounds[i]? = some (some r))
    (hr : r.isFinite = true) (ha : area.isFinite = true) (ho : r.overlaps area = true) :
    i ∈ ((used edge (before ++ .rebuild bounds :: areas.map .query)).query area).1 := by
  have holds := holds_used edge before bounds areas
  rw [mem_query_iff holds.past]
  have candidate := (holds.mem_candidates_iff ha).mpr ⟨some r, hi, answers_of_overlaps hr ha ho⟩
  exact ⟨ha, candidate, holds.lt_size_of_mem_candidates ha candidate⟩

/-- Bounds whose far edge is beyond all floats, and a flipped area that they touch with the other
edge. All cells in question have the last number there is. -/
theorem mem_query_of_overlaps_saturated :
    let r : Rect := ⟨⟨3e38, 0⟩, ⟨3e38, 1⟩⟩
    let area : Rect := ⟨⟨3e38, 3⟩, ⟨-1e38, -2⟩⟩
    (r.isFinite = true ∧ area.isFinite = true ∧ r.upper.x.isInf = true ∧ r.overlaps area = true) ∧
      1 ∈ ((used 64 ([.query area] ++ .rebuild [none, some r] :: [area].map .query)).query
        area).1 := by
  intro r area
  have finite : r.isFinite = true := by decide +kernel
  have finite' : area.isFinite = true := by decide +kernel
  have touching : r.overlaps area = true := by decide +kernel
  refine ⟨⟨finite, finite', by decide +kernel, touching⟩, ?_⟩
  exact mem_query_of_overlaps 64 [.query area] [none, some r] [area] rfl finite finite' touching

end Grid

end LitTiles
