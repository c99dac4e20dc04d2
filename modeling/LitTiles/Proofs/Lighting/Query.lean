import LitTiles.Lighting.Grid
import Mathlib.Data.List.Sort

/-!
# Queries of a grid

A query looks at candidates, in some order and with repetitions, and keeps those that are items and
were not reported before. It knows the latter by their stamps, so all depends on the stamps being
behind the counter when a query starts (`lt_stamp_nextStamp`); what is known while it runs is
`Grid.Finds`, and in the end every item among the candidates was reported, once and in ascending
order (`mem_report_iff`, `pairwise_report`), whatever their order was.

A grid that `Holds` some items, as every grid does that was rebuilt from them, answers like the one
that was built for them alone (`Holds.query_eq`): neither what it held before nor earlier queries
make a difference.
-/

namespace LitTiles

namespace Grid

variable {g g' : Grid} {edge : Scalar} {bounds : List (Option Rect)} {area : Rect} {i n : Nat}

/-! ## Stamps -/

/-- No stamp is ahead of the counter. -/
def Past (g : Grid) : Prop := ∀ s ∈ g.stamps, s ≤ g.stamp

/-- A stamp is ahead of the one before unless the counter has come round to zero. -/
theorem lt_add_one_of_ne_zero {s : UInt64} (h : s + 1 ≠ 0) : s < s + 1 := by
  have hs := s.toNat_lt
  have hne : s.toNat + 1 ≠ 2 ^ 64 := by
    intro he
    refine h (UInt64.toNat_inj.mp ?_)
    rw [UInt64.toNat_add, UInt64.toNat_one, he]
    rfl
  rw [UInt64.lt_iff_toNat_lt, UInt64.toNat_add, UInt64.toNat_one, Nat.mod_eq_of_lt (by omega)]
  omega

/-- Once the counter was advanced all stamps are behind it, even if it came round. -/
theorem lt_stamp_nextStamp (hp : g.Past) : ∀ s ∈ g.nextStamp.stamps, s < g.nextStamp.stamp := by
  intro s hs
  unfold nextStamp at hs ⊢
  by_cases hw : g.stamp + 1 = 0
  · rw [if_pos hw] at hs ⊢
    obtain ⟨_, -, rfl⟩ := Array.mem_map.mp hs
    exact (by decide : (0 : UInt64) < 1)
  · rw [if_neg hw] at hs ⊢
    exact UInt64.lt_of_le_of_lt (hp s hs) (lt_add_one_of_ne_zero hw)

@[simp] theorem size_stamps_nextStamp : g.nextStamp.stamps.size = g.stamps.size := by
  unfold nextStamp
  split <;> simp

/-! ## Looking at candidates -/

/-- What is known when a query with a stamp has looked at some candidates. -/
structure Finds (stamp : UInt64) (n : Nat) (seen : List Nat) (found : Array UInt64 × List Nat) :
    Prop where
  /-- Every item has a stamp. -/
  size : found.1.size = n
  /-- The items that bear the stamp are those that were reported. -/
  stamped : ∀ i, found.1[i]? = some stamp ↔ i ∈ found.2
  /-- No item was reported twice. -/
  nodup : found.2.Nodup
  /-- What was reported are the items among the candidates. -/
  mem : ∀ i, i ∈ found.2 ↔ i ∈ seen ∧ i < n
  /-- No stamp is ahead. -/
  past : ∀ s ∈ found.1, s ≤ stamp

/-- Before any candidate was looked at nothing is reported, given that all stamps are behind. -/
theorem finds_nil {stamp : UInt64} {stamps : Array UInt64} (hs : ∀ s ∈ stamps, s < stamp) :
    Finds stamp stamps.size [] (stamps, []) where
  size := rfl
  stamped i := by
    refine iff_of_false (fun hi => ?_) List.not_mem_nil
    exact UInt64.lt_irrefl stamp (hs stamp (Array.mem_of_getElem? hi))
  nodup := List.nodup_nil
  mem i := by simp
  past s h := UInt64.le_of_lt (hs s h)

/-- One more candidate. -/
theorem Finds.visit {stamp : UInt64} {seen : List Nat} {found : Array UInt64 × List Nat}
    (hf : Finds stamp n seen found) (item : Nat) :
    Finds stamp n (seen ++ [item]) (visit stamp found item) := by
  unfold Grid.visit
  cases hi : found.1[item]? with
  | none =>
    -- it is not an item
    have hn : n ≤ item := hf.size ▸ Array.getElem?_eq_none_iff.mp hi
    refine ⟨hf.size, hf.stamped, hf.nodup, fun j => ?_, hf.past⟩
    rw [hf.mem, List.mem_append, List.mem_singleton]
    exact ⟨fun ⟨hj, hlt⟩ => ⟨.inl hj, hlt⟩, fun ⟨hj, hlt⟩ => ⟨hj.resolve_right (by omega), hlt⟩⟩
  | some last =>
    have hlt : item < n := hf.size ▸ (Array.getElem?_eq_some_iff.mp hi).1
    by_cases hl : last = stamp
    · -- it was reported before
      have hin : item ∈ seen := ((hf.mem item).mp ((hf.stamped item).mp (hl ▸ hi))).1
      simp only [if_pos hl]
      refine ⟨hf.size, hf.stamped, hf.nodup, fun j => ?_, hf.past⟩
      rw [hf.mem, List.mem_append, List.mem_singleton]
      refine and_congr_left fun _ => ⟨.inl, fun hj => hj.elim id ?_⟩
      rintro rfl
      exact hin
    · have hnew : item ∉ found.2 := by
        intro hin
        rw [(hf.stamped item).mpr hin] at hi
        exact hl (Option.some.inj hi).symm
      simp only [if_neg hl]
      refine ⟨?_, fun j => ?_, List.nodup_cons.mpr ⟨hnew, hf.nodup⟩, fun j => ?_, fun s hs => ?_⟩
      · rw [Array.size_setIfInBounds, hf.size]
      · rw [Array.getElem?_setIfInBounds, List.mem_cons]
        by_cases hj : item = j
        · subst hj
          simp [hf.size, hlt]
        · have hji : ¬ j = item := fun he => hj he.symm
          rw [if_neg hj, hf.stamped]
          simp [hji]
      · rw [List.mem_cons, hf.mem, List.mem_append, List.mem_singleton]
        constructor
        · rintro (rfl | ⟨hj, hlt'⟩)
          · exact ⟨.inr rfl, hlt⟩
          · exact ⟨.inl hj, hlt'⟩
        · rintro ⟨hj | rfl, hlt'⟩
          · exact .inr ⟨hj, hlt'⟩
          · exact .inl rfl
      · rcases Array.mem_or_eq_of_mem_setIfInBounds hs with hs | rfl
        · exact hf.past s hs
        · exact UInt64.le_refl s

/-- All candidates, one after the other. By induction on them, with `Finds.visit` for each. -/
theorem Finds.foldl {stamp : UInt64} {seen : List Nat} {found : Array UInt64 × List Nat}
    (hf : Finds stamp n seen found) (items : List Nat) :
    Finds stamp n (seen ++ items) (items.foldl (Grid.visit stamp) found) := by
  induction items generalizing seen found with
  | nil => rwa [List.append_nil]
  | cons item items ih =>
    have := ih (hf.visit item)
    rwa [List.append_assoc] at this

/-! ## What a query answers -/

@[simp] theorem candidates_nextStamp (area : Rect) :
    g.nextStamp.candidates area = g.candidates area := by
  unfold nextStamp
  split <;> rfl

/-- What is known when all candidates were looked at. -/
theorem finds_report (hp : g.Past) (items : List Nat) :
    Finds g.nextStamp.stamp g.stamps.size items
      (items.foldl (Grid.visit g.nextStamp.stamp) (g.nextStamp.stamps, [])) := by
  have start := finds_nil (lt_stamp_nextStamp hp)
  rw [size_stamps_nextStamp] at start
  exact start.foldl items

/-- What a query answers after looking at some candidates. -/
def report (g : Grid) (items : List Nat) : List Nat :=
  (items.foldl (Grid.visit g.nextStamp.stamp) (g.nextStamp.stamps, [])).2.mergeSort (· ≤ ·)

/-- The items among the candidates are reported. -/
theorem mem_report_iff (hp : g.Past) {items : List Nat} :
    i ∈ g.report items ↔ i ∈ items ∧ i < g.stamps.size := by
  rw [report, List.mem_mergeSort, (finds_report hp items).mem]

/-- Each item is reported once, and in ascending order. -/
theorem pairwise_report (hp : g.Past) (items : List Nat) : (g.report items).Pairwise (· < ·) := by
  have nodup := (List.mergeSort_perm _ (· ≤ ·)).nodup_iff.mpr (finds_report hp items).nodup
  have sorted := List.pairwise_mergeSort' (· ≤ ·)
    (items.foldl (Grid.visit g.nextStamp.stamp) (g.nextStamp.stamps, [])).2
  exact (sorted.and nodup).imp fun ⟨hle, hne⟩ => Nat.lt_of_le_of_ne hle hne

/-- A report does not depend on the order of the candidates, or on repetitions. -/
theorem report_eq_of_mem_iff (hp : g.Past) {items items' : List Nat}
    (h : ∀ i, i ∈ items ↔ i ∈ items') :
    g.report items = g.report items' := by
  refine (pairwise_report hp items).eq_of_mem_iff (pairwise_report hp items') fun i => ?_
  rw [mem_report_iff hp, mem_report_iff hp, h]

/-- What a query of a finite area comes to: a new stamp, a look at all candidates, and the report in
order. -/
theorem query_of_isFinite (ha : area.isFinite = true) :
    g.query area =
      let found := (g.candidates area.normalized).foldl (Grid.visit g.nextStamp.stamp)
        (g.nextStamp.stamps, [])
      (found.2.mergeSort (· ≤ ·), { g.nextStamp with stamps := found.1 }) := by
  simp only [query, if_pos ha, candidates_nextStamp]

/-- The answer of a query is the report on its candidates. -/
theorem query_eq_report (ha : area.isFinite = true) :
    (g.query area).1 = g.report (g.candidates area.normalized) := by
  rw [query_of_isFinite ha]
  rfl

theorem query_of_not_isFinite (ha : ¬ area.isFinite = true) : g.query area = ([], g) := if_neg ha

/-- A query answers the items among its candidates. -/
theorem mem_query_iff (hp : g.Past) :
    i ∈ (g.query area).1 ↔
      area.isFinite = true ∧ i ∈ g.candidates area.normalized ∧ i < g.stamps.size := by
  by_cases ha : area.isFinite = true
  · rw [query_eq_report ha, mem_report_iff hp]
    exact (and_iff_right ha).symm
  · rw [query_of_not_isFinite ha]
    simp [ha]

/-- A query answers each item once, and in ascending order. -/
theorem pairwise_query (hp : g.Past) (area : Rect) : (g.query area).1.Pairwise (· < ·) := by
  by_cases ha : area.isFinite = true
  · rw [query_eq_report ha]
    exact pairwise_report hp _
  · rw [query_of_not_isFinite ha]
    exact List.Pairwise.nil

/-! ## Grids with the same items -/

/-- What a grid knows of its items. -/
def shelf (g : Grid) : Scalar × Std.HashMap (Int × Int) (List Nat) × List (Nat × Rect) :=
  (g.cellSize, g.cells, g.oversized)

/-- Candidates are found in the cells and among the items at large, and in nothing else of a
grid. -/
theorem candidates_eq_of_shelf_eq (h : g.shelf = g'.shelf) (area : Rect) :
    g.candidates area = g'.candidates area := by
  obtain ⟨hs, hrest⟩ := Prod.mk.inj h
  obtain ⟨hc, ho⟩ := Prod.mk.inj hrest
  rw [candidates, candidates, hs, hc, ho]

/-- An item is entered in the same places of grids with the same places. -/
theorem shelf_insert (h : g.shelf = g'.shelf) (item : Nat) (b : Option Rect) :
    (g.insert item b).shelf = (g'.insert item b).shelf := by
  obtain ⟨hs, hrest⟩ := Prod.mk.inj h
  obtain ⟨hc, ho⟩ := Prod.mk.inj hrest
  unfold insert
  cases usable b with
  | none => exact h
  | some r =>
    simp only [hs]
    split <;> simp only [shelf, hc, ho]

/-- An insertion leaves all else alone. -/
theorem insert_spares (item : Nat) (b : Option Rect) :
    (g.insert item b).cellSize = g.cellSize ∧ (g.insert item b).stamps = g.stamps ∧
      (g.insert item b).stamp = g.stamp := by
  unfold insert
  cases usable b with
  | none => exact ⟨rfl, rfl, rfl⟩
  | some r =>
    simp only
    split <;> exact ⟨rfl, rfl, rfl⟩

/-- Inserts items, each with the number that stands beside its bounds. -/
def insertAll (g : Grid) (items : List (Option Rect × Nat)) : Grid :=
  items.foldl (fun g p => g.insert p.2 p.1) g

/-- Entering items changes neither the size of cells nor the stamps. -/
theorem insertAll_spares (items : List (Option Rect × Nat)) :
    (g.insertAll items).cellSize = g.cellSize ∧ (g.insertAll items).stamps = g.stamps ∧
      (g.insertAll items).stamp = g.stamp := by
  induction items generalizing g with
  | nil => exact ⟨rfl, rfl, rfl⟩
  | cons p items ih =>
    obtain ⟨hc, hs, hn⟩ := insert_spares (g := g) p.2 p.1
    obtain ⟨hc', hs', hn'⟩ := ih (g := g.insert p.2 p.1)
    exact ⟨hc'.trans hc, hs'.trans hs, hn'.trans hn⟩

/-- The same for all items, one after the other. -/
theorem shelf_insertAll (h : g.shelf = g'.shelf) (items : List (Option Rect × Nat)) :
    (g.insertAll items).shelf = (g'.insertAll items).shelf := by
  induction items generalizing g g' with
  | nil => exact h
  | cons p items ih => exact ih (shelf_insert h p.2 p.1)

/-- The grid without items, but with a stamp for each of some items to come. -/
def emptied (g : Grid) (bounds : List (Option Rect)) : Grid :=
  { g with cells := {}, oversized := [], stamps := Array.replicate bounds.length 0 }

/-- Rebuilding a grid is emptying it and entering the items by their numbers. -/
theorem rebuild_eq (g : Grid) (bounds : List (Option Rect)) :
    g.rebuild bounds = (g.emptied bounds).insertAll bounds.zipIdx := rfl

/-- The grid that was built for some items. -/
def filled (edge : Scalar) (bounds : List (Option Rect)) : Grid := (empty edge).rebuild bounds

/-- A grid has cells of an edge and knows some items, and no stamp is ahead. -/
structure Holds (g : Grid) (edge : Scalar) (bounds : List (Option Rect)) : Prop where
  /-- The cells have the edge. -/
  cellSize : g.cellSize = usableCellSize edge
  /-- The items are those that a grid would have been built for. -/
  shelf : g.shelf = (filled edge bounds).shelf
  /-- Every item has a stamp. -/
  size : g.stamps.size = bounds.length
  /-- No stamp is ahead. -/
  past : g.Past

/-- A rebuilt grid holds the items it was rebuilt from, whatever it held before. -/
theorem Holds.rebuild (h : g.cellSize = usableCellSize edge) (bounds : List (Option Rect)) :
    (g.rebuild bounds).Holds edge bounds := by
  have alike : (g.emptied bounds).shelf = ((empty edge).emptied bounds).shelf := by
    simp only [Grid.shelf, emptied, empty, h]
  obtain ⟨hc, hs, -⟩ := insertAll_spares (g := g.emptied bounds) bounds.zipIdx
  rw [← rebuild_eq] at hc hs
  refine ⟨hc.trans h, shelf_insertAll alike _, ?_, fun s hmem => ?_⟩
  · rw [hs]
    exact Array.size_replicate
  · rw [hs] at hmem
    rw [(Array.mem_replicate.mp hmem).2]
    exact UInt64.zero_le

/-- A query changes nothing but stamps. -/
theorem shelf_query (area : Rect) : (g.query area).2.shelf = g.shelf := by
  by_cases ha : area.isFinite = true
  · rw [query_of_isFinite ha]
    change g.nextStamp.shelf = g.shelf
    unfold nextStamp
    split <;> rfl
  · rw [query_of_not_isFinite ha]

/-- A query leaves the size of the cells. -/
theorem cellSize_query (area : Rect) : (g.query area).2.cellSize = g.cellSize :=
  congrArg Prod.fst (shelf_query area)

/-- A query leaves a grid with the same items. -/
theorem Holds.query (h : g.Holds edge bounds) (area : Rect) :
    (g.query area).2.Holds edge bounds := by
  refine ⟨(cellSize_query area).trans h.cellSize, (shelf_query area).trans h.shelf, ?_, ?_⟩
  · by_cases ha : area.isFinite = true
    · rw [query_of_isFinite ha]
      exact (finds_report h.past _).size.trans h.size
    · rw [query_of_not_isFinite ha]
      exact h.size
  · by_cases ha : area.isFinite = true
    · rw [query_of_isFinite ha]
      exact (finds_report h.past _).past
    · rw [query_of_not_isFinite ha]
      exact h.past

/-- Grids that hold the same items answer alike. -/
theorem Holds.query_eq (h : g.Holds edge bounds) (h' : g'.Holds edge bounds) (area : Rect) :
    (g.query area).1 = (g'.query area).1 := by
  refine (pairwise_query h.past area).eq_of_mem_iff (pairwise_query h'.past area) fun i => ?_
  rw [mem_query_iff h.past, mem_query_iff h'.past, h.size, h'.size,
    candidates_eq_of_shelf_eq (h.shelf.trans h'.shelf.symm)]

/-- What is found are items. -/
theorem Holds.lt_of_mem_query (h : g.Holds edge bounds) (hi : i ∈ (g.query area).1) :
    i < bounds.length := h.size ▸ ((mem_query_iff h.past).mp hi).2.2

end Grid

end LitTiles
