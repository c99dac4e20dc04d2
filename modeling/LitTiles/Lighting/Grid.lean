import LitTiles.Geometry.Rect
import Std.Data.HashMap

/-!
# The broad phase

A uniform grid over the world that sorts rectangles into square cells, so that a light only visits
the outlines near it. An item that covers several cells is kept in each of them; a stamp per item
makes sure that one query reports it once. Items that cover more than `maxItemCells` cells are kept
apart and compared with every query.

A query visits the cells of its area, or all occupied cells if these are fewer. Either way it
answers the same items, in ascending order.
-/

namespace LitTiles

/-- A rectangle of cells, both corners included. -/
structure CellRange where
  /-- First column. -/
  x₀ : Int
  /-- First row. -/
  y₀ : Int
  /-- Last column. -/
  x₁ : Int
  /-- Last row. -/
  y₁ : Int
  deriving DecidableEq, Inhabited

namespace CellRange

/-- Number of cells. -/
def count (r : CellRange) : Int := (r.x₁ - r.x₀ + 1) * (r.y₁ - r.y₀ + 1)

/-- Whether a cell lies in the range. -/
def contains (r : CellRange) (c : Int × Int) : Bool :=
  r.x₀ ≤ c.1 && c.1 ≤ r.x₁ && r.y₀ ≤ c.2 && c.2 ≤ r.y₁

/-- The integers between two bounds, both included. -/
def between (lo hi : Int) : List Int :=
  (List.range (hi + 1 - lo).toNat).map fun (i : Nat) => lo + (i : Int)

/-- The cells of the range, row by row. -/
def cells (r : CellRange) : List (Int × Int) :=
  (between r.y₀ r.y₁).flatMap fun y => (between r.x₀ r.x₁).map fun x => (x, y)

/-- Whether two ranges share a cell. -/
def meets (r s : CellRange) : Bool :=
  r.x₀ ≤ s.x₁ && s.x₀ ≤ r.x₁ && r.y₀ ≤ s.y₁ && s.y₀ ≤ r.y₁

theorem mem_between {lo hi x : Int} : x ∈ between lo hi ↔ lo ≤ x ∧ x ≤ hi := by
  simp only [between, List.mem_map, List.mem_range]
  constructor
  · rintro ⟨i, hi', rfl⟩
    omega
  · rintro ⟨h₁, h₂⟩
    exact ⟨(x - lo).toNat, by omega, by omega⟩

theorem mem_cells {r : CellRange} {c : Int × Int} : c ∈ r.cells ↔ r.contains c = true := by
  obtain ⟨x, y⟩ := c
  simp only [cells, contains, List.mem_flatMap, List.mem_map, mem_between, Prod.mk.injEq,
    Bool.and_eq_true, decide_eq_true_eq]
  constructor
  · rintro ⟨_, hy, _, hx, rfl, rfl⟩
    omega
  · rintro h
    exact ⟨y, by omega, x, by omega, rfl, rfl⟩

end CellRange

/-- Items by the cells they cover. -/
structure Grid where
  /-- Edge of a cell in world units. -/
  cellSize : Scalar
  /-- The items in each occupied cell. -/
  cells : Std.HashMap (Int × Int) (List Nat) := {}
  /-- Items that cover too many cells, with their bounds. -/
  oversized : List (Nat × Rect) := []
  /-- The stamp of the last query that reported each item. -/
  stamps : Array UInt64 := #[]
  /-- The stamp of the last query. -/
  stamp : UInt64 := 0

namespace Grid

/-- Items that cover more cells than this are kept apart. -/
def maxItemCells : Int := 64

/-- A cell edge that is not positive and finite is read as 64. -/
def usableCellSize (size : Scalar) : Scalar := if 0 < size && size.isFinite then size else 64

/-- The grid without items. -/
def empty (cellSize : Scalar) : Grid := { cellSize := usableCellSize cellSize }

/-- The cells a normalized rectangle touches. -/
def rangeOf (cellSize : Scalar) (r : Rect) : CellRange :=
  let cell := fun (v : Scalar) => Scalar.cell (v / cellSize)
  ⟨cell r.lower.x, cell r.lower.y, cell r.upper.x, cell r.upper.y⟩

/-- The bounds under which an item takes part: finite ones, normalized. -/
def usable (bounds : Option Rect) : Option Rect := (bounds.filter (·.isFinite)).map (·.normalized)

/-- Adds one item. -/
def insert (g : Grid) (item : Nat) (bounds : Option Rect) : Grid :=
  match usable bounds with
  | none => g
  | some b =>
    let range := rangeOf g.cellSize b
    if maxItemCells < range.count then { g with oversized := g.oversized ++ [(item, b)] }
    else
      { g with
        cells := range.cells.foldl
          (fun m c => m.insert c ((m.getD c []) ++ [item])) g.cells }

/-- Replaces the contents: item `i` is the `i`-th of the list. Items without bounds, or with bounds
that are not finite, are never reported. -/
def rebuild (g : Grid) (bounds : List (Option Rect)) : Grid :=
  bounds.zipIdx.foldl (fun g p => g.insert p.2 p.1)
    { g with
      cells := {}
      oversized := []
      stamps := Array.replicate bounds.length 0 }

/-- Reports an item unless the query with this stamp has done so. -/
def visit (stamp : UInt64) (found : Array UInt64 × List Nat) (item : Nat) :
    Array UInt64 × List Nat :=
  match found.1[item]? with
  | none => found
  | some last =>
    if last = stamp then found else (found.1.setIfInBounds item stamp, item :: found.2)

/-- The next stamp. When the counter comes round, all stamps are forgotten. -/
def nextStamp (g : Grid) : Grid :=
  if g.stamp + 1 = 0 then { g with stamp := 1, stamps := g.stamps.map fun _ => 0 }
  else { g with stamp := g.stamp + 1 }

/-- The items that a query of an area has to look at, in some order and with repetitions. -/
def candidates (g : Grid) (area : Rect) : List Nat :=
  let range := rangeOf g.cellSize area
  let near :=
    if (g.cells.size : Int) < range.count then
      (g.cells.toList.filter fun p => range.contains p.1).flatMap (·.2)
    else range.cells.flatMap fun c => g.cells.getD c []
  near ++ (g.oversized.filter fun p => p.2.overlaps area).map (·.1)

/-- The items near an area, in ascending order. An area that is not finite has none. -/
def query (g : Grid) (area : Rect) : List Nat × Grid :=
  if area.isFinite then
    let g := g.nextStamp
    let found := (g.candidates area.normalized).foldl (visit g.stamp) (g.stamps, [])
    (found.2.mergeSort (· ≤ ·), { g with stamps := found.1 })
  else ([], g)

end Grid

end LitTiles
