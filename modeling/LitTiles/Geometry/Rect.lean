import LitTiles.Geometry.Vec2

/-!
# Rectangles

Axis-aligned rectangles in world units. A negative extent is admitted everywhere; `normalized`
flips it. `Rect.overlaps` is a *closed* test on the normalized rectangles: touching edges count, so
that a light which only grazes the view is still drawn.
-/

namespace LitTiles

/-- An axis-aligned rectangle given by its top-left corner and its extent. -/
structure Rect where
  /-- Top-left corner. -/
  origin : Vec2
  /-- Width and height; a negative one reaches left of, or above, the origin. -/
  size : Vec2
  deriving Inhabited

namespace Rect

/-- The square around a circle. -/
def around (center : Vec2) (radius : Scalar) : Rect :=
  let r : Vec2 := ⟨radius, radius⟩
  ⟨center - r, r.scale 2⟩

/-- The corner where both coordinates are smallest, for a normalized rectangle. -/
def lower (r : Rect) : Vec2 := r.origin

/-- The corner opposite to the origin. -/
def upper (r : Rect) : Vec2 := r.origin + r.size

/-- The smallest rectangle around a list of points; there is none around no point. -/
def bounding : List Vec2 → Option Rect
  | [] => none
  | p :: ps =>
    let lo := ps.foldl (fun (a b : Vec2) => ⟨Scalar.lesser a.x b.x, Scalar.lesser a.y b.y⟩) p
    let hi := ps.foldl (fun (a b : Vec2) => ⟨Scalar.greater a.x b.x, Scalar.greater a.y b.y⟩) p
    some ⟨lo, hi - lo⟩

/-- All four numbers are finite. -/
def isFinite (r : Rect) : Bool := r.origin.isFinite && r.size.isFinite

/-- One axis with a non-negative extent: the start and the extent. -/
def flipAxis (start extent : Scalar) : Scalar × Scalar :=
  if extent < 0 then (start + extent, -extent) else (start, extent)

/-- The same area with a non-negative width and height. -/
def normalized (r : Rect) : Rect :=
  let h := flipAxis r.origin.x r.size.x
  let v := flipAxis r.origin.y r.size.y
  ⟨⟨h.1, v.1⟩, ⟨h.2, v.2⟩⟩

/-- Whether two rectangles share a point, edges included. -/
def overlaps (r s : Rect) : Bool :=
  let a := r.normalized
  let b := s.normalized
  a.origin.x <= b.upper.x && b.origin.x <= a.upper.x &&
    a.origin.y <= b.upper.y && b.origin.y <= a.upper.y

/-- The four corners, clockwise from the top left. -/
def corners (r : Rect) : List Vec2 :=
  [r.lower, ⟨r.upper.x, r.lower.y⟩, r.upper, ⟨r.lower.x, r.upper.y⟩]

end Rect

end LitTiles
