import LitTiles.Color
import LitTiles.Geometry.Rect

/-!
# Lights and the outlines that block them
-/

namespace LitTiles

/-- A point light, or a spot light when it has a cone. -/
structure Light where
  /-- Where it stands. -/
  position : Vec2
  /-- How far it reaches. -/
  radius : Scalar
  /-- Its colour at full strength. -/
  color : Color
  /-- Factor on the colour. -/
  intensity : Scalar
  /-- Facing angle in radians; of no effect without a cone. -/
  direction : Scalar := 0
  /-- Half of the cone's opening in radians; a light without it shines all around. -/
  cone : Option Scalar := none
  deriving Inhabited

namespace Light

/-- The same light narrowed to a cone. -/
def spot (l : Light) (direction halfAngle : Scalar) : Light :=
  { l with direction := direction, cone := some halfAngle }

/-- The square a light can reach. -/
def bounds (l : Light) : Rect := Rect.around l.position l.radius

end Light

/-- A closed outline that blocks light; its last point connects back to the first. -/
structure Collider where
  /-- The corners of the outline, in order. -/
  points : List Vec2 := []
  deriving Inhabited

namespace Collider

/-- The outline of a rectangle. -/
def ofRect (r : Rect) : Collider := ⟨r.corners⟩

/-- The edges of the outline, the closing one last. Fewer than two points have none. -/
def edges (c : Collider) : List (Vec2 × Vec2) :=
  match c.points with
  | [] | [_] => []
  | p :: ps => (p :: ps).zip (ps ++ [p])

/-- The smallest rectangle around the outline. -/
def bounds (c : Collider) : Option Rect := Rect.bounding c.points

end Collider

end LitTiles
