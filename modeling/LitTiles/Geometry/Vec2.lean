import LitTiles.Scalar

/-!
# Points and offsets

World positions have their origin at the top left and their second axis pointing down, so a
positive angle turns clockwise on the screen.
-/

namespace LitTiles

/-- A point or an offset in world units. -/
structure Vec2 where
  /-- Distance to the right of the origin. -/
  x : Scalar
  /-- Distance below the origin. -/
  y : Scalar
  deriving Inhabited

namespace Vec2

/-- The origin. -/
def zero : Vec2 := ⟨0, 0⟩

instance : Add Vec2 := ⟨fun a b => ⟨a.x + b.x, a.y + b.y⟩⟩

instance : Sub Vec2 := ⟨fun a b => ⟨a.x - b.x, a.y - b.y⟩⟩

/-- Both coordinates multiplied by `k`. -/
def scale (a : Vec2) (k : Scalar) : Vec2 := ⟨a.x * k, a.y * k⟩

/-- Both coordinates divided by `k`. -/
def shrink (a : Vec2) (k : Scalar) : Vec2 := ⟨a.x / k, a.y / k⟩

/-- Coordinatewise comparison of floats: zeros of either sign agree, a NaN agrees with nothing. -/
instance : BEq Vec2 := ⟨fun a b => a.x == b.x && a.y == b.y⟩

/-- The direction of an angle in radians; zero points to the right. -/
def ofAngle (angle : Scalar) : Vec2 := ⟨Scalar.cosine angle, Scalar.sine angle⟩

/-- Euclidean length. -/
def length (a : Vec2) : Scalar := Scalar.hypot a.x a.y

/-- The vector scaled to unit length, or `zero` when it is too short (or not a number). -/
def normalized (a : Vec2) : Vec2 :=
  if Scalar.epsilon < a.length then a.shrink a.length else zero

/-- Neither coordinate is infinite or NaN. -/
def isFinite (a : Vec2) : Bool := a.x.isFinite && a.y.isFinite

/-- The two coordinates in memory order. -/
def toList (a : Vec2) : List Scalar := [a.x, a.y]

@[simp] theorem length_toList (a : Vec2) : a.toList.length = 2 := rfl

end Vec2

end LitTiles
