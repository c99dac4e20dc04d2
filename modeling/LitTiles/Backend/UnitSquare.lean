import LitTiles.Scalar

/-!
# The unit square

Sprites, lights and effects are all drawn as one square, which programs move and scale. It is two
triangles over four corners.
-/

namespace LitTiles.UnitSquare

/-- The corners, counted around. -/
def corners : List Scalar := [0, 0, 1, 0, 1, 1, 0, 1]

/-- The corners of the two triangles. -/
def indices : List UInt16 := [0, 1, 2, 0, 2, 3]

/-- Number of indices. -/
def indexCount : Nat := 6

@[simp] theorem length_indices : indices.length = indexCount := rfl

/-- The bytes of an index, least significant first. -/
def indexBytes (i : UInt16) : List UInt8 := [i.toUInt8, (i >>> 8).toUInt8]

/-- The bytes of the corners. -/
def cornerData : List UInt8 := floatBytes corners

/-- The bytes of the indices. -/
def indexData : List UInt8 := indices.flatMap indexBytes

end LitTiles.UnitSquare
