import LitTiles.Scalar

/-!
# Colours

Linear RGBA. Blending is premultiplied throughout, so tints and clear colours are read that way.
-/

namespace LitTiles

/-- A colour in linear space. -/
structure Color where
  /-- Red. -/
  r : Scalar
  /-- Green. -/
  g : Scalar
  /-- Blue. -/
  b : Scalar
  /-- Alpha. -/
  a : Scalar
  deriving Inhabited

namespace Color

/-- No colour and no coverage. -/
def transparent : Color := ⟨0, 0, 0, 0⟩

/-- Opaque black. -/
def black : Color := ⟨0, 0, 0, 1⟩

/-- Opaque white. -/
def white : Color := ⟨1, 1, 1, 1⟩

/-- The opaque colour whose channels are those of `c` times `k`. -/
def scaledOpaque (c : Color) (k : Scalar) : Color := ⟨c.r * k, c.g * k, c.b * k, 1⟩

/-- The four channels in memory order. -/
def toList (c : Color) : List Scalar := [c.r, c.g, c.b, c.a]

/-- No channel is infinite or NaN. -/
def isFinite (c : Color) : Bool := c.toList.all Scalar.isFinite

end Color

end LitTiles
