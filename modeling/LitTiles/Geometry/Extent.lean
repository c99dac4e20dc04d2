import LitTiles.Scalar

/-!
# Sizes of surfaces and views

A surface is measured in physical pixels, the part of the world it shows in world units.
-/

namespace LitTiles

/-- Size of a drawable surface in physical pixels. -/
structure SurfaceSize where
  /-- Pixels per row. -/
  width : UInt32
  /-- Number of rows. -/
  height : UInt32
  deriving DecidableEq, Inhabited

namespace SurfaceSize

/-- Nothing can be drawn on a surface without rows or columns. -/
def isEmpty (s : SurfaceSize) : Bool := s.width == 0 || s.height == 0

/-- Both dimensions scaled and rounded, but never below one pixel. -/
def scaled (s : SurfaceSize) (factor : Scalar) : SurfaceSize :=
  ⟨max (Scalar.pixels (Scalar.ofUInt32 s.width * factor)) 1,
   max (Scalar.pixels (Scalar.ofUInt32 s.height * factor)) 1⟩

/-- Width and height as floats, the way programs receive them. -/
def toList (s : SurfaceSize) : List Scalar := [Scalar.ofUInt32 s.width, Scalar.ofUInt32 s.height]

/-- The way a size is named in log messages. -/
def describe (s : SurfaceSize) : String :=
  "SurfaceSize \x7b width: " ++ toString s.width.toNat ++ ", height: " ++
    toString s.height.toNat ++ " \x7d"

end SurfaceSize

/-- Extent of a view in world units. -/
structure Viewport where
  /-- Visible width. -/
  width : Scalar
  /-- Visible height. -/
  height : Scalar

namespace Viewport

/-- A zoom that is zero, negative, infinite or NaN is read as one. -/
def usableZoom (zoom : Scalar) : Scalar :=
  if 0 < zoom && zoom.isFinite then zoom else 1

/-- The part of the world a surface shows when a world unit spans `zoom` pixels. -/
def ofSurface (size : SurfaceSize) (zoom : Scalar) : Viewport :=
  let z := usableZoom zoom
  ⟨Scalar.ofUInt32 size.width / z, Scalar.ofUInt32 size.height / z⟩

end Viewport

end LitTiles
