import LitTiles.Geometry.Extent
import LitTiles.Geometry.Rect

/-!
# Camera

A camera names the world point shown at the top left of the surface and the number of pixels per
world unit. Programs receive it as four numbers: the origin and the visible extent.
-/

namespace LitTiles

/-- A view of the world. -/
structure Camera where
  /-- World point at the top left of the surface. -/
  origin : Vec2 := Vec2.zero
  /-- Pixels per world unit. -/
  zoom : Scalar := 1
  deriving Inhabited

namespace Camera

/-- Extent of the view in world units. -/
def viewport (c : Camera) (surface : SurfaceSize) : Viewport := Viewport.ofSurface surface c.zoom

/-- The part of the world visible on a surface. -/
def visibleBounds (c : Camera) (surface : SurfaceSize) : Rect :=
  ⟨c.origin, ⟨(c.viewport surface).width, (c.viewport surface).height⟩⟩

/-- Origin and extent of the view, as the vertex programs consume them. -/
def viewUniform (c : Camera) (surface : SurfaceSize) : List Scalar :=
  [c.origin.x, c.origin.y, (c.viewport surface).width, (c.viewport surface).height]

@[simp] theorem length_viewUniform (c : Camera) (surface : SurfaceSize) :
    (c.viewUniform surface).length = 4 := rfl

end Camera

end LitTiles
