import LitTiles.Scene.Light

/-!
# Shadow volumes

Each edge of an outline is pushed away from the light by the light's radius; the edge and its image
span a quad, drawn as two triangles. Edges that are too short, and edges one end of which is at the
light, cast no shadow.
-/

namespace LitTiles

namespace Shadow

/-- Edges below this length are skipped. -/
def minEdge : Scalar := ⟨0x38d1b717⟩

/-- The two triangles of the shadow of one edge, as six corners. -/
def ofEdge (light : Vec2) (radius : Scalar) (a b : Vec2) : List Vec2 :=
  if (b - a).length < minEdge then []
  else
    let da := (a - light).normalized
    let db := (b - light).normalized
    if da == Vec2.zero || db == Vec2.zero then []
    else
      let aFar := a + da.scale radius
      let bFar := b + db.scale radius
      [a, b, bFar, a, bFar, aFar]

/-- The triangles cast by an outline, as a flat list of corners. -/
def triangles (light : Vec2) (radius : Scalar) (c : Collider) : List Vec2 :=
  c.edges.flatMap fun e => ofEdge light radius e.1 e.2

end Shadow

end LitTiles
