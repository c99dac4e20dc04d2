import LitTiles.Scene.Layer
import LitTiles.Scene.Light
import LitTiles.Scene.Camera

/-!
# Scenes

A scene is owned and edited by the caller; rendering only reads it. Layers keep their identity
across frames, everything else is read anew each frame.
-/

namespace LitTiles

/-- Everything there is to draw. -/
structure Scene where
  /-- Layers, in the caller's order. -/
  layers : List Layer := []
  /-- Lights, in the caller's order. -/
  lights : List Light := []
  /-- Outlines that block light. -/
  colliders : List Collider := []
  /-- Colour of the light that reaches every place. -/
  ambientColor : Color := Color.white
  /-- Factor on the ambient colour. -/
  ambientIntensity : Scalar := 1
  deriving Inhabited

namespace Scene

/-- Colour the lightmap starts from before any light is drawn. -/
def ambient (s : Scene) : Color := s.ambientColor.scaledOpaque s.ambientIntensity

/-- The first layer with an identity. -/
def layer? (s : Scene) (id : LayerId) : Option Layer := s.layers.find? (·.id == id)

/-- Changes the first layer with an identity. -/
def modifyLayer (s : Scene) (id : LayerId) (f : Layer → Layer) : Scene :=
  { s with layers := go s.layers }
where
  /-- Changes the first match of a list. -/
  go : List Layer → List Layer
    | [] => []
    | l :: ls => if l.id == id then f l :: ls else l :: go ls

/-- Removes every layer with an identity. -/
def removeLayer (s : Scene) (id : LayerId) : Scene :=
  { s with layers := s.layers.filter (·.id != id) }

end Scene

end LitTiles
