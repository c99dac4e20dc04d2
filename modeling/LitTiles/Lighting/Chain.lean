import LitTiles.Frame.Stage
import LitTiles.Lighting.Grid
import LitTiles.Lighting.Shadow

/-!
# The lighting chain

The lightmap starts from the ambient colour. Then each visible light is drawn by itself, its shadows
are blanked, the result is blurred along both axes and added to the lightmap. A light that cannot
be seen costs no call at all.
-/

namespace LitTiles

/-- What the lighting chain keeps from frame to frame. -/
structure Lighting where
  /-- Finds the outlines near a light. -/
  grid : Grid
  /-- Spacing of the taps of the blur, in texels. -/
  blurRadius : Scalar
  /-- The outlines near the light that was drawn last. -/
  hits : List Nat := []
  /-- The corners of the shadows of the light that was drawn last. -/
  triangles : List Vec2 := []

namespace Lighting

/-- The lighting chain before its first frame. -/
def start (blurRadius cellSize : Scalar) : Lighting :=
  { grid := .empty cellSize, blurRadius := blurRadius }

/-- Whether a light shines and can reach a part of the world. -/
def isVisible (view : Rect) (l : Light) : Bool :=
  0 < l.radius && 0 < l.intensity && l.bounds.overlaps view

/-- The lights that reach a part of the world, in order. -/
def visibleLights (lights : List Light) (view : Rect) : List Light :=
  lights.filter (isVisible view)

/-- The three stages after a light was drawn. -/
def stages (blurRadius : Scalar) : List Stage :=
  let radius : List UniformOverride := [⟨"radius", .float blurRadius⟩]
  [{ effect := EffectName.blurH
     inputs := [OffscreenSlot.lightTemp.index]
     output := OffscreenSlot.blurTemp.target
     overrides := radius },
   { effect := EffectName.blurV
     inputs := [OffscreenSlot.blurTemp.index]
     output := OffscreenSlot.lightTemp.target
     overrides := radius },
   { effect := EffectName.lightAccumulate
     inputs := [OffscreenSlot.lightTemp.index]
     output := OffscreenSlot.lightmap.target }]

/-- Looks up the outlines near a light. -/
def approach (l : Light) (s : Lighting) : Lighting :=
  let (hits, grid) := s.grid.query l.bounds
  { s with grid := grid, hits := hits }

/-- Adds the shadow that an outline casts from a light. -/
def addShadow (colliders : List Collider) (l : Light) (s : Lighting) (item : Nat) : Lighting :=
  match colliders[item]? with
  | some c => { s with triangles := s.triangles ++ Shadow.triangles l.position l.radius c }
  | none => s

/-- Collects the shadows that the outlines near a light cast from it, in place of those that were
collected before. -/
def gatherShadows (colliders : List Collider) (l : Light) (s : Lighting) : Lighting :=
  let near := approach l { s with triangles := [] }
  near.hits.foldl (addShadow colliders l) near

/-- Draws one light with its shadows and adds it to the lightmap. -/
def drawLight (registry : Registry) (frame : FrameContext) (colliders : List Collider)
    (l : Light) : Action Lighting Unit := do
  let temp := OffscreenSlot.lightTemp.target
  Action.issue (.clear temp .transparent)
  Action.issue (.drawLight temp (.ofLight l))
  modify (gatherShadows colliders l)
  let s ← getThe Lighting
  unless s.triangles.isEmpty do
    Action.issue (.drawShadows temp s.triangles)
  Stage.runAll registry frame (stages s.blurRadius)

/-- Draws the lightmap of a scene as seen through a view; answers the number of lights drawn. -/
def render (registry : Registry) (scene : Scene) (view : Rect) (frame : FrameContext) :
    Action Lighting Nat := do
  Action.issue (.clear OffscreenSlot.lightmap.target scene.ambient)
  modify fun l => { l with grid := l.grid.rebuild (scene.colliders.map (·.bounds)) }
  let lights := visibleLights scene.lights view
  lights.forM (drawLight registry frame scene.colliders)
  Action.say .trace .lighting ("lighting: " ++ toString lights.length ++ " of " ++
    toString scene.lights.length ++ " lights drawn")
  return lights.length

end Lighting

end LitTiles
