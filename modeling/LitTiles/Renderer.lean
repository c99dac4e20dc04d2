import LitTiles.Batch.MirrorTable
import LitTiles.Device.Options
import LitTiles.Lighting.Chain

/-!
# The renderer

A renderer draws scenes through one backend. A frame is, in this order:

1. the offscreen targets are made anew, if the size has changed since they were made;
2. the frame begins, and the table of mirrors is brought in line with the scene;
3. the lit layers are drawn onto the scene target, in stacking order;
4. the lightmap is drawn, and scene and lightmap are composed into the primary target;
5. the unlit layers are drawn onto the primary target;
6. the masks of all layers are drawn onto the mask target;
7. the passes are run, mirrors without a layer age, and the frame ends.

Any error ends the frame at the failing call; the next `render` starts a fresh one. A surface
without pixels is not drawn at all.

Layers are ordered by their stacking key; layers with the same key keep the order of the scene.
-/

namespace LitTiles

/-- Settings of a renderer. -/
structure RendererConfig where
  /-- Colour the scene starts from in each frame. -/
  clearColor : Color := Color.black
  /-- Layers at or below this key are lit. -/
  shadowCutoff : ZIndex := ⟨0⟩
  /-- Instances of a static mirror. -/
  staticCapacity : Nat := 65536
  /-- Instances of a dynamic mirror. -/
  dynamicCapacity : Nat := 16384
  /-- Consecutive frames without a reference before a mirror is evicted. -/
  layerLifetime : Nat := 60
  /-- Spacing of the taps of the blur, in texels. -/
  blurRadius : Scalar := 1.5
  /-- Cell edge of the broad phase in world units. -/
  lightCellSize : Scalar := 128
  /-- Preferences for opening a device. -/
  device : DeviceOptions := {}
  deriving Inhabited

/-- The limits of the table of mirrors; a lifetime of zero is read as one. -/
def RendererConfig.mirrorLimits (c : RendererConfig) : MirrorLimits :=
  ⟨c.staticCapacity, c.dynamicCapacity, max c.layerLifetime 1⟩

/-- The state of a renderer. -/
structure Renderer where
  /-- Settings. -/
  config : RendererConfig
  /-- Compiled effects. -/
  registry : Registry
  /-- The backend's side of the layers. -/
  mirrors : MirrorTable
  /-- What the lighting chain keeps. -/
  lighting : Lighting
  /-- The passes after the masks. -/
  passes : List Stage
  /-- Size of the surface. -/
  size : SurfaceSize
  /-- Whether the targets have to be made anew before the next frame. -/
  resizePending : Bool

namespace Renderer

/-- The interface of the backend. -/
def interface (r : Renderer) : Interface := r.registry.interface

/-- The state before the built-in effects are compiled. -/
def blank (interface : Interface) (size : SurfaceSize) (config : RendererConfig) : Renderer where
  config := config
  registry := { interface := interface }
  mirrors := { limits := config.mirrorLimits }
  lighting := .start config.blurRadius config.lightCellSize
  passes := Stage.defaultPasses
  size := size
  resizePending := true

/-- An action on the registry. -/
def onRegistry {α : Type} (a : Action Registry α) : Action Renderer α :=
  Action.within (·.registry) (fun x r => { r with registry := x }) a

/-- An action on the table of mirrors. -/
def onMirrors {α : Type} (a : Action MirrorTable α) : Action Renderer α :=
  Action.within (·.mirrors) (fun x r => { r with mirrors := x }) a

/-- An action on the lighting chain. -/
def onLighting {α : Type} (a : Action Lighting α) : Action Renderer α :=
  Action.within (·.lighting) (fun x r => { r with lighting := x }) a

/-- Uploads the first textures and compiles the built-in effects. -/
def prepare (textures : List Texture) : Action Renderer Unit := do
  textures.forM fun t => do
    Action.issue (.loadTexture t)
    Action.say .debug .renderer ("loaded atlas `" ++ t.name ++ "` (" ++
      toString t.width.toNat ++ "x" ++ toString t.height.toNat ++ ")")
  onRegistry Registry.registerBuiltIns

/-- Notes a new size; the targets are made anew at the start of the next frame. -/
def setSize (r : Renderer) (size : SurfaceSize) : Renderer :=
  if size = r.size then r else { r with size := size, resizePending := true }

/-- Sets the colour the scene starts from. -/
def setClearColor (r : Renderer) (color : Color) : Renderer :=
  { r with config := { r.config with clearColor := color } }

/-- Forces the next frame to upload a layer again, static or not. -/
def invalidate (r : Renderer) (id : LayerId) : Renderer :=
  { r with mirrors := r.mirrors.invalidate id }

/-- Uploads an atlas, in place of one of the same name. -/
def loadTexture (t : Texture) : Action Renderer Unit := Action.issue (.loadTexture t)

/-- Compiles an effect for use in passes. -/
def register (name : String) (effect : Effect) (blend : BlendMode) : Action Renderer Unit :=
  onRegistry (Registry.register name effect blend)

/-- The layers in stacking order. -/
def stacked (layers : List Layer) : List Layer := layers.mergeSort fun a b => a.z.val ≤ b.z.val

/-- Draws what was last uploaded of some layers, in order. Layers without draw calls are skipped. -/
def drawLayers (table : MirrorTable) (layers : List Layer) (target : Target) (mode : SpriteMode) :
    Action Renderer Unit :=
  layers.forM fun l =>
    match table.get? l.id with
    | some m =>
      if m.drawCalls.isEmpty then pure ()
      else Action.issue (.drawSprites target mode m.buffer m.drawCalls)
    | none => pure ()

/-- Makes the offscreen targets anew if the size has changed. -/
def applyResize : Action Renderer Unit := do
  let r ← get
  if r.resizePending then
    Action.issue (.configureTargets r.size (slotSizes r.size))
    modify fun r => { r with resizePending := false }
    Action.say .debug .renderer ("offscreen targets sized for " ++ r.size.describe)

/-- The stage that lights the scene. -/
def composite : Stage where
  effect := EffectName.light
  inputs := [OffscreenSlot.scene.index, OffscreenSlot.lightmap.index]
  output := OffscreenSlot.primary.target

/-- Everything that is drawn of a scene once its layers are uploaded. -/
def paint (scene : Scene) (view : Rect) (context : FrameContext) : Action Renderer Unit := do
  let r ← get
  let order := stacked scene.layers
  let (lit, unlit) := order.partition (·.z.isLitBelow r.config.shadowCutoff)
  Action.issue (.clear OffscreenSlot.scene.target r.config.clearColor)
  drawLayers r.mirrors lit OffscreenSlot.scene.target .color
  let _ ← onLighting (Lighting.render r.registry scene view context)
  Stage.run r.registry context composite
  drawLayers r.mirrors unlit OffscreenSlot.primary.target .color
  Action.issue (.clear OffscreenSlot.mask.target .transparent)
  drawLayers r.mirrors order OffscreenSlot.mask.target .mask
  Stage.runAll r.registry context r.passes

/-- One frame of a scene, on targets of the right size. -/
def drawFrame (scene : Scene) (camera : Camera) (time : Scalar) : Action Renderer Unit := do
  let size := (← get).size
  let view := camera.visibleBounds size
  Action.issue (.beginFrame view)
  onMirrors (MirrorTable.sync scene.layers)
  paint scene view ⟨size, time⟩
  onMirrors MirrorTable.collect
  Action.issue .endFrame

/-- One frame of a scene on a surface that has pixels. -/
def frame (scene : Scene) (camera : Camera) (time : Scalar) : Action Renderer Unit := do
  applyResize
  drawFrame scene camera time

/-- Draws a scene as seen by a camera, at a number of seconds after the start. -/
def render (scene : Scene) (camera : Camera) (time : Scalar) : Action Renderer Unit := do
  if (← get).size.isEmpty then
    Action.say .trace .renderer "skipping frame for empty surface"
  else frame scene camera time

/-- Gives all buffers back. -/
def dispose : Action Renderer Unit := onMirrors MirrorTable.clear

end Renderer

end LitTiles
