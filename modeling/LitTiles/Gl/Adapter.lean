import LitTiles.Backend.Script
import LitTiles.Backend.UnitSquare
import LitTiles.Gl.Image
import LitTiles.Gl.Program

/-!
# The adapter for GL contexts

A context executes commands in the order they are given, so one buffer that is refilled for every
light and every shadow is enough. The instances of a run of sprites are found by the offsets of the
attribute pointers.

`connect` makes the objects the adapter needs, `perform` answers one backend call, and `dispose`
deletes every object the adapter holds.
-/

namespace LitTiles.Gl

open Context

/-- An instance buffer of the adapter. -/
structure InstanceBuffer where
  /-- The buffer. -/
  buffer : Handle .buffer
  /-- How many instances it holds. -/
  capacity : Nat
  deriving Inhabited

/-- The objects an adapter holds. -/
structure Adapter where
  /-- The interface it serves. -/
  interface : Interface
  /-- What the context offers. -/
  capabilities : Capabilities
  /-- The vertex array, on contexts that have them. -/
  vertexArray : Option (Handle .vertexArray)
  /-- Draws the colours of sprites. -/
  spriteColor : FixedProgram
  /-- Draws the masks of sprites. -/
  spriteMask : FixedProgram
  /-- Draws lights. -/
  light : FixedProgram
  /-- Draws shadows. -/
  shadow : FixedProgram
  /-- The corners of the unit square. -/
  corners : Handle .buffer
  /-- The two triangles of the unit square. -/
  indices : Handle .buffer
  /-- Refilled for every light and every shadow. -/
  stream : Handle .buffer
  /-- A transparent texel, for channels without input. -/
  empty : Handle .texture
  /-- Loaded textures, each name once. -/
  atlases : List (String × Handle .texture) := []
  /-- Offscreen targets, by index. -/
  targets : List RenderTarget := []
  /-- Size of the surface. -/
  surface : SurfaceSize
  /-- Instance buffers. -/
  buffers : List (BufferId × InstanceBuffer) := []
  /-- Number of the next instance buffer. -/
  nextBuffer : UInt32 := 0
  /-- Compiled effects, each name once. -/
  effects : List (String × LinkedEffect) := []
  /-- The visible part of the world in the current frame. -/
  view : Rect := ⟨⟨0, 0⟩, ⟨1, 1⟩⟩
  deriving Inhabited

/-- One attribute of an instance. -/
structure InstanceField where
  /-- Number of floats. -/
  components : Int32
  /-- Where it starts within an instance, in bytes. -/
  offset : Int32
  deriving DecidableEq, Inhabited

/-- The attributes of a sprite, at the locations from one on. -/
def spriteFields : List InstanceField :=
  [⟨2, 0⟩, ⟨2, 8⟩, ⟨2, 16⟩, ⟨2, 24⟩, ⟨4, 32⟩, ⟨4, 48⟩]

/-- The attributes of a light, at the locations from one on. -/
def lightFields : List InstanceField := [⟨2, 0⟩, ⟨2, 8⟩, ⟨2, 16⟩, ⟨4, 32⟩]

/-- A size of the model as the context takes it, in 32 signed bits. -/
def signedSize (n : Nat) : Int32 := Int32.ofNat n

namespace Adapter

/-- Makes a buffer and fills it. -/
def filledBuffer (target : BufferTarget) (bytes : List UInt8) : ContextM (Handle .buffer) := do
  let b ← create .buffer (refusedBy "create_buffer")
  giveAll [.bindBuffer target b, .bufferData target bytes .static]
  return b

/-- Makes what is left to make once there are the programs, with a vertex array or without one. -/
def equip (interface : Interface) (size : SurfaceSize) (capabilities : Capabilities)
    (spriteColor spriteMask light shadow : FixedProgram)
    (vertexArray : Option (Handle .vertexArray)) : ContextM Adapter := do
  let corners ← filledBuffer .vertices UnitSquare.cornerData
  let indices ← filledBuffer .indices UnitSquare.indexData
  let stream ← create .buffer (refusedBy "create_buffer")
  let empty ← createTexture capabilities 1 1 (some [0, 0, 0, 0]) .nearest
  return {
    interface, capabilities, vertexArray, spriteColor, spriteMask, light, shadow, corners, indices,
    stream, empty, surface := size }

/-- Makes the adapter of an interface on a context that can run it. -/
def connect (interface : Interface) (size : SurfaceSize) : ContextM Adapter := do
  let host := (← get).host
  let capabilities ← match Capabilities.of interface host.version host.extensions with
    | .ok c => pure c
    | .error reason => throw (.unsupported interface reason)
  say .info ("GL " ++ host.version.numbers ++ (if host.version.embedded then " ES" else "") ++
    " (" ++ capabilities.instancing.describe ++ " instancing)")
  let dialect := interface.dialect
  let spriteColor ←
    FixedProgram.make "sprite" (dialect.spriteProgram .color) Glsl.spriteAttributes
  let spriteMask ←
    FixedProgram.make "sprite mask" (dialect.spriteProgram .mask) Glsl.spriteAttributes
  let light ← FixedProgram.make "light" dialect.lightProgram Glsl.lightAttributes
  let shadow ← FixedProgram.make "shadow" dialect.shadowProgram Glsl.shadowAttributes
  let vertexArray ←
    if capabilities.vertexArrays then do
      let a ← create .vertexArray (refusedBy "create_vertex_array")
      give (.bindVertexArray a)
      pure (some a)
    else pure none
  equip interface size capabilities spriteColor spriteMask light shadow vertexArray

/-- Binds the unit square to location zero, and its indices. -/
def bindSquare (a : Adapter) : List Command :=
  [.bindBuffer .vertices a.corners, .enableAttribute 0, .attributePointer 0 2 8 0,
   .attributeDivisor 0 0, .bindBuffer .indices a.indices]

/-- Points the attributes from location one on at a buffer, from a number of bytes on. -/
def bindInstances (buffer : Handle .buffer) (stride start : Int32) (fields : List InstanceField) :
    List Command :=
  .bindBuffer .vertices buffer ::
    fields.zipIdx.flatMap fun (f, i) =>
      [.enableAttribute (i + 1), .attributePointer (i + 1) f.components stride (start + f.offset),
       .attributeDivisor (i + 1) 1]

/-- Switches the attributes from location one on off again. -/
def releaseInstances (fields : List InstanceField) : List Command :=
  (List.range fields.length).flatMap fun i =>
    [.attributeDivisor (i + 1) 0, .disableAttribute (i + 1)]

/-- Fills the buffer that is refilled for every light and every shadow. -/
def fillStream (a : Adapter) (bytes : List UInt8) : List Command :=
  [.bindBuffer .vertices a.stream, .bufferData .vertices bytes .stream]

/-- Clears the framebuffer. -/
def fill (color : Color) : List Command := [.clearColor color, .clear]

/-- Why there is no target of an index. -/
def missingTarget (a : Adapter) (index : Nat) : RenderError :=
  if a.targets.isEmpty then .notInitialized else .unknownTarget index

/-- The offscreen target of an index. -/
def target? (a : Adapter) (index : Nat) : Except RenderError RenderTarget :=
  match a.targets[index]? with
  | some t => .ok t
  | none => .error (a.missingTarget index)

/-- Draws to a target, all of it. -/
def bindTarget (a : Adapter) : Target → Except RenderError (List Command)
  | .surface =>
    .ok [.bindFramebuffer none, .viewport a.surface.width.toInt32 a.surface.height.toInt32]
  | .offscreen i => do
    let t ← a.target? i
    return [.bindFramebuffer (some t.framebuffer),
      .viewport t.size.width.toInt32 t.size.height.toInt32]

/-- Deletes the offscreen targets. -/
def deleteTargets (a : Adapter) : List Command := a.targets.flatMap (·.delete)

end Adapter

/-- A computation on a context and the objects of an adapter. -/
abbrev AdapterM (α : Type) := ExceptT RenderError (StateT Adapter (StateM Context)) α

namespace AdapterM

/-- A computation on the context alone. -/
def onContext {α : Type} (m : ContextM α) : AdapterM α := ExceptT.mk (StateT.lift m.run)

/-- Gives commands in order. -/
def giveAll (cs : List Command) : AdapterM Unit := onContext (Context.giveAll cs)

/-- Writes a record. -/
def say (severity : Severity) (text : String) : AdapterM Unit :=
  onContext (Context.say severity text)

end AdapterM

namespace Adapter

open AdapterM

/-- Uploads a texture and deletes the one it takes the place of. -/
def loadTexture (t : Texture) : AdapterM Unit := do
  ofExcept t.validate
  let a ← get
  let made ←
    onContext (createTexture a.capabilities t.width t.height (some t.pixels) .nearest)
  set { a with atlases := (t.name, made) :: a.atlases.filter (·.1 != t.name) }
  giveAll ((a.atlases.lookup t.name).map (.delete .texture ·)).toList

/-- Compiles an effect and deletes the one it takes the place of. -/
def compileProgram (name : String) (p : EffectProgram) : AdapterM Unit := do
  let linked ← onContext (linkSource name p.source Glsl.fullscreenAttributes)
  let effect ← onContext (LinkedEffect.make linked p.uniforms p.blend)
  let a ← get
  set { a with effects := (name, effect) :: a.effects.filter (·.1 != name) }
  giveAll ((a.effects.lookup name).map fun e => .delete .program e.program).toList

/-- Makes the offscreen targets anew. Those made before a failure are kept. -/
def configureTargets (surface : SurfaceSize) (sizes : List SurfaceSize) : AdapterM Unit := do
  let a ← get
  giveAll a.deleteTargets
  set { a with targets := [], surface := surface }
  sizes.zipIdx.forM fun (size, i) => do
    let t ← onContext (RenderTarget.make a.capabilities i size)
    modify fun a => { a with targets := a.targets ++ [t] }
  say .debug ("configured " ++ toString sizes.length ++ " offscreen targets for " ++
    surface.describe)

/-- Makes an instance buffer. -/
def createBuffer (capacity : Nat) : AdapterM BufferId := do
  let b ← onContext (create .buffer (refusedBy "create_buffer"))
  giveAll [.bindBuffer .vertices b,
    .bufferSize .vertices (signedSize (max capacity 1 * SpriteInstance.stride)) .dynamic]
  let a ← get
  let id : BufferId := ⟨a.nextBuffer⟩
  set { a with
    nextBuffer := a.nextBuffer + 1
    buffers := (id, ⟨b, capacity⟩) :: a.buffers.filter (·.1 != id) }
  return id

/-- Deletes an instance buffer. -/
def freeBuffer (id : BufferId) : AdapterM Unit := do
  let a ← get
  match a.buffers.lookup id with
  | some b =>
    set { a with buffers := a.buffers.filter (·.1 != id) }
    giveAll [.delete .buffer b.buffer]
  | none => say .warn ("free of unknown instance buffer " ++ id.describe)

/-- Overwrites the start of an instance buffer, as far as it reaches. -/
def writeInstances (id : BufferId) (instances : List SpriteInstance) : AdapterM Unit := do
  match (← get).buffers.lookup id with
  | some b =>
    giveAll [.bindBuffer .vertices b.buffer,
      .bufferSubData .vertices
        ((instances.take b.capacity).flatMap fun i => floatBytes i.toList)]
  | none => say .warn ("write to unknown instance buffer " ++ id.describe)

/-- Starts a frame. -/
def beginFrame (view : Rect) : AdapterM Unit := do
  modify fun a => { a with view := view }
  giveAll ((← get).vertexArray.map .bindVertexArray).toList

/-- Fills a target. -/
def clear (target : Target) (color : Color) : AdapterM Unit := do
  giveAll (← ofExcept ((← get).bindTarget target))
  giveAll (fill color)

/-- The program that writes colours, or the one that writes masks. -/
def spriteProgram (a : Adapter) : SpriteMode → FixedProgram
  | .color => a.spriteColor
  | .mask => a.spriteMask

/-- Draws one run of sprites. -/
def drawRun (a : Adapter) (buffer : Handle .buffer) (call : DrawCall) : List Command :=
  match a.atlases.lookup call.texture with
  | none => []
  | some atlas =>
    bindInstances buffer (signedSize SpriteInstance.stride)
        (call.offset.toInt32 * signedSize SpriteInstance.stride) spriteFields ++
      [.activeTexture 0, .bindTexture (some atlas),
       .drawElementsInstanced (signedSize UnitSquare.indexCount) call.count.toInt32]

/-- Draws runs of sprites. -/
def drawSprites (target : Target) (mode : SpriteMode) (id : BufferId) (calls : List DrawCall) :
    AdapterM Unit := do
  let a ← get
  match calls.find? fun c => (a.atlases.lookup c.texture).isNone with
  | some c => throw (.unknownTexture c.texture)
  | none =>
    match a.buffers.lookup id with
    | none => say .warn ("draw from unknown instance buffer " ++ id.describe)
    | some b =>
      if calls.isEmpty then return ()
      giveAll (← ofExcept (a.bindTarget target))
      giveAll ((a.spriteProgram mode).select a.view)
      giveAll (applyBlend .alpha)
      giveAll a.bindSquare
      giveAll (calls.flatMap (a.drawRun b.buffer))
      giveAll (releaseInstances spriteFields)

/-- Draws a light. -/
def drawLight (target : Target) (light : LightInstance) : AdapterM Unit := do
  let a ← get
  giveAll (← ofExcept (a.bindTarget target))
  giveAll (a.light.select a.view)
  giveAll (applyBlend .replace)
  giveAll a.bindSquare
  giveAll (a.fillStream (floatBytes light.toList))
  giveAll (bindInstances a.stream (signedSize LightInstance.stride) 0 lightFields)
  giveAll [.drawElementsInstanced (signedSize UnitSquare.indexCount) 1]
  giveAll (releaseInstances lightFields)

/-- Draws shadows; without corners there is nothing to do. -/
def drawShadows (target : Target) (triangles : List Vec2) : AdapterM Unit := do
  if triangles.isEmpty then return ()
  let a ← get
  giveAll (← ofExcept (a.bindTarget target))
  giveAll (a.shadow.select a.view)
  giveAll (applyBlend .replace)
  giveAll (a.fillStream (floatBytes (triangles.flatMap (·.toList))))
  giveAll [.enableAttribute 0, .attributePointer 0 2 8 0, .attributeDivisor 0 0,
    .drawArrays (signedSize triangles.length)]

/-- The texture that a channel samples. A target is never sampled while it is drawn to. -/
def channelInput (output : Target) (slot channel : Nat) : AdapterM (Handle .texture) := do
  let a ← get
  let t ← ofExcept (a.target? slot)
  if output = .offscreen slot then
    say .warn ("offscreen " ++ toString slot ++ " is both input and output; channel " ++
      toString channel ++ " reads empty")
    return a.empty
  else return t.texture

/-- The textures that the channels of a run sample, in order. -/
def channelInputs (inputs : List Nat) (output : Target) : AdapterM (List (Handle .texture)) := do
  let used ← (inputs.take maxChannels).zipIdx.mapM fun (slot, c) => channelInput output slot c
  let a ← get
  return used ++ List.replicate (maxChannels - used.length) a.empty

/-- Runs an effect. -/
def runProgram (name : String) (inputs : List Nat) (output : Target) (uniforms : List Scalar)
    (clear : Option Color) : AdapterM Unit := do
  let a ← get
  match a.effects.lookup name with
  | none => throw (.unknownProgram name)
  | some e =>
    let textures ← channelInputs inputs output
    giveAll (← ofExcept (a.bindTarget output))
    giveAll ((clear.map fill).getD [])
    giveAll [.useProgram e.program]
    giveAll (textures.zipIdx.flatMap fun (t, unit) =>
      [.activeTexture unit, .bindTexture (some t)])
    giveAll e.bindUnits
    giveAll (e.upload uniforms)
    giveAll (applyBlend e.blend)
    giveAll a.bindSquare
    giveAll [.drawElements (signedSize UnitSquare.indexCount), .activeTexture 0]

/-- Answers a command. -/
def execute : LitTiles.Command → AdapterM Unit
  | .loadTexture t => loadTexture t
  | .compileProgram name p => compileProgram name p
  | .configureTargets surface sizes => configureTargets surface sizes
  | .writeInstances id instances => writeInstances id instances
  | .beginFrame view => beginFrame view
  | .clear target color => clear target color
  | .drawSprites target mode id calls => drawSprites target mode id calls
  | .drawLight target light => drawLight target light
  | .drawShadows target triangles => drawShadows target triangles
  | .runProgram name inputs output uniforms c => runProgram name inputs output uniforms c
  | .endFrame => giveAll [.bindFramebuffer none, .flush]

/-- Deletes every object. -/
def dispose (a : Adapter) : List Command :=
  a.deleteTargets ++
  a.buffers.map (fun b => .delete .buffer b.2.buffer) ++
  a.atlases.map (fun t => .delete .texture t.2) ++
  a.effects.map (fun e => .delete .program e.2.program) ++
  [a.spriteColor, a.spriteMask, a.light, a.shadow].map (fun p => .delete .program p.program) ++
  [a.corners, a.indices, a.stream].map (.delete .buffer ·) ++
  [.delete .texture a.empty] ++
  (a.vertexArray.map (.delete .vertexArray ·)).toList

end Adapter

end LitTiles.Gl
