import LitTiles.Backend.UnitSquare
import LitTiles.Program.WgslBlock
import LitTiles.Wgpu.Resource

/-!
# The adapter for wgpu devices

All calls from the beginning of a frame to its end are recorded by one encoder, one pass a call, and
are executed in this order when the frame is submitted. Data of a single call (a light, the corners
of shadows, a uniform block) goes into arenas.

A frame needs a texture of the surface. If none can be acquired the frame is skipped: its calls
succeed without doing anything, but for the names of programs and textures, which are still checked.
A surface that was lost or has changed is configured again, and acquiring is tried once more.

`connect` opens a device and makes the objects the adapter needs, `execute` answers commands, and
`dispose` is what happens to its objects in the end.
-/

namespace LitTiles.Wgpu

open PlatformM

/-- An instance buffer of the adapter. -/
structure InstanceBuffer where
  /-- The buffer. -/
  buffer : Handle .buffer
  /-- How many instances it holds. -/
  capacity : Nat
  deriving Inhabited

/-- Bytes of a buffer for a number of instances; a buffer is never empty. -/
def instanceBytes (capacity : Nat) : Nat := max capacity 1 * SpriteInstance.stride

/-- All of an instance buffer. -/
def InstanceBuffer.slice (b : InstanceBuffer) : Slice := ⟨b.buffer, 0, instanceBytes b.capacity⟩

/-- A compiled effect. -/
structure Program where
  /-- What runs it. -/
  pipeline : Handle .renderPipeline
  /-- Where its uniforms go. -/
  layout : BlockLayout
  deriving Inhabited

/-- A frame that is being recorded. -/
structure Frame where
  /-- The texture of the surface. -/
  texture : Handle .surfaceTexture
  /-- What is drawn to. -/
  view : Handle .view
  /-- What records. -/
  encoder : Handle .encoder
  deriving Inhabited

/-- The objects an adapter holds. -/
structure Adapter where
  /-- How the surface is configured. -/
  config : SurfaceConfig
  /-- The frame that is being recorded. -/
  frame : Option Frame := none
  /-- Layouts of groups. -/
  layouts : Layouts
  /-- Draws the colours of sprites. -/
  spriteColor : Handle .renderPipeline
  /-- Draws the masks of sprites. -/
  spriteMask : Handle .renderPipeline
  /-- Draws lights. -/
  light : Handle .renderPipeline
  /-- Draws shadows. -/
  shadow : Handle .renderPipeline
  /-- The corners of the unit square. -/
  corners : Slice
  /-- The two triangles of the unit square. -/
  indices : Slice
  /-- The visible part of the world. -/
  camera : Handle .buffer
  /-- The same as a group. -/
  cameraGroup : Handle .bindGroup
  /-- Samples atlases. -/
  atlasSampler : Handle .sampler
  /-- Samples channels. -/
  channelSampler : Handle .sampler
  /-- A transparent texel, for channels without input. -/
  empty : Handle .view
  /-- Loaded textures, each name once. -/
  atlases : List (String × Atlas) := []
  /-- Offscreen targets, by index. -/
  targets : List RenderTarget := []
  /-- Instance buffers. -/
  buffers : List (BufferId × InstanceBuffer) := []
  /-- Number of the next instance buffer. -/
  nextBuffer : UInt32 := 0
  /-- Compiled effects, each name once. -/
  programs : List (String × Program) := []
  /-- Uniform blocks of the frame. -/
  uniforms : FrameArena
  /-- Lights of the frame. -/
  lights : FrameArena
  /-- Shadows of the frame. -/
  shadows : FrameArena
  deriving Inhabited

namespace Adapter

/-- A step of opening a device, which the platform may refuse. -/
def attempt (c : Command) (what : String) (refusal : Option String) : PlatformM Unit := do
  give c
  match refusal with
  | some reason => throw (.unsupported .wgpu (what ++ ": " ++ reason))
  | none => return ()

/-- Opens a device that can present to the window, and configures the surface. -/
def openDevice (size : SurfaceSize) (o : DeviceOptions) : PlatformM SurfaceConfig := do
  let host := (← get).host
  give (.createInstance o.backends)
  let surfaceError ← ask .surface DeviceHost.surfaceError
  attempt .createSurface "failed to create wgpu surface" surfaceError
  let adapterError ← ask .adapter DeviceHost.adapterError
  attempt (.requestAdapter o.power) "no GPU adapter can present to this window" adapterError
  let deviceError ← ask .device DeviceHost.deviceError
  attempt (.requestDevice o.downlevelLimits) "failed to open wgpu device" deviceError
  let capabilities ← ask .capabilities DeviceHost.capabilities
  match SurfaceConfig.choose? capabilities size o with
  | none => throw (.unsupported .wgpu "surface reports no formats")
  | some config =>
    give (.configureSurface config)
    say .info .device ("wgpu adapter: " ++ host.adapterName ++ " (Noop), surface " ++
      config.format.name)
    return config

/-- Makes a buffer with contents. -/
def filledBuffer (label : String) (bytes : List UInt8) (use : BufferUse) : PlatformM Slice := do
  let b ← PlatformM.make fun h => Command.createFilledBuffer h label bytes use
  return ⟨b, 0, roundUp bytes.length copyAlignment⟩

/-- Opens a device and makes the adapter's objects. -/
def connect (size : SurfaceSize) (o : DeviceOptions) : PlatformM Adapter := do
  let config ← openDevice size o
  let layouts ← Layouts.make
  let dialect := Dialect.wgsl
  let fixed (name : String) (source : ProgramSource) (groups : List (Handle .bindGroupLayout))
      (input : VertexInput) (blend : BlendMode) :=
    makePipeline name source groups input blend config.format
  let spriteGroups := [layouts.camera, layouts.atlas]
  let spriteColor ←
    fixed "tessera sprite" (dialect.spriteProgram .color) spriteGroups .sprite .alpha
  let spriteMask ←
    fixed "tessera sprite mask" (dialect.spriteProgram .mask) spriteGroups .sprite .alpha
  let light ← fixed "tessera light" dialect.lightProgram [layouts.camera] .light .replace
  let shadow ← fixed "tessera shadow" dialect.shadowProgram [layouts.camera] .shadow .replace
  let corners ← filledBuffer "tessera quad vbo" UnitSquare.cornerData { vertex := true }
  let indices ←
    filledBuffer "tessera quad ibo" UnitSquare.indexData { index := true }
  let camera ← PlatformM.make fun h =>
    Command.createBuffer h "tessera camera ubo" 16 { uniform := true, written := true }
  let cameraGroup ← PlatformM.make fun h =>
    Command.createBindGroup h "tessera camera bind group" layouts.camera [.buffer camera 0 none]
  let alignment := (← get).host.uniformAlignment
  let uniforms ←
    FrameArena.make "tessera uniform arena" { uniform := true } (alignment * 64) alignment
  let lights ←
    FrameArena.make "tessera light arena" { vertex := true } (LightInstance.stride * 64)
      LightInstance.stride
  let shadows ←
    FrameArena.make "tessera shadow arena" { vertex := true } (64 * 1024) copyAlignment
  let atlasSampler ← PlatformM.make fun h =>
    Command.createSampler h "tessera atlas sampler" .nearest
  let channelSampler ← PlatformM.make fun h =>
    Command.createSampler h "tessera channel sampler" .linear
  let empty ← makeEmptyView
  return {
    config, layouts, spriteColor, spriteMask, light, shadow, corners, indices, camera, cameraGroup,
    atlasSampler, channelSampler, empty, uniforms, lights, shadows }

/-- Why there is no target of an index. -/
def missingTarget (a : Adapter) (index : Nat) : RenderError :=
  if a.targets.isEmpty then .notInitialized else .unknownTarget index

/-- The offscreen target of an index. -/
def target? (a : Adapter) (index : Nat) : Except RenderError RenderTarget :=
  match a.targets[index]? with
  | some t => .ok t
  | none => .error (a.missingTarget index)

/-- What a pass draws to. -/
def view (a : Adapter) (f : Frame) : Target → Except RenderError (Handle .view)
  | .surface => .ok f.view
  | .offscreen i => return (← a.target? i).view

/-- The frame that is given up. -/
def abandon (a : Adapter) : List Command := (a.frame.map fun f => .discard f.texture).toList

/-- What happens to the objects in the end. -/
def dispose (a : Adapter) : List Command :=
  a.abandon ++
  [a.corners.buffer, a.indices.buffer, a.camera, a.uniforms.buffer, a.lights.buffer,
    a.shadows.buffer].map .dropBuffer ++
  a.buffers.map (fun b => .dropBuffer b.2.buffer) ++
  a.atlases.map (fun t => .dropTexture t.2.texture) ++
  a.targets.map (fun t => .dropTexture t.texture)

end Adapter

/-- A computation on a platform and the objects of an adapter. -/
abbrev AdapterM (α : Type) := ExceptT RenderError (StateT Adapter (StateM Platform)) α

namespace AdapterM

/-- A computation on the platform alone. -/
def onPlatform {α : Type} (m : PlatformM α) : AdapterM α := ExceptT.mk (StateT.lift m.run)

/-- Gives commands in order. -/
def giveAll (cs : List Command) : AdapterM Unit := onPlatform (PlatformM.giveAll cs)

/-- Makes an object by a command that names it. -/
def make {k : ObjectKind} (command : Handle k → Command) : AdapterM (Handle k) :=
  onPlatform (PlatformM.make command)

/-- Writes a record. -/
def say (severity : Severity) (text : String) : AdapterM Unit :=
  onPlatform (PlatformM.say severity .wgpu text)

end AdapterM

namespace Adapter

open AdapterM (onPlatform giveAll)

/-- Uploads a texture and drops the one it takes the place of. -/
def loadTexture (t : Texture) : AdapterM Unit := do
  ofExcept t.validate
  let a ← get
  let atlas ← onPlatform
    (Atlas.upload t (.forAtlas a.config.format) a.layouts.atlas a.atlasSampler)
  set { a with atlases := (t.name, atlas) :: a.atlases.filter (·.1 != t.name) }
  giveAll ((a.atlases.lookup t.name).map fun old => .dropTexture old.texture).toList

/-- Compiles an effect. -/
def compileProgram (name : String) (p : EffectProgram) : AdapterM Unit := do
  let a ← get
  let pipeline ← onPlatform
    (makePipeline name p.source [a.layouts.uniforms, a.layouts.channels] .fullscreen p.blend
      a.config.format)
  set { a with
    programs := (name, ⟨pipeline, .ofUniforms p.uniforms⟩) :: a.programs.filter (·.1 != name) }

/-- The text of the size of the first target. -/
def describeFirst (targets : List RenderTarget) : String :=
  match targets with
  | [] => "None"
  | t :: _ => "Some(" ++ t.size.describe ++ ")"

/-- Configures the surface for a size, unless it is empty. -/
def configureSurface (surface : SurfaceSize) : AdapterM Unit := do
  unless surface.isEmpty do
    let a ← get
    let config := { a.config with size := surface }
    set { a with config := config }
    giveAll [.configureSurface config]

/-- Makes the offscreen targets anew. -/
def remakeTargets (surface : SurfaceSize) (sizes : List SurfaceSize) : AdapterM Unit := do
  let a ← get
  let targets ← onPlatform
    (sizes.zipIdx.mapM fun (size, i) => RenderTarget.make i size a.config.format)
  set { a with targets := targets }
  giveAll (a.targets.map fun t => .dropTexture t.texture)
  AdapterM.say .debug ("configured " ++ toString targets.length ++ " offscreen targets for " ++
    toString surface.width.toNat ++ "x" ++ toString surface.height.toNat ++ " (first " ++
    describeFirst targets ++ ")")

/-- Configures the surface, and makes the offscreen targets anew. -/
def configureTargets (surface : SurfaceSize) (sizes : List SurfaceSize) : AdapterM Unit := do
  configureSurface surface
  remakeTargets surface sizes

/-- Makes an instance buffer. -/
def createBuffer (capacity : Nat) : AdapterM BufferId := do
  let buffer ← AdapterM.make fun h =>
    Command.createBuffer h "tessera instance buffer" (instanceBytes capacity)
      { vertex := true, written := true }
  let a ← get
  let id : BufferId := ⟨a.nextBuffer⟩
  set { a with
    nextBuffer := a.nextBuffer + 1
    buffers := (id, ⟨buffer, capacity⟩) :: a.buffers.filter (·.1 != id) }
  giveAll ((a.buffers.lookup id).map fun old => .dropBuffer old.buffer).toList
  return id

/-- Drops an instance buffer. -/
def freeBuffer (id : BufferId) : AdapterM Unit := do
  let a ← get
  match a.buffers.lookup id with
  | some b =>
    set { a with buffers := a.buffers.filter (·.1 != id) }
    giveAll [.dropBuffer b.buffer]
  | none => AdapterM.say .warn ("free of unknown instance buffer " ++ id.describe)

/-- Overwrites the start of an instance buffer, as far as it reaches. -/
def writeInstances (id : BufferId) (instances : List SpriteInstance) : AdapterM Unit := do
  match (← get).buffers.lookup id with
  | some b =>
    let bytes := (instances.take b.capacity).flatMap fun i => floatBytes i.toList
    unless bytes.isEmpty do giveAll [.writeBuffer b.buffer 0 bytes]
  | none => AdapterM.say .warn ("write to unknown instance buffer " ++ id.describe)

/-- What an attempt to acquire the next texture comes to. -/
inductive Acquired where
  /-- A frame can be recorded. -/
  | frame (f : Frame)
  /-- Another attempt may succeed. -/
  | retry
  /-- The frame is skipped. -/
  | skip

/-- A texture was acquired: a frame is recorded that shows it. -/
def takeTexture : AdapterM Acquired := do
  let texture ← AdapterM.make Command.acquire
  let view ← AdapterM.make fun h => Command.createSurfaceView h texture
  let encoder ← AdapterM.make fun h => Command.createEncoder h "tessera frame encoder"
  return .frame { texture, view, encoder }

/-- No texture could be acquired. If configuring the surface again may help, this is done. -/
def lackTexture (e : AcquireError) : AdapterM Acquired := do
  giveAll [.failAcquire e]
  if e.isHealable then
    giveAll [.configureSurface (← get).config]
    return .retry
  else if e = .outOfMemory then throw (.surface e.message)
  else
    AdapterM.say .debug ("skipping frame: " ++ e.message)
    return .skip

/-- What comes of an attempt, by the error there may be. -/
def attempted : Option AcquireError → AdapterM Acquired
  | none => takeTexture
  | some e => lackTexture e

/-- Tries to acquire the next texture of the surface. -/
def acquireOnce : AdapterM Acquired := do
  let error ← onPlatform (ask .texture DeviceHost.acquireError)
  attempted error

/-- Acquires the next texture of the surface, in a number of attempts. -/
def acquire : Nat → AdapterM (Option Frame)
  | 0 => return none
  | n + 1 => do
    match ← acquireOnce with
    | .frame f => return some f
    | .retry => acquire n
    | .skip => return none

/-- What is recorded from now on is the frame that was acquired, if any. -/
def startRecording (visible : Rect) (frame : Option Frame) : AdapterM Unit := do
  let a ← get
  giveAll [.writeBuffer a.camera 0 (floatBytes (visible.origin.toList ++ visible.size.toList))]
  set { a with
    frame := frame
    uniforms := a.uniforms.reset
    lights := a.lights.reset
    shadows := a.shadows.reset }

/-- Starts a frame. What an aborted frame still holds is given back first. -/
def beginFrame (visible : Rect) : AdapterM Unit := do
  giveAll (← get).abandon
  modify fun a => { a with frame := none }
  startRecording visible (← acquire 2)

/-- A pass of the frame that draws to a target. -/
def pass (f : Frame) (label : String) (target : Target) (load : Load) (draws : List Command) :
    AdapterM Unit := do
  let v ← ofExcept ((← get).view f target)
  giveAll (.beginPass f.encoder label v load :: draws ++ [.endPass])

/-- Runs what needs a frame on a given one; without one there is nothing to do. -/
def onFrame (m : Frame → AdapterM Unit) : Option Frame → AdapterM Unit
  | some f => m f
  | none => return ()

/-- Runs what needs a frame. -/
def inFrame (m : Frame → AdapterM Unit) : AdapterM Unit := do
  onFrame m (← get).frame

/-- Fills a target. -/
def clear (target : Target) (color : Color) : AdapterM Unit :=
  inFrame fun f => pass f "tessera clear" target (.clear color) []

/-- The pipeline that writes colours, or the one that writes masks. -/
def spritePipeline (a : Adapter) : SpriteMode → Handle .renderPipeline
  | .color => a.spriteColor
  | .mask => a.spriteMask

/-- Binds a pipeline that reads the unit square and instances. -/
def bindInstances (a : Adapter) (pipeline : Handle .renderPipeline) (instances : Slice) :
    List Command :=
  [.setPipeline pipeline, .setBindGroup 0 a.cameraGroup, .setVertexBuffer 0 a.corners,
   .setVertexBuffer 1 instances, .setIndexBuffer a.indices]

/-- Draws one run of sprites. -/
def drawRun (a : Adapter) (call : DrawCall) : List Command :=
  match a.atlases.lookup call.texture with
  | none => []
  | some atlas =>
    [.setBindGroup 1 atlas.group,
     .drawIndexed UnitSquare.indexCount call.offset (call.offset + call.count)]

/-- Draws runs of sprites. -/
def drawSprites (target : Target) (mode : SpriteMode) (id : BufferId) (calls : List DrawCall) :
    AdapterM Unit := do
  let a ← get
  match calls.find? fun c => (a.atlases.lookup c.texture).isNone with
  | some c => throw (.unknownTexture c.texture)
  | none =>
    match a.buffers.lookup id with
    | none => AdapterM.say .warn ("draw from unknown instance buffer " ++ id.describe)
    | some b =>
      inFrame fun f => do
        if calls.isEmpty then return ()
        pass f "tessera sprites" target .keep
          (a.bindInstances (a.spritePipeline mode) b.slice ++ calls.flatMap a.drawRun)

/-- Draws a light. -/
def drawLight (target : Target) (light : LightInstance) : AdapterM Unit :=
  inFrame fun f => do
    let a ← get
    let (slice, lights) ← onPlatform (a.lights.push (floatBytes light.toList))
    set { a with lights := lights }
    pass f "tessera light" target .keep
      (a.bindInstances a.light slice ++ [.drawIndexed UnitSquare.indexCount 0 1])

/-- Draws shadows; without corners there is nothing to do. -/
def drawShadows (target : Target) (triangles : List Vec2) : AdapterM Unit :=
  inFrame fun f => do
    if triangles.isEmpty then return ()
    let a ← get
    let (slice, shadows) ←
      onPlatform (a.shadows.push (floatBytes (triangles.flatMap (·.toList))))
    set { a with shadows := shadows }
    pass f "tessera shadows" target .keep
      [.setPipeline a.shadow, .setBindGroup 0 a.cameraGroup, .setVertexBuffer 0 slice,
       .draw triangles.length]

/-- What a channel samples. A target is never sampled while it is drawn to. -/
def channelInput (output : Target) (channel : Nat) (slot : Option Nat) :
    AdapterM (Handle .view) := do
  let a ← get
  match slot with
  | none => return a.empty
  | some slot =>
    if output = .offscreen slot then
      AdapterM.say .warn ("offscreen " ++ toString slot ++ " is both input and output; channel " ++
        toString channel ++ " reads empty")
      return a.empty
    else return (← ofExcept (a.target? slot)).view

/-- The group of the channels of a run. -/
def channelGroup (inputs : List Nat) (output : Target) : AdapterM (Handle .bindGroup) := do
  let views ← (List.range maxChannels).mapM fun c => channelInput output c inputs[c]?
  let a ← get
  AdapterM.make fun h =>
    Command.createBindGroup h "tessera channels" a.layouts.channels
      (views.map Resource.view ++ [.sampler a.channelSampler])

/-- Runs an effect. -/
def runProgram (name : String) (inputs : List Nat) (output : Target) (uniforms : List Scalar)
    (clear : Option Color) : AdapterM Unit := do
  match (← get).programs.lookup name with
  | none => throw (.unknownProgram name)
  | some p =>
    inFrame fun f => do
      let a ← get
      let (slice, arena) ← onPlatform (a.uniforms.push (floatBytes (p.layout.repack uniforms)))
      set { a with uniforms := arena }
      let block ← AdapterM.make fun h =>
        Command.createBindGroup h name a.layouts.uniforms
          [.buffer slice.buffer slice.offset (some p.layout.byteLength)]
      let channels ← channelGroup inputs output
      pass f name output ((clear.map Load.clear).getD .keep)
        [.setPipeline p.pipeline, .setBindGroup 0 block, .setBindGroup 1 channels, .draw 3]

/-- Submits a frame and presents it. -/
def present (f : Frame) : AdapterM Unit := do
  modify fun a => { a with frame := none }
  giveAll [.finish f.encoder, .submit f.encoder, .present f.texture]

/-- Ends the frame. -/
def endFrame : AdapterM Unit := inFrame present

/-- Answers a command. -/
def execute : LitTiles.Command → AdapterM Unit
  | .loadTexture t => loadTexture t
  | .compileProgram name p => compileProgram name p
  | .configureTargets surface sizes => configureTargets surface sizes
  | .writeInstances id instances => writeInstances id instances
  | .beginFrame visible => beginFrame visible
  | .clear target color => clear target color
  | .drawSprites target mode id calls => drawSprites target mode id calls
  | .drawLight target light => drawLight target light
  | .drawShadows target triangles => drawShadows target triangles
  | .runProgram name inputs output uniforms c => runProgram name inputs output uniforms c
  | .endFrame => endFrame

end Adapter

end LitTiles.Wgpu
