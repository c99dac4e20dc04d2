import LitTiles.Platform
import LitTiles.Effect.Basic
import LitTiles.Wgpu.Arena

/-!
# Objects of the wgpu adapter

The objects that are made of several others: the layouts of groups, pipelines, textures with the
groups that sample them, offscreen targets, and arenas with their buffers.
-/

namespace LitTiles.Wgpu

open PlatformM

/-- The layouts of all groups. -/
structure Layouts where
  /-- The visible part of the world. -/
  camera : Handle .bindGroupLayout
  /-- An atlas and its sampler. -/
  atlas : Handle .bindGroupLayout
  /-- The uniform block of an effect. -/
  uniforms : Handle .bindGroupLayout
  /-- The channels of an effect and their sampler. -/
  channels : Handle .bindGroupLayout
  deriving Inhabited

/-- Makes the layouts. -/
def Layouts.make : PlatformM Layouts := do
  let layout (label : String) (entries : List BindingType) :=
    PlatformM.make fun h => Command.createBindGroupLayout h label entries
  let camera ← layout "tessera camera bgl" [.uniform .vertex (some 16)]
  let atlas ← layout "tessera atlas bgl" [.texture, .sampler]
  let uniforms ← layout "tessera program uniforms bgl" [.uniform .fragment none]
  let channels ←
    layout "tessera channels bgl" (List.replicate maxChannels BindingType.texture ++ [.sampler])
  return { camera, atlas, uniforms, channels }

/-- The text of a program; a device compiles nothing but WGSL. -/
def moduleOf (name : String) : ProgramSource → Except RenderError String
  | .wgsl text => .ok text
  | .glsl _ _ => .error (.rejectedProgram name "wgpu programs must be WGSL")

/-- Compiles a program and makes the pipeline that runs it. A text that is not valid never reaches
the device. -/
def makePipeline (name : String) (source : ProgramSource) (groups : List (Handle .bindGroupLayout))
    (input : VertexInput) (blend : BlendMode) (format : TextureFormat) :
    PlatformM (Handle .renderPipeline) := do
  let text ← ofExcept (moduleOf name source)
  match ← ask .text DeviceHost.invalidText with
  | some log => throw (.rejectedProgram name log)
  | none =>
    let shader ← PlatformM.make fun h => Command.createShaderModule h name text
    let layout ← PlatformM.make fun h => Command.createPipelineLayout h name groups
    PlatformM.make fun h =>
      Command.createRenderPipeline h ⟨name, layout, shader, input, blend, format⟩

/-- A loaded texture. -/
structure Atlas where
  /-- The image. -/
  texture : Handle .texture
  /-- What samples it. -/
  group : Handle .bindGroup
  deriving Inhabited

/-- Uploads a texture. -/
def Atlas.upload (t : Texture) (format : TextureFormat) (layout : Handle .bindGroupLayout)
    (sampler : Handle .sampler) : PlatformM Atlas := do
  let texture ← PlatformM.make fun h =>
    Command.createTexture h t.name t.width t.height format .uploaded
  give (.writeTexture texture t.pixels t.width t.height)
  let view ← PlatformM.make fun h => Command.createView h texture
  let group ← PlatformM.make fun h =>
    Command.createBindGroup h t.name layout [.view view, .sampler sampler]
  return { texture, group }

/-- An offscreen target. -/
structure RenderTarget where
  /-- The image. -/
  texture : Handle .texture
  /-- What is drawn to and sampled. -/
  view : Handle .view
  /-- Size in pixels. -/
  size : SurfaceSize
  deriving Inhabited

/-- Makes the target of an index. It has at least one pixel each way. -/
def RenderTarget.make (index : Nat) (size : SurfaceSize) (format : TextureFormat) :
    PlatformM RenderTarget := do
  let size : SurfaceSize := ⟨max size.width 1, max size.height 1⟩
  let texture ← PlatformM.make fun h =>
    Command.createTexture h ("tessera offscreen " ++ toString index) size.width size.height format
      .drawn
  let view ← PlatformM.make fun h => Command.createView h texture
  return { texture, view, size }

/-- Makes a view of a transparent texel. Nothing but the view keeps the texel alive. -/
def makeEmptyView : PlatformM (Handle .view) := do
  let texture ← PlatformM.make fun h =>
    Command.createTexture h "tessera empty channel" 1 1 .rgba8 .uploaded
  give (.writeTexture texture [0, 0, 0, 0] 1 1)
  let view ← PlatformM.make fun h => Command.createView h texture
  give (.dropTexture texture)
  return view

/-- An arena with its buffer. -/
structure FrameArena where
  /-- Label of its buffers. -/
  label : String
  /-- What its buffers are for. -/
  use : BufferUse
  /-- Which places are taken. -/
  arena : Arena
  /-- The current buffer. -/
  buffer : Handle .buffer
  deriving Inhabited

namespace FrameArena

/-- Makes an arena of at least a size. -/
def make (label : String) (use : BufferUse) (capacity alignment : Nat) : PlatformM FrameArena := do
  let use := { use with written := true }
  let arena := Arena.make capacity alignment
  let buffer ← PlatformM.make fun h => Command.createBuffer h label arena.capacity use
  return { label, use, arena, buffer }

/-- Writes bytes to a place of their own, padded with zeros to a length that can be copied. The
answer is the place. -/
def push (a : FrameArena) (bytes : List UInt8) : PlatformM (Slice × FrameArena) := do
  let (offset, grown, arena) := a.arena.push bytes.length
  let buffer ←
    match grown with
    | none => pure a.buffer
    | some capacity => do
      say .debug .wgpuArena (a.label ++ ": growing " ++ toString a.arena.capacity ++ " -> " ++
        toString capacity ++ " bytes")
      let b ← PlatformM.make fun h => Command.createBuffer h a.label capacity a.use
      give (.dropBuffer a.buffer)
      pure b
  let padding := roundUp bytes.length copyAlignment - bytes.length
  give (.writeBuffer buffer offset (bytes ++ List.replicate padding 0))
  return (⟨buffer, offset, bytes.length⟩, { a with arena := arena, buffer := buffer })

/-- Frees all places. -/
def reset (a : FrameArena) : FrameArena := { a with arena := a.arena.reset }

end FrameArena

end LitTiles.Wgpu
