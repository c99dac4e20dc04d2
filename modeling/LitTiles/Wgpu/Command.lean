import LitTiles.Record.Trace
import LitTiles.Wgpu.Pipeline

/-!
# wgpu commands

The commands the adapter gives to a wgpu device, with their arguments as values of the domain. As
with GL, objects are named by typed handles. Objects that hold memory are dropped explicitly.

`Command.trace` shows a command by name, with its arguments in a fixed order.
-/

namespace LitTiles.Wgpu

/-- The kinds of objects a device knows. -/
inductive ObjectKind where
  /-- Memory for data. -/
  | buffer
  /-- An image. -/
  | texture
  /-- The image of one frame of a surface. -/
  | surfaceTexture
  /-- A way of looking at an image. -/
  | view
  /-- A way of sampling an image. -/
  | sampler
  /-- The kinds of resources of a group. -/
  | bindGroupLayout
  /-- Resources that are bound together. -/
  | bindGroup
  /-- The groups a program takes. -/
  | pipelineLayout
  /-- A compiled program text. -/
  | shaderModule
  /-- A program with all its settings. -/
  | renderPipeline
  /-- A recorder of passes. -/
  | encoder
  deriving DecidableEq, Inhabited

/-- A handle of an object of some kind. -/
structure Handle (k : ObjectKind) where
  /-- The number of the object among those of its kind. -/
  number : Nat
  deriving DecidableEq, Inhabited

/-- What a buffer is for. -/
structure BufferUse where
  /-- It is written to. -/
  written : Bool := false
  /-- It holds indices. -/
  index : Bool := false
  /-- It holds vertices. -/
  vertex : Bool := false
  /-- It holds uniforms. -/
  uniform : Bool := false
  deriving DecidableEq, Inhabited

/-- The bit set of a use. -/
def BufferUse.bits (u : BufferUse) : Nat :=
  (if u.written then 8 else 0) + (if u.index then 16 else 0) + (if u.vertex then 32 else 0) +
    (if u.uniform then 64 else 0)

/-- What a texture is for. -/
inductive TextureUse where
  /-- It is uploaded once, and sampled. -/
  | uploaded
  /-- It is drawn to, and sampled. -/
  | drawn
  deriving DecidableEq, Inhabited

/-- The bit set of a use. -/
def TextureUse.bits : TextureUse → Nat
  | uploaded => 6
  | drawn => 20

/-- How an image is sampled between its texels. -/
inductive Filter where
  /-- The nearest texel. -/
  | nearest
  /-- A mixture. -/
  | linear
  deriving DecidableEq, Inhabited

/-- The name of a filter. -/
def Filter.label : Filter → String
  | nearest => "Nearest"
  | linear => "Linear"

/-- The stages of a program. -/
inductive ShaderStage where
  /-- Per vertex. -/
  | vertex
  /-- Per fragment. -/
  | fragment
  deriving DecidableEq, Inhabited

/-- The bit set of a stage. -/
def ShaderStage.bits : ShaderStage → Nat
  | vertex => 1
  | fragment => 2

/-- What is bound at one place of a group. -/
inductive BindingType where
  /-- A uniform block, of a least size. -/
  | uniform (stage : ShaderStage) (least : Option Nat)
  /-- An image, sampled per fragment. -/
  | texture
  /-- A sampler, used per fragment. -/
  | sampler
  deriving DecidableEq, Inhabited

/-- A resource. -/
inductive Resource where
  /-- Part of a buffer; all of it if there is no size. -/
  | buffer (buffer : Handle .buffer) (offset : Nat) (size : Option Nat)
  /-- An image. -/
  | view (view : Handle .view)
  /-- A sampler. -/
  | sampler (sampler : Handle .sampler)
  deriving DecidableEq, Inhabited

/-- What a pass starts from. -/
inductive Load where
  /-- What is there. -/
  | keep
  /-- A colour. -/
  | clear (color : Color)
  deriving Inhabited

/-- A part of a buffer. -/
structure Slice where
  /-- The buffer. -/
  buffer : Handle .buffer
  /-- Where the part starts. -/
  offset : Nat
  /-- Its size in bytes. -/
  size : Nat
  deriving DecidableEq, Inhabited

/-- All settings of a pipeline. -/
structure PipelineSettings where
  /-- Its label. -/
  label : String
  /-- The groups of its program. -/
  layout : Handle .pipelineLayout
  /-- Its program. -/
  shader : Handle .shaderModule
  /-- What it reads. -/
  input : VertexInput
  /-- How it blends. -/
  blend : BlendMode
  /-- The format of what it draws to. -/
  format : TextureFormat
  deriving Inhabited

/-- A command to a device. -/
inductive Command where
  /-- Loads native interfaces, given as a bit set. -/
  | createInstance (backends : Nat)
  /-- Makes the surface of a window. -/
  | createSurface
  /-- Looks for an adapter that can present to the surface. -/
  | requestAdapter (power : PowerPreference)
  /-- Opens the device of the adapter. -/
  | requestDevice (downlevelLimits : Bool)
  /-- Configures the surface. -/
  | configureSurface (config : SurfaceConfig)
  /-- The next texture of the surface was acquired. -/
  | acquire (texture : Handle .surfaceTexture)
  /-- The next texture of the surface could not be acquired. -/
  | failAcquire (error : AcquireError)
  /-- Shows a texture of the surface. -/
  | present (texture : Handle .surfaceTexture)
  /-- Gives a texture of the surface back without showing it. -/
  | discard (texture : Handle .surfaceTexture)
  /-- Looks at an image. -/
  | createView (view : Handle .view) (texture : Handle .texture)
  /-- Looks at an image of the surface. -/
  | createSurfaceView (view : Handle .view) (texture : Handle .surfaceTexture)
  /-- Makes a buffer. -/
  | createBuffer (buffer : Handle .buffer) (label : String) (size : Nat) (use : BufferUse)
  /-- Makes a buffer with contents. -/
  | createFilledBuffer (buffer : Handle .buffer) (label : String) (bytes : List UInt8)
      (use : BufferUse)
  /-- Makes an image. -/
  | createTexture (texture : Handle .texture) (label : String) (width height : UInt32)
      (format : TextureFormat) (use : TextureUse)
  /-- Makes a sampler that clamps at the edges. -/
  | createSampler (sampler : Handle .sampler) (label : String) (filter : Filter)
  /-- Describes a group; the places count from zero. -/
  | createBindGroupLayout (layout : Handle .bindGroupLayout) (label : String)
      (entries : List BindingType)
  /-- Binds resources together; the places count from zero. -/
  | createBindGroup (group : Handle .bindGroup) (label : String)
      (layout : Handle .bindGroupLayout) (entries : List Resource)
  /-- Describes the groups of a program. -/
  | createPipelineLayout (layout : Handle .pipelineLayout) (label : String)
      (groups : List (Handle .bindGroupLayout))
  /-- Compiles a program text. -/
  | createShaderModule (shader : Handle .shaderModule) (label text : String)
  /-- Makes a pipeline. -/
  | createRenderPipeline (pipeline : Handle .renderPipeline) (settings : PipelineSettings)
  /-- Starts recording. -/
  | createEncoder (encoder : Handle .encoder) (label : String)
  /-- Starts a pass into an image. -/
  | beginPass (encoder : Handle .encoder) (label : String) (view : Handle .view) (load : Load)
  /-- Chooses a pipeline. -/
  | setPipeline (pipeline : Handle .renderPipeline)
  /-- Binds a group. -/
  | setBindGroup (index : Nat) (group : Handle .bindGroup)
  /-- Reads vertices from part of a buffer. -/
  | setVertexBuffer (slot : Nat) (slice : Slice)
  /-- Reads 16-bit indices from part of a buffer. -/
  | setIndexBuffer (slice : Slice)
  /-- Draws consecutive vertices, once. -/
  | draw (vertices : Nat)
  /-- Draws indexed vertices once for every instance of a range. -/
  | drawIndexed (indices : Nat) (first last : UInt32)
  /-- Ends the pass. -/
  | endPass
  /-- Ends recording. -/
  | finish (encoder : Handle .encoder)
  /-- Hands a recording to the hardware. -/
  | submit (encoder : Handle .encoder)
  /-- Writes to a buffer before the next recording is executed. -/
  | writeBuffer (buffer : Handle .buffer) (offset : Nat) (bytes : List UInt8)
  /-- Fills an image. -/
  | writeTexture (texture : Handle .texture) (bytes : List UInt8) (width height : UInt32)
  /-- Frees a buffer. -/
  | dropBuffer (buffer : Handle .buffer)
  /-- Frees an image. -/
  | dropTexture (texture : Handle .texture)

namespace Command

open Trace

/-- A handle by its number. -/
def handle {k : ObjectKind} (h : Handle k) : Trace := nat h.number

/-- The kinds of a group with their places. -/
def bindingTypes (entries : List BindingType) : Trace :=
  list <| entries.zipIdx.map fun (e, i) =>
    match e with
    | .uniform stage least =>
      list [nat i, nat stage.bits,
        list [text "buffer", text "Uniform", flag false, option nat least], absent]
    | .texture =>
      list [nat i, nat ShaderStage.fragment.bits,
        list [text "texture", text "Float \x7b filterable: true \x7d", text "D2", flag false],
        absent]
    | .sampler =>
      list [nat i, nat ShaderStage.fragment.bits, list [text "sampler", text "Filtering"], absent]

/-- The resources of a group with their places. -/
def resources (entries : List Resource) : Trace :=
  list <| entries.zipIdx.map fun (e, i) =>
    match e with
    | .buffer b offset size =>
      list [nat i, text "buffer", handle b, nat offset, option nat size]
    | .view v => list [nat i, text "view", handle v]
    | .sampler s => list [nat i, text "sampler", handle s]

/-- How a buffer is read. -/
def vertexBuffer (b : VertexBuffer) : Trace :=
  list [nat b.stride, text (if b.perInstance then "Instance" else "Vertex"),
    list (b.attributes.map fun a =>
      list [text (if a.wide then "Float32x4" else "Float32x2"), nat a.offset, nat a.location])]

/-- The blend equation of a mode, for the colour and for alpha. -/
def blendState (mode : BlendMode) : List Trace :=
  let factors := blendFactors mode
  let equation := list [text factors.1.label, text factors.2.label, text "Add"]
  [equation, equation]

/-- The settings of a pipeline. -/
def pipelineSettings (s : PipelineSettings) : List Trace :=
  [text s.label, handle s.layout,
   list [handle s.shader, text "vs_main", list (s.input.buffers.map vertexBuffer)],
   list [handle s.shader, text "fs_main",
     list [list [text s.format.name, list (blendState s.blend), nat 15]]],
   list [text "TriangleList", text "Ccw", text "None", text "Fill"], nat 1, flag false]

/-- What a pass starts from. -/
def load : Load → Trace
  | .keep => text "load"
  | .clear c => list (text "clear" :: c.toList.map fun x => double x.toFloat)

/-- A part of a buffer. -/
def slice (s : Slice) : List Trace := [handle s.buffer, nat s.offset, nat s.size]

/-- The extent of a flat image. -/
def extent (width height : UInt32) : Trace := nats [width.toNat, height.toNat, 1]

/-- A command by name. -/
def trace : Command → Trace
  | createInstance bs => command "create_instance" [nat bs]
  | createSurface => command "create_surface" []
  | requestAdapter p => command "request_adapter" [text p.label, flag true, flag false]
  | requestDevice d =>
    command "request_device" [text "tessera device", flag true, flag d, text "Performance"]
  | configureSurface c =>
    command "configure_surface"
      [nat 16, text c.format.name, nat c.size.width.toNat, nat c.size.height.toNat,
       text c.presentMode.label, text c.alphaMode.name, nat 0, nat c.frameLatency]
  | acquire t => command "acquire" [handle t]
  | failAcquire e => command "acquire" [text e.label]
  | present t => command "present" [handle t]
  | discard t => command "discard" [handle t]
  | createView v t => command "create_view" [handle v, text "texture", handle t]
  | createSurfaceView v t => command "create_view" [handle v, text "surface", handle t]
  | createBuffer b l n u =>
    command "create_buffer" [handle b, text l, nat n, nat u.bits, flag false]
  | createFilledBuffer b l bs u =>
    command "create_buffer_init" [handle b, text l, bytes bs, nat u.bits]
  | createTexture t l w h f u =>
    command "create_texture"
      [handle t, text l, extent w h, nat 1, nat 1, text "D2", text f.name, nat u.bits, nat 0]
  | createSampler s l f =>
    let clamp := text "ClampToEdge"
    command "create_sampler"
      [handle s, text l, clamp, clamp, clamp, text f.label, text f.label,
       text Filter.nearest.label]
  | createBindGroupLayout g l es =>
    command "create_bind_group_layout" [handle g, text l, bindingTypes es]
  | createBindGroup g l p es =>
    command "create_bind_group" [handle g, text l, handle p, resources es]
  | createPipelineLayout p l gs =>
    command "create_pipeline_layout" [handle p, text l, list (gs.map handle), nat 0]
  | createShaderModule m l t =>
    command "create_shader_module" (handle m :: text l :: digest t)
  | createRenderPipeline p s => command "create_render_pipeline" (handle p :: pipelineSettings s)
  | createEncoder e l => command "create_command_encoder" [handle e, text l]
  | beginPass e l v a =>
    command "begin_render_pass"
      [handle e, text l, list [list [handle v, load a, text "Store"]]]
  | setPipeline p => command "set_pipeline" [handle p]
  | setBindGroup i g => command "set_bind_group" [nat i, handle g, list []]
  | setVertexBuffer i s => command "set_vertex_buffer" (nat i :: slice s)
  | setIndexBuffer s => command "set_index_buffer" (slice s ++ [text "Uint16"])
  | draw n => command "draw" [nat 0, nat n, nat 0, nat 1]
  | drawIndexed n i j => command "draw_indexed" [nat 0, nat n, nat 0, nat i.toNat, nat j.toNat]
  | endPass => command "end_pass" []
  | finish e => command "finish" [handle e]
  | submit e => command "submit" [list [handle e]]
  | writeBuffer b o bs => command "write_buffer" [handle b, nat o, nat bs.length, bytes bs]
  | writeTexture t bs w h =>
    command "write_texture"
      [handle t, bytes bs, nat 0, nat (w.toNat * 4), nat h.toNat, extent w h]
  | dropBuffer b => command "drop_buffer" [handle b]
  | dropTexture t => command "drop_texture" [handle t]

end Command

end LitTiles.Wgpu
