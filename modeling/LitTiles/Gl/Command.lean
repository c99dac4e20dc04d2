import LitTiles.Backend.Call
import LitTiles.Record.Trace

/-!
# GL commands

The commands the adapter gives to a GL context, with their arguments as values of the domain.
Objects are named by handles, which are typed by the kind of object; no handle stands for the
absence of an object, which is an `Option`.

`Command.trace` is the command as the GL interface spells it: its name, and its arguments in the
interface's order with all enumerants as numbers.
-/

namespace LitTiles.Gl

/-- The kinds of objects a context holds. -/
inductive ObjectKind where
  /-- Memory for vertices or indices. -/
  | buffer
  /-- An image. -/
  | texture
  /-- A set of images to draw to. -/
  | framebuffer
  /-- A set of vertex attributes. -/
  | vertexArray
  /-- One compiled stage. -/
  | shader
  /-- Linked stages. -/
  | program
  deriving DecidableEq, Inhabited

/-- A handle of an object of some kind. -/
structure Handle (k : ObjectKind) where
  /-- The number the context knows the object by. -/
  name : Nat
  deriving DecidableEq, Inhabited

/-- The number that stands for an object that may be missing. -/
def Handle.nameOrZero {k : ObjectKind} (h : Option (Handle k)) : Nat := (h.map (·.name)).getD 0

/-- The two uses of buffers. -/
inductive BufferTarget where
  /-- As vertices. -/
  | vertices
  /-- As indices. -/
  | indices
  deriving DecidableEq, Inhabited

/-- The number of a use. -/
def BufferTarget.code : BufferTarget → Nat
  | vertices => 34962
  | indices => 34963

/-- How often the contents of a buffer change. -/
inductive Usage where
  /-- Never. -/
  | static
  /-- Now and then. -/
  | dynamic
  /-- With every use. -/
  | stream
  deriving DecidableEq, Inhabited

/-- The number of a usage. -/
def Usage.code : Usage → Nat
  | static => 35044
  | dynamic => 35048
  | stream => 35040

/-- The stages of a program. -/
inductive ShaderStage where
  /-- Per vertex. -/
  | vertex
  /-- Per fragment. -/
  | fragment
  deriving DecidableEq, Inhabited

/-- The number of a stage. -/
def ShaderStage.code : ShaderStage → Nat
  | vertex => 35633
  | fragment => 35632

/-- How a texture is sampled between its texels. -/
inductive Filter where
  /-- The nearest texel. -/
  | nearest
  /-- A mixture. -/
  | linear
  deriving DecidableEq, Inhabited

/-- The number of a filter. -/
def Filter.code : Filter → Nat
  | nearest => 9728
  | linear => 9729

/-- Parameters of the texture that is bound. -/
inductive TextureParameter where
  /-- Sampling where the texture is made smaller. -/
  | minified (filter : Filter)
  /-- Sampling where the texture is made larger. -/
  | magnified (filter : Filter)
  /-- Coordinates are clamped from left to right. -/
  | clampedAcross
  /-- Coordinates are clamped from top to bottom. -/
  | clampedDown
  deriving DecidableEq, Inhabited

/-- How texels are stored. -/
inductive PixelFormat where
  /-- As the context likes it. -/
  | rgba
  /-- With eight bits per channel. -/
  | rgba8
  deriving DecidableEq, Inhabited

/-- The number of a format. -/
def PixelFormat.code : PixelFormat → Nat
  | rgba => 6408
  | rgba8 => 32856

/-- Factors of the blend equation. -/
inductive BlendFactor where
  /-- Nothing. -/
  | zero
  /-- All of it. -/
  | one
  /-- What the alpha of the new colour leaves. -/
  | oneMinusSourceAlpha
  /-- The colour that is there. -/
  | destination
  deriving DecidableEq, Inhabited

/-- The number of a factor. -/
def BlendFactor.code : BlendFactor → Nat
  | zero => 0
  | one => 1
  | oneMinusSourceAlpha => 771
  | destination => 774

/-- A command to a context. -/
inductive Command where
  /-- Makes an object; shaders have a command of their own. -/
  | create (kind : ObjectKind) (handle : Handle kind)
  /-- Makes a shader. -/
  | createShader (stage : ShaderStage) (shader : Handle .shader)
  /-- Deletes an object. -/
  | delete (kind : ObjectKind) (handle : Handle kind)
  /-- Sets the text of a shader. -/
  | shaderSource (shader : Handle .shader) (text : String)
  /-- Compiles a shader. -/
  | compileShader (shader : Handle .shader)
  /-- Fixes the location of an attribute before linking. -/
  | bindAttribute (program : Handle .program) (location : Nat) (name : String)
  /-- Adds a shader to a program. -/
  | attachShader (program : Handle .program) (shader : Handle .shader)
  /-- Links a program. -/
  | linkProgram (program : Handle .program)
  /-- Takes a shader out of a program. -/
  | detachShader (program : Handle .program) (shader : Handle .shader)
  /-- Asks for the location of a uniform; a uniform that is not used has none. -/
  | uniformLocation (program : Handle .program) (name : String) (answer : Option Nat)
  /-- Chooses the program of the next draws. -/
  | useProgram (program : Handle .program)
  /-- Sets a uniform of one to four floats. -/
  | uniformFloats (location : Nat) (values : List Scalar)
  /-- Sets an integer uniform. -/
  | uniformInt (location : Nat) (value : Nat)
  /-- Binds a buffer. -/
  | bindBuffer (target : BufferTarget) (buffer : Handle .buffer)
  /-- Fills the bound buffer. -/
  | bufferData (target : BufferTarget) (bytes : List UInt8) (usage : Usage)
  /-- Sets the size of the bound buffer. -/
  | bufferSize (target : BufferTarget) (size : Int32) (usage : Usage)
  /-- Overwrites the start of the bound buffer. -/
  | bufferSubData (target : BufferTarget) (bytes : List UInt8)
  /-- Binds a vertex array. -/
  | bindVertexArray (array : Handle .vertexArray)
  /-- Switches an attribute on. -/
  | enableAttribute (location : Nat)
  /-- Switches an attribute off. -/
  | disableAttribute (location : Nat)
  /-- Reads an attribute of floats from the bound buffer. -/
  | attributePointer (location : Nat) (components stride offset : Int32)
  /-- Advances an attribute per vertex (zero) or per instance (one). -/
  | attributeDivisor (location : Nat) (divisor : Nat)
  /-- Chooses the texture unit of the next bindings. -/
  | activeTexture (unit : Nat)
  /-- Binds a texture to the active unit, or none. -/
  | bindTexture (texture : Option (Handle .texture))
  /-- Sets a parameter of the bound texture. -/
  | textureParameter (parameter : TextureParameter)
  /-- Sets the alignment of rows in uploads. -/
  | unpackAlignment (bytes : Nat)
  /-- Gives the bound texture a size and perhaps contents. -/
  | textureImage (format : PixelFormat) (width height : Int32) (pixels : Option (List UInt8))
  /-- Binds a framebuffer; none is the surface. -/
  | bindFramebuffer (framebuffer : Option (Handle .framebuffer))
  /-- Makes a texture the colours of the bound framebuffer. -/
  | framebufferTexture (texture : Handle .texture)
  /-- Sets the part of the framebuffer that is drawn to, from its corner. -/
  | viewport (width height : Int32)
  /-- Sets the colour of the next clears. -/
  | clearColor (color : Color)
  /-- Fills the framebuffer. -/
  | clear
  /-- Switches blending on. -/
  | enableBlend
  /-- Switches blending off. -/
  | disableBlend
  /-- Sets the factors of the blend equation. -/
  | blendFunction (new old : BlendFactor)
  /-- Draws triangles from consecutive vertices. -/
  | drawArrays (vertices : Int32)
  /-- Draws triangles from indices. -/
  | drawElements (indices : Int32)
  /-- Draws triangles from indices, several times. -/
  | drawElementsInstanced (indices instances : Int32)
  /-- Hands what is pending to the hardware. -/
  | flush

namespace Command

open Trace

/-- The name of the command that makes an object. -/
def createName : ObjectKind → String
  | .buffer => "GenBuffers"
  | .texture => "GenTextures"
  | .framebuffer => "GenFramebuffers"
  | .vertexArray => "GenVertexArrays"
  | .shader => "CreateShader"
  | .program => "CreateProgram"

/-- The name of the command that deletes an object. -/
def deleteName : ObjectKind → String
  | .buffer => "DeleteBuffers"
  | .texture => "DeleteTextures"
  | .framebuffer => "DeleteFramebuffers"
  | .vertexArray => "DeleteVertexArrays"
  | .shader => "DeleteShader"
  | .program => "DeleteProgram"

/-- The number of two-dimensional textures. -/
def texture2d : Trace := nat 3553

/-- The number of framebuffers. -/
def framebufferCode : Trace := nat 36160

/-- The number of triangles. -/
def triangles : Trace := nat 4

/-- The number of 16-bit indices. -/
def shortIndices : Trace := nat 5123

/-- A signed size or offset. -/
def signed (n : Int32) : Trace := int n.toInt

/-- A number and the value of a texture parameter. -/
def parameterCodes : TextureParameter → List Trace
  | .minified f => [nat 10241, nat f.code]
  | .magnified f => [nat 10240, nat f.code]
  | .clampedAcross => [nat 10242, nat 33071]
  | .clampedDown => [nat 10243, nat 33071]

/-- A command as the interface spells it. -/
def trace : Command → Trace
  | create k h => command (createName k) [nat h.name]
  | createShader stage s => command "CreateShader" [nat stage.code, nat s.name]
  | delete k h => command (deleteName k) [nat h.name]
  | shaderSource s t => command "ShaderSource" (nat s.name :: digest t)
  | compileShader s => command "CompileShader" [nat s.name]
  | bindAttribute p l n => command "BindAttribLocation" [nat p.name, nat l, text n]
  | attachShader p s => command "AttachShader" [nat p.name, nat s.name]
  | linkProgram p => command "LinkProgram" [nat p.name]
  | detachShader p s => command "DetachShader" [nat p.name, nat s.name]
  | uniformLocation p n a =>
    command "GetUniformLocation" [nat p.name, text n, int ((a.map Int.ofNat).getD (-1))]
  | useProgram p => command "UseProgram" [nat p.name]
  | uniformFloats l vs =>
    command ("Uniform" ++ toString vs.length ++ "f") (nat l :: vs.map float)
  | uniformInt l v => command "Uniform1i" [nat l, nat v]
  | bindBuffer t b => command "BindBuffer" [nat t.code, nat b.name]
  | bufferData t bs u =>
    command "BufferData" [nat t.code, nat bs.length, bytes bs, nat u.code]
  | bufferSize t n u => command "BufferData" [nat t.code, signed n, absent, nat u.code]
  | bufferSubData t bs =>
    command "BufferSubData" [nat t.code, nat 0, nat bs.length, bytes bs]
  | bindVertexArray a => command "BindVertexArray" [nat a.name]
  | enableAttribute l => command "EnableVertexAttribArray" [nat l]
  | disableAttribute l => command "DisableVertexAttribArray" [nat l]
  | attributePointer l n stride offset =>
    command "VertexAttribPointer"
      [nat l, signed n, nat 5126, nat 0, signed stride, signed offset]
  | attributeDivisor l d => command "VertexAttribDivisor" [nat l, nat d]
  | activeTexture u => command "ActiveTexture" [nat (33984 + u)]
  | bindTexture t => command "BindTexture" [texture2d, nat (Handle.nameOrZero t)]
  | textureParameter p => command "TexParameteri" (texture2d :: parameterCodes p)
  | unpackAlignment n => command "PixelStorei" [nat 3317, nat n]
  | textureImage f w h ps =>
    command "TexImage2D"
      [texture2d, nat 0, nat f.code, signed w, signed h, nat 0, nat PixelFormat.rgba.code,
       nat 5121, Trace.option bytes ps]
  | bindFramebuffer f =>
    command "BindFramebuffer" [framebufferCode, nat (Handle.nameOrZero f)]
  | framebufferTexture t =>
    command "FramebufferTexture2D"
      [framebufferCode, nat 36064, texture2d, nat t.name, nat 0]
  | viewport w h => command "Viewport" [nat 0, nat 0, signed w, signed h]
  | clearColor c => command "ClearColor" (c.toList.map float)
  | clear => command "Clear" [nat 16384]
  | enableBlend => command "Enable" [nat 3042]
  | disableBlend => command "Disable" [nat 3042]
  | blendFunction s d => command "BlendFunc" [nat s.code, nat d.code]
  | drawArrays n => command "DrawArrays" [triangles, nat 0, signed n]
  | drawElements n => command "DrawElements" [triangles, signed n, shortIndices, nat 0]
  | drawElementsInstanced n i =>
    command "DrawElementsInstanced" [triangles, signed n, shortIndices, nat 0, signed i]
  | flush => command "Flush" []

end Command

end LitTiles.Gl
