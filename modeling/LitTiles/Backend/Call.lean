import LitTiles.Backend.Error
import LitTiles.Batch.DrawCall
import LitTiles.Scene.Basic

/-!
# Backend calls

The renderer talks to the graphics hardware through a small set of calls, each of the size of one
clear, one batch of sprites or one full-screen program. The renderer decides what is drawn and in
which order; a backend only knows how to express one call natively. Calls between the beginning and
the end of a frame take effect in order, and offscreen targets keep their contents within a frame.

A call is a value, and `Call.Outcome` is the type of what it can answer. Freeing a buffer cannot
fail; everything else can.
-/

namespace LitTiles

/-- How the output of a program is blended with what is there. Colours are premultiplied. -/
inductive BlendMode where
  /-- Overwrite. -/
  | replace
  /-- Cover by alpha. -/
  | alpha
  /-- Add. -/
  | additive
  /-- Multiply. -/
  | multiply
  deriving DecidableEq, Inhabited

/-- The way a blend mode is named in log messages. -/
def BlendMode.describe : BlendMode → String
  | replace => "Replace"
  | alpha => "Alpha"
  | additive => "Additive"
  | multiply => "Multiply"

/-- Where a call draws to. -/
inductive Target where
  /-- An offscreen target, by index. -/
  | offscreen (index : Nat)
  /-- The surface that is presented. -/
  | surface
  deriving DecidableEq, Inhabited

/-- Handle of an instance buffer. -/
structure BufferId where
  /-- The backend's number. -/
  val : UInt32
  deriving DecidableEq, Inhabited

/-- The way a buffer is named in log messages. -/
def BufferId.describe (b : BufferId) : String := "BufferId(" ++ toString b.val.toNat ++ ")"

/-- A sprite as every vertex layout reads it. -/
structure SpriteInstance where
  /-- Top-left corner in the world. -/
  position : Vec2
  /-- Extent in the world. -/
  size : Vec2
  /-- Top-left corner in the atlas. -/
  uvMin : Vec2
  /-- Bottom-right corner in the atlas. -/
  uvMax : Vec2
  /-- Tint. -/
  tint : Color
  /-- Mask colour. -/
  mask : Color
  deriving Inhabited

namespace SpriteInstance

/-- The instance of a sprite. -/
def ofSprite (s : Sprite) : SpriteInstance :=
  ⟨s.position, s.size, s.uvMin, s.uvMax, s.tint, s.mask⟩

/-- The sixteen floats of an instance in memory order. -/
def toList (i : SpriteInstance) : List Scalar :=
  i.position.toList ++ i.size.toList ++ i.uvMin.toList ++ i.uvMax.toList ++ i.tint.toList ++
    i.mask.toList

/-- Bytes of an instance. -/
def stride : Nat := 64

@[simp] theorem length_toList (i : SpriteInstance) : i.toList.length = 16 := rfl

end SpriteInstance

/-- A light as every vertex layout reads it. -/
structure LightInstance where
  /-- Where it stands. -/
  center : Vec2
  /-- How far it reaches. -/
  radius : Scalar
  /-- Cosine of half the cone's opening; minus one opens the cone all around. -/
  cosCutoff : Scalar
  /-- Unit vector of the facing angle. -/
  direction : Vec2
  /-- Colour times intensity, opaque. -/
  color : Color
  deriving Inhabited

namespace LightInstance

/-- The instance of a light. -/
def ofLight (l : Light) : LightInstance where
  center := l.position
  radius := l.radius
  cosCutoff := (l.cone.map Scalar.cosine).getD (-1)
  direction := Vec2.ofAngle l.direction
  color := l.color.scaledOpaque l.intensity

/-- The twelve floats of an instance in memory order, two of them padding. -/
def toList (i : LightInstance) : List Scalar :=
  i.center.toList ++ [i.radius, i.cosCutoff] ++ i.direction.toList ++ [0, 0] ++ i.color.toList

/-- Bytes of an instance. -/
def stride : Nat := 48

@[simp] theorem length_toList (i : LightInstance) : i.toList.length = 12 := rfl

end LightInstance

/-- A named atlas of 32-bit texels. -/
structure Texture where
  /-- The name sprites refer to. -/
  name : String
  /-- Texels per row. -/
  width : UInt32
  /-- Number of rows. -/
  height : UInt32
  /-- The texels, row by row, four bytes each. -/
  pixels : List UInt8
  deriving Inhabited

namespace Texture

/-- Bytes that fill the texture exactly. -/
def expectedBytes (t : Texture) : Nat := t.width.toNat * t.height.toNat * 4

/-- Refuses a texture without texels and one whose bytes do not fill it exactly. -/
def validate (t : Texture) : Except RenderError Unit :=
  if t.width = 0 ∨ t.height = 0 ∨ t.pixels.length ≠ t.expectedBytes then
    .error (.invalidTexture t.name t.width t.height t.expectedBytes t.pixels.length)
  else .ok ()

end Texture

/-- An effect ready for native compilation. -/
structure EffectProgram where
  /-- The text. -/
  source : ProgramSource
  /-- The uniform table, in packed order. -/
  uniforms : List Uniform
  /-- Number of floats in the uniform block. -/
  uniformLength : Nat
  /-- How the output is blended. -/
  blend : BlendMode
  deriving Inhabited

namespace EffectProgram

/-- An effect in a dialect. -/
def ofEffect (d : Dialect) (e : Effect) (blend : BlendMode) : EffectProgram :=
  ⟨d.compile e, e.uniforms, e.uniformLength, blend⟩

end EffectProgram

/-- A request to a backend that is answered by success or an error. -/
inductive Command where
  /-- Uploads an atlas; a texture of the same name is replaced. -/
  | loadTexture (texture : Texture)
  /-- Compiles an effect under a name. -/
  | compileProgram (name : String) (program : EffectProgram)
  /-- Makes all offscreen targets anew, for a surface of a size. -/
  | configureTargets (surface : SurfaceSize) (targets : List SurfaceSize)
  /-- Overwrites the start of a buffer. -/
  | writeInstances (buffer : BufferId) (instances : List SpriteInstance)
  /-- Starts a frame that shows a part of the world. -/
  | beginFrame (view : Rect)
  /-- Fills a target with a colour. -/
  | clear (target : Target) (color : Color)
  /-- Draws runs of instances from a buffer. -/
  | drawSprites (target : Target) (mode : SpriteMode) (buffer : BufferId) (calls : List DrawCall)
  /-- Draws the falloff of one light, replacing what is under it. -/
  | drawLight (target : Target) (light : LightInstance)
  /-- Blanks triangles, given as a flat list of corners. -/
  | drawShadows (target : Target) (triangles : List Vec2)
  /-- Runs an effect. Channel `c` samples the offscreen target `inputs[c]`. -/
  | runProgram (name : String) (inputs : List Nat) (output : Target) (uniforms : List Scalar)
      (clear : Option Color)
  /-- Submits the frame and presents the surface. -/
  | endFrame
  deriving Inhabited

/-- A request to a backend. -/
inductive Call where
  /-- Makes a buffer for a number of instances. -/
  | createBuffer (capacity : Nat)
  /-- Gives a buffer back. -/
  | freeBuffer (buffer : BufferId)
  /-- Everything else. -/
  | issue (command : Command)
  deriving Inhabited

namespace Call

/-- What a call can answer. -/
@[reducible] def Outcome : Call → Type
  | createBuffer _ => Except RenderError BufferId
  | freeBuffer _ => Unit
  | issue _ => Except RenderError Unit

/-- The error an answer reports, if any. -/
def error? : (c : Call) → c.Outcome → Option RenderError
  | createBuffer _, .error e => some e
  | issue _, .error e => some e
  | _, _ => none

end Call

end LitTiles
