import LitTiles.Gl.Context

/-!
# Textures and offscreen targets of a GL context

Every texture holds red, green, blue and alpha in four bytes, is clamped at its edges, and is bound
only while it is made. An offscreen target is a texture with a framebuffer of its own; one whose
framebuffer is not complete is given up.
-/

namespace LitTiles.Gl

open Context

/-- Makes a texture, with contents or without. -/
def createTexture (c : Capabilities) (width height : UInt32) (pixels : Option (List UInt8))
    (filter : Filter) : ContextM (Handle .texture) := do
  let t ← create .texture (refusedBy "create_texture")
  giveAll [
    .bindTexture (some t),
    .textureParameter (.minified filter),
    .textureParameter (.magnified filter),
    .textureParameter .clampedAcross,
    .textureParameter .clampedDown,
    .unpackAlignment 1,
    .textureImage (if c.sizedFormats then .rgba8 else .rgba) width.toInt32 height.toInt32 pixels,
    .bindTexture none]
  return t

/-- An offscreen target. -/
structure RenderTarget where
  /-- What is drawn to. -/
  framebuffer : Handle .framebuffer
  /-- What is sampled. -/
  texture : Handle .texture
  /-- Size in pixels. -/
  size : SurfaceSize
  deriving Inhabited

namespace RenderTarget

/-- Deletes a target. -/
def delete (t : RenderTarget) : List Command :=
  [.delete .framebuffer t.framebuffer, .delete .texture t.texture]

/-- The digits of a status code. -/
def statusDigits (status : Nat) : String := "0x" ++ String.ofList (Nat.toDigits 16 status)

/-- Makes the target of an index. It has at least one pixel each way. -/
def make (c : Capabilities) (index : Nat) (size : SurfaceSize) : ContextM RenderTarget := do
  let size : SurfaceSize := ⟨max size.width 1, max size.height 1⟩
  let texture ← createTexture c size.width size.height none .linear
  let framebuffer ← create .framebuffer (refusedBy "create_framebuffer")
  giveAll [.bindFramebuffer (some framebuffer), .framebufferTexture texture]
  let status ← checkFramebuffer
  give (.bindFramebuffer none)
  let target : RenderTarget := ⟨framebuffer, texture, size⟩
  if status = framebufferComplete then return target
  else
    giveAll target.delete
    throw (.surface ("offscreen target " ++ toString index ++ " incomplete: " ++
      statusDigits status))

end RenderTarget

end LitTiles.Gl
