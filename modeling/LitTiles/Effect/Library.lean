import LitTiles.Effect.Basic

/-!
# Built-in effects

The lighting chain and the default passes depend on `copy`, `light`, `lightAccumulate` and the two
blurs; `vignette` and `grayscale` are offered so that passes can name them.
-/

namespace LitTiles

namespace EffectName

/-- Samples channel 0 unchanged. -/
def copy : String := "copy"

/-- Modulates channel 0 by the lightmap in channel 1. -/
def light : String := "light"

/-- Adds channel 0 to the output; the effect is that of `copy`. -/
def lightAccumulate : String := "light_accumulate"

/-- Blurs along the first axis. -/
def blurH : String := "blur_h"

/-- Blurs along the second axis. -/
def blurV : String := "blur_v"

/-- Darkens the corners. -/
def vignette : String := "vignette"

/-- Blends towards the luminance. -/
def grayscale : String := "grayscale"

end EffectName

namespace Effect

/-- An effect that has the normalized position in `uv`. -/
def withUv : Effect :=
  (empty.declare "uv" .vec2).set "uv" "fragCoord / uniforms.resolution"

/-- Samples channel 0 unchanged. -/
def copy : Effect := withUv.set "fragColor" "texture(0, uv)"

/-- Modulates the scene in channel 0 by the lightmap in channel 1. -/
def light : Effect :=
  withUv.set "fragColor" "texture(0, uv) * vec4(texture(1, uv).rgb, 1.0)"

/-- A Gaussian of nine taps along an axis, folded into five bilinear fetches; `uniforms.radius`
scales the spacing of the taps in pixels. -/
def blur (axis : String) : Effect :=
  let e := (withUv.uniform "radius" .float).declare "texel" .vec2
  let e := e.set "texel" (axis ++ " * uniforms.radius / uniforms.resolution")
  let e := e.set "fragColor" "texture(0, uv) * 0.227027"
  let e := e.add "fragColor" "texture(0, uv + texel * 1.3846154) * 0.3162162"
  let e := e.add "fragColor" "texture(0, uv - texel * 1.3846154) * 0.3162162"
  let e := e.add "fragColor" "texture(0, uv + texel * 3.2307692) * 0.07027027"
  e.add "fragColor" "texture(0, uv - texel * 3.2307692) * 0.07027027"

/-- The blur along the first axis. -/
def blurH : Effect := blur "vec2(1.0, 0.0)"

/-- The blur along the second axis. -/
def blurV : Effect := blur "vec2(0.0, 1.0)"

/-- Darkens towards the corners; `radius` and `softness` are measured in normalized positions. -/
def vignette : Effect :=
  let e := withUv.uniform "strength" .float
  let e := (e.uniform "radius" .float).uniform "softness" .float
  let e := (e.declare "d" .float).declare "shade" .float
  let e := e.set "d" "length(uv - vec2(0.5, 0.5))"
  let e := e.set "shade"
    "1.0 - smoothstep(uniforms.radius - uniforms.softness, uniforms.radius, d)"
  let e := e.set "fragColor" "texture(0, uv)"
  e.mul "fragColor" "vec4(vec3(mix(1.0, shade, uniforms.strength)), 1.0)"

/-- Blends towards the luminance by `amount`, and does nothing for an amount of zero. -/
def grayscale : Effect :=
  let e := (withUv.uniform "amount" .float).declare "luma" .float
  let e := e.set "fragColor" "texture(0, uv)"
  let e := e.statement (.ifThen "uniforms.amount > 0.0")
  let e := e.set "luma" "dot(fragColor.rgb, vec3(0.299, 0.587, 0.114))"
  let e := e.set "fragColor"
    "vec4(mix(fragColor.rgb, vec3(luma), uniforms.amount), fragColor.a)"
  e.statement .endIf

end Effect

end LitTiles
