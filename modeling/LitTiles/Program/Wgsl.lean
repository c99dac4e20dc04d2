import LitTiles.Program.Source

/-!
# WGSL programs

The fixed programs and the wrapper of effects, as WGSL modules. Components are spelled `x`, `y`, `z`
and `w`; all channels share one sampler, and effects sample an explicit level so that sampling stays
legal inside branches.
-/

namespace LitTiles

namespace Wgsl

/-- The language of the bodies of effects. -/
def language : Language where
  swizzle := .xyzw
  declareLocal name type := "var " ++ name ++ ": " ++ type.wgslName ++ ";"
  declareUniform name type := name ++ ": " ++ type.wgslName ++ ","
  sampling := .numbered fun channel args =>
    ("textureSampleLevel(channel" ++ toString channel ++ ", channelSampler, ").toList ++ args ++
      ", 0.0)".toList

/-- An effect as a program. The body sees the pixel position in `fragCoord`, a transparent
`fragColor` to write to, the `uniforms` and the textures of all channels. -/
def fullscreenProgram (g : Generated) : ProgramSource :=
  .wgsl (unlines (
    ["struct Uniforms \x7b"] ++ nested g.uniforms ++
    ["\x7d;", "@group(0) @binding(0) var<uniform> uniforms: Uniforms;"] ++
    ((List.range maxChannels).map fun i =>
      "@group(1) @binding(" ++ toString i ++ ") var channel" ++ toString i ++
        ": texture_2d<f32>;") ++
    ["@group(1) @binding(" ++ toString maxChannels ++ ") var channelSampler: sampler;",
     "",
     "@vertex",
     "fn vs_main(@builtin(vertex_index) index: u32) -> @builtin(position) vec4<f32> \x7b",
     "    let x = f32((index << 1u) & 2u);",
     "    let y = f32(index & 2u);",
     "    return vec4<f32>(x * 2.0 - 1.0, 1.0 - y * 2.0, 0.0, 1.0);",
     "\x7d",
     "",
     "@fragment",
     "fn fs_main(@builtin(position) position: vec4<f32>) -> @location(0) vec4<f32> \x7b",
     "    let fragCoord = position.xy;",
     "    var fragColor = vec4<f32>(0.0, 0.0, 0.0, 0.0);"] ++
    nested g.body ++
    ["    return fragColor;", "\x7d"]))

/-- The sprite module up to its fragment stage. -/
def spriteModuleHead : List String := [
  "struct Camera \x7b",
  "    rect: vec4<f32>,",
  "\x7d;",
  "@group(0) @binding(0) var<uniform> camera: Camera;",
  "@group(1) @binding(0) var atlas: texture_2d<f32>;",
  "@group(1) @binding(1) var atlasSampler: sampler;",
  "",
  "struct SpriteIn \x7b",
  "    @location(0) corner: vec2<f32>,",
  "    @location(1) position: vec2<f32>,",
  "    @location(2) size: vec2<f32>,",
  "    @location(3) uv_min: vec2<f32>,",
  "    @location(4) uv_max: vec2<f32>,",
  "    @location(5) tint: vec4<f32>,",
  "    @location(6) mask: vec4<f32>,",
  "\x7d;",
  "",
  "struct SpriteOut \x7b",
  "    @builtin(position) clip: vec4<f32>,",
  "    @location(0) uv: vec2<f32>,",
  "    @location(1) tint: vec4<f32>,",
  "    @location(2) mask: vec4<f32>,",
  "\x7d;",
  "",
  "@vertex",
  "fn vs_main(v: SpriteIn) -> SpriteOut \x7b",
  "    let world = v.position + v.corner * v.size;",
  "    let rel = (world - camera.rect.xy) / camera.rect.zw;",
  "    var o: SpriteOut;",
  "    o.clip = vec4<f32>(rel.x * 2.0 - 1.0, 1.0 - rel.y * 2.0, 0.0, 1.0);",
  "    o.uv = mix(v.uv_min, v.uv_max, v.corner);",
  "    o.tint = v.tint;",
  "    o.mask = v.mask;",
  "    return o;",
  "\x7d"]

/-- The light module. -/
def lightModule : List String := [
  "struct Camera \x7b",
  "    rect: vec4<f32>,",
  "\x7d;",
  "@group(0) @binding(0) var<uniform> camera: Camera;",
  "",
  "struct LightIn \x7b",
  "    @location(0) corner: vec2<f32>,",
  "    @location(1) center: vec2<f32>,",
  "    @location(2) radius_cutoff: vec2<f32>,",
  "    @location(3) direction: vec2<f32>,",
  "    @location(4) color: vec4<f32>,",
  "\x7d;",
  "",
  "struct LightOut \x7b",
  "    @builtin(position) clip: vec4<f32>,",
  "    @location(0) local: vec2<f32>,",
  "    @location(1) radius_cutoff: vec2<f32>,",
  "    @location(2) direction: vec2<f32>,",
  "    @location(3) color: vec4<f32>,",
  "\x7d;",
  "",
  "@vertex",
  "fn vs_main(v: LightIn) -> LightOut \x7b",
  "    let local = v.corner * 2.0 - 1.0;",
  "    let world = v.center + local * v.radius_cutoff.x;",
  "    let rel = (world - camera.rect.xy) / camera.rect.zw;",
  "    var o: LightOut;",
  "    o.clip = vec4<f32>(rel.x * 2.0 - 1.0, 1.0 - rel.y * 2.0, 0.0, 1.0);",
  "    o.local = local;",
  "    o.radius_cutoff = v.radius_cutoff;",
  "    o.direction = v.direction;",
  "    o.color = v.color;",
  "    return o;",
  "\x7d",
  "",
  "@fragment",
  "fn fs_main(frag: LightOut) -> @location(0) vec4<f32> \x7b",
  "    let d = length(frag.local);",
  "    var falloff = clamp(1.0 - d, 0.0, 1.0);",
  "    falloff = falloff * falloff;",
  "    var spot = 1.0;",
  "    if (frag.radius_cutoff.y > -1.0 && d > 0.0) \x7b",
  "        let c = dot(frag.local / d, frag.direction);",
  "        spot = smoothstep(frag.radius_cutoff.y, min(frag.radius_cutoff.y + 0.05, 1.0), c);",
  "    \x7d",
  "    let k = falloff * spot;",
  "    return vec4<f32>(frag.color.xyz * k, k);",
  "\x7d"]

/-- The shadow module. -/
def shadowModule : List String := [
  "struct Camera \x7b",
  "    rect: vec4<f32>,",
  "\x7d;",
  "@group(0) @binding(0) var<uniform> camera: Camera;",
  "",
  "@vertex",
  "fn vs_main(@location(0) position: vec2<f32>) -> @builtin(position) vec4<f32> \x7b",
  "    let rel = (position - camera.rect.xy) / camera.rect.zw;",
  "    return vec4<f32>(rel.x * 2.0 - 1.0, 1.0 - rel.y * 2.0, 0.0, 1.0);",
  "\x7d",
  "",
  "@fragment",
  "fn fs_main() -> @location(0) vec4<f32> \x7b",
  "    return vec4<f32>(0.0, 0.0, 0.0, 0.0);",
  "\x7d"]

/-- The program that draws instanced sprites. -/
def spriteProgram (mode : SpriteMode) : ProgramSource :=
  .wgsl (unlines (spriteModuleHead ++
    ["",
     "@fragment",
     "fn fs_main(frag: SpriteOut) -> @location(0) vec4<f32> \x7b",
     "    let texel = textureSample(atlas, atlasSampler, frag.uv);",
     "    return " ++ Swizzle.xyzw.remapText (mode.output "frag.tint" "frag.mask") ++ ";",
     "\x7d"]))

/-- The program that draws one light. -/
def lightProgram : ProgramSource := .wgsl (unlines lightModule)

/-- The program that blanks the area behind a shadow caster. -/
def shadowProgram : ProgramSource := .wgsl (unlines shadowModule)

end Wgsl

end LitTiles
