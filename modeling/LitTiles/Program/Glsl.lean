import LitTiles.Program.Source

/-!
# GLSL ES programs

The fixed programs and the wrapper of effects, in both versions of GLSL ES. The versions differ in
how attributes, varyings and the fragment output are declared and in the name of the sampling
function; all else is shared, and the two versions of a program are made from one description.

Every vertex stage sees a unit quad in `aCorner` (shadows excepted, which are plain triangles). The
order of the attributes is the order of their locations, in either version.
-/

namespace LitTiles

/-- The two versions of GLSL ES. -/
inductive GlslVersion where
  /-- GLSL ES 1.00. -/
  | es100
  /-- GLSL ES 3.00. -/
  | es300
  deriving DecidableEq, Inhabited

/-- A variable that crosses a stage boundary. -/
structure GlslVariable where
  /-- Its type. -/
  type : ValueType
  /-- Its name. -/
  name : String

/-- The sampler of an effect's input. -/
def channelSamplerName (channel : Nat) : String := "uChannel" ++ toString channel

/-- A member of an effect's uniform block, as it is looked up after linking. -/
def uniformMemberName (name : String) : String := "uniforms." ++ name

namespace Glsl

/-- The attributes of the sprite program, in location order. -/
def spriteAttributes : List GlslVariable :=
  [⟨.vec2, "aCorner"⟩, ⟨.vec2, "aPosition"⟩, ⟨.vec2, "aSize"⟩, ⟨.vec2, "aUvMin"⟩,
   ⟨.vec2, "aUvMax"⟩, ⟨.vec4, "aTint"⟩, ⟨.vec4, "aMask"⟩]

/-- The attributes of the light program, in location order. -/
def lightAttributes : List GlslVariable :=
  [⟨.vec2, "aCorner"⟩, ⟨.vec2, "aCenter"⟩, ⟨.vec2, "aRadiusCutoff"⟩, ⟨.vec2, "aDirection"⟩,
   ⟨.vec4, "aColor"⟩]

/-- The attributes of the shadow program, in location order. -/
def shadowAttributes : List GlslVariable := [⟨.vec2, "aPosition"⟩]

/-- The attributes of effects, in location order. -/
def fullscreenAttributes : List GlslVariable := [⟨.vec2, "aCorner"⟩]

/-- What the sprite program hands to its fragments. -/
def spriteVaryings : List GlslVariable :=
  [⟨.vec2, "vUv"⟩, ⟨.vec4, "vTint"⟩, ⟨.vec4, "vMask"⟩]

/-- What the light program hands to its fragments. -/
def lightVaryings : List GlslVariable :=
  [⟨.vec2, "vLocal"⟩, ⟨.vec2, "vRadiusCutoff"⟩, ⟨.vec2, "vDirection"⟩, ⟨.vec4, "vColor"⟩]

/-- The uniform that carries the view. -/
def viewDeclaration : String := "uniform vec4 uView;"

end Glsl

namespace GlslVersion

/-- The version line. -/
def header : GlslVersion → String
  | es100 => "#version 100"
  | es300 => "#version 300 es"

/-- The default precision of fragment stages. -/
def precision : GlslVersion → String
  | es100 => "precision mediump float;"
  | es300 => "precision highp float;"

/-- The declaration of the attribute at a location. -/
def attributeLine (v : GlslVersion) (location : Nat) (a : GlslVariable) : String :=
  match v with
  | es100 => "attribute " ++ a.type.glslName ++ " " ++ a.name ++ ";"
  | es300 =>
    "layout(location = " ++ toString location ++ ") in " ++ a.type.glslName ++ " " ++ a.name ++ ";"

/-- A varying as the vertex stage declares it. -/
def varyingOut (v : GlslVersion) (a : GlslVariable) : String :=
  match v with
  | es100 => "varying " ++ a.type.glslName ++ " " ++ a.name ++ ";"
  | es300 => "out " ++ a.type.glslName ++ " " ++ a.name ++ ";"

/-- A varying as the fragment stage declares it. -/
def varyingIn (v : GlslVersion) (a : GlslVariable) : String :=
  match v with
  | es100 => "varying " ++ a.type.glslName ++ " " ++ a.name ++ ";"
  | es300 => "in " ++ a.type.glslName ++ " " ++ a.name ++ ";"

/-- The declaration of the fragment output, where one is needed. -/
def outputDeclaration : GlslVersion → List String
  | es100 => []
  | es300 => ["out vec4 outColor;"]

/-- The variable a fragment stage writes. -/
def output : GlslVersion → String
  | es100 => "gl_FragColor"
  | es300 => "outColor"

/-- The function that samples a texture. -/
def sampler : GlslVersion → String
  | es100 => "texture2D"
  | es300 => "texture"

/-- A main function. -/
def mainFunction (body : List String) : List String :=
  ["void main() \x7b"] ++ nested body ++ ["\x7d"]

/-- A vertex stage. -/
def vertexStage (v : GlslVersion) (attributes : List GlslVariable) (globals : List String)
    (varyings : List GlslVariable) (body : List String) : String :=
  unlines (v.header :: attributes.mapIdx v.attributeLine ++ globals ++ varyings.map v.varyingOut ++
    mainFunction body)

/-- A fragment stage whose last statement writes the output. -/
def fragmentStage (v : GlslVersion) (globals : List String) (varyings : List GlslVariable)
    (body : List String) (result : String) : String :=
  unlines ([v.header, v.precision] ++ globals ++ varyings.map v.varyingIn ++
    v.outputDeclaration ++ mainFunction (body ++ [v.output ++ " = " ++ result ++ ";"]))

/-- From a world position to the clip position, through the view. -/
def clipFrom (world : String) : List String :=
  ["vec2 rel = (" ++ world ++ " - uView.xy) / uView.zw;",
   "gl_Position = vec4(rel.x * 2.0 - 1.0, 1.0 - rel.y * 2.0, 0.0, 1.0);"]

/-- The language of the bodies of effects. -/
def language (v : GlslVersion) : Language where
  swizzle := .identity
  declareLocal name type := type.glslName ++ " " ++ name ++ ";"
  declareUniform name type := type.glslName ++ " " ++ name ++ ";"
  sampling := .numbered fun channel args =>
    (v.sampler ++ "(" ++ channelSamplerName channel ++ ", ").toList ++ args ++ [')']

/-- An effect as a program. The body sees the pixel position in `fragCoord`, a transparent
`fragColor` to write to, the `uniforms` and the samplers of all channels. -/
def fullscreenProgram (v : GlslVersion) (g : Generated) : ProgramSource :=
  .glsl
    (v.vertexStage Glsl.fullscreenAttributes [] []
      ["gl_Position = vec4(aCorner * 2.0 - 1.0, 0.0, 1.0);"])
    (v.fragmentStage
      (["struct Uniforms \x7b"] ++ nested g.uniforms ++ ["\x7d;", "uniform Uniforms uniforms;"] ++
        (List.range maxChannels).map fun i => "uniform sampler2D " ++ channelSamplerName i ++ ";")
      []
      (["vec2 fragCoord = gl_FragCoord.xy;", "vec4 fragColor = vec4(0.0);"] ++ g.body)
      "fragColor")

/-- The program that draws instanced sprites. -/
def spriteProgram (v : GlslVersion) (mode : SpriteMode) : ProgramSource :=
  .glsl
    (v.vertexStage Glsl.spriteAttributes [Glsl.viewDeclaration] Glsl.spriteVaryings
      (["vec2 world = aPosition + aCorner * aSize;"] ++ clipFrom "world" ++
        ["vUv = mix(aUvMin, aUvMax, aCorner);", "vTint = aTint;", "vMask = aMask;"]))
    (v.fragmentStage ["uniform sampler2D uAtlas;"] Glsl.spriteVaryings
      ["vec4 texel = " ++ v.sampler ++ "(uAtlas, vUv);"]
      (mode.output "vTint" "vMask"))

/-- The program that draws one light: a radial falloff, narrowed to a cone when the cosine of its
half-angle is above minus one. -/
def lightProgram (v : GlslVersion) : ProgramSource :=
  .glsl
    (v.vertexStage Glsl.lightAttributes [Glsl.viewDeclaration] Glsl.lightVaryings
      (["vLocal = aCorner * 2.0 - 1.0;", "vec2 world = aCenter + vLocal * aRadiusCutoff.x;"] ++
        clipFrom "world" ++
        ["vRadiusCutoff = aRadiusCutoff;", "vDirection = aDirection;", "vColor = aColor;"]))
    (v.fragmentStage [] Glsl.lightVaryings
      ["float d = length(vLocal);",
       "float falloff = clamp(1.0 - d, 0.0, 1.0);",
       "falloff *= falloff;",
       "float spot = 1.0;",
       "if (vRadiusCutoff.y > -1.0 && d > 0.0) \x7b",
       "    float c = dot(vLocal / d, vDirection);",
       "    spot = smoothstep(vRadiusCutoff.y, min(vRadiusCutoff.y + 0.05, 1.0), c);",
       "\x7d",
       "float k = falloff * spot;",
       "vec4 light = vec4(vColor.rgb * k, k);"]
      "light")

/-- The program that blanks the area behind a shadow caster. -/
def shadowProgram (v : GlslVersion) : ProgramSource :=
  .glsl
    (v.vertexStage Glsl.shadowAttributes [Glsl.viewDeclaration] [] (clipFrom "aPosition"))
    (v.fragmentStage [] [] [] "vec4(0.0)")

end GlslVersion

end LitTiles
