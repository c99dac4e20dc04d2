import LitTiles.Effect.Packing
import LitTiles.Gl.Context

/-!
# Programs of a GL context

A program is linked from a vertex and a fragment stage; the locations of its attributes are fixed
beforehand, in order. Once it is linked its shaders are not needed any more.

Uniforms that the linker removed have no location, and are not set.
-/

namespace LitTiles.Gl

open Context

/-- Compiles one stage. If that fails, its shader and the earlier ones are deleted. -/
def compileStage (name : String) (earlier : List (Handle .shader)) (stage : ShaderStage)
    (text : String) : ContextM (Handle .shader) := do
  let s ← createShader stage (.rejectedProgram name)
  give (.shaderSource s text)
  match ← compileShader s with
  | none => return s
  | some log =>
    giveAll ((s :: earlier).map (.delete .shader ·))
    throw (.rejectedProgram name log)

/-- Links a program whose attributes have their place in the list as location. -/
def link (name vertex fragment : String) (attributes : List String) :
    ContextM (Handle .program) := do
  let v ← compileStage name [] .vertex vertex
  let f ← compileStage name [v] .fragment fragment
  let p ← create .program (.rejectedProgram name)
  giveAll (attributes.zipIdx.map fun (a, i) => .bindAttribute p i a)
  giveAll ([v, f].map (.attachShader p ·))
  let rejected ← linkProgram p
  giveAll ([v, f].flatMap fun s => [.detachShader p s, .delete .shader s])
  match rejected with
  | none => return p
  | some log =>
    give (.delete .program p)
    throw (.rejectedProgram name log)

/-- The stages of a program text; a context compiles nothing but GLSL. -/
def stagesOf (name : String) : ProgramSource → Except RenderError (String × String)
  | .glsl vertex fragment => .ok (vertex, fragment)
  | .wgsl _ => .error (.rejectedProgram name "GL programs must be GLSL")

/-- Links the stages of a program text. -/
def linkSource (name : String) (source : ProgramSource) (attributes : List GlslVariable) :
    ContextM (Handle .program) := do
  let (vertex, fragment) ← ofExcept (stagesOf name source)
  link name vertex fragment (attributes.map (·.name))

/-- A program that draws sprites, lights or shadows. -/
structure FixedProgram where
  /-- The program. -/
  program : Handle .program
  /-- Where it takes the visible part of the world. -/
  view : Option Nat
  /-- Where it takes the unit of its texture. -/
  atlas : Option Nat
  deriving Inhabited

namespace FixedProgram

/-- Compiles a fixed program. -/
def make (name : String) (source : ProgramSource) (attributes : List GlslVariable) :
    ContextM FixedProgram := do
  let p ← linkSource name source attributes
  let view ← locate p "uView"
  let atlas ← locate p "uAtlas"
  return ⟨p, view, atlas⟩

/-- Chooses a fixed program and sets the visible part of the world. -/
def select (f : FixedProgram) (view : Rect) : List Command :=
  .useProgram f.program ::
    ((f.view.map fun l => .uniformFloats l (view.origin.toList ++ view.size.toList)).toList ++
      (f.atlas.map fun l => .uniformInt l 0).toList)

end FixedProgram

/-- A uniform of a linked effect. -/
structure LinkedUniform where
  /-- Its place in the table. -/
  uniform : Uniform
  /-- Where it is set. -/
  location : Option Nat
  deriving Inhabited

/-- An effect that was compiled for a context. -/
structure LinkedEffect where
  /-- The program. -/
  program : Handle .program
  /-- How the output is blended. -/
  blend : BlendMode
  /-- The uniforms, in the order of the table. -/
  uniforms : List LinkedUniform
  /-- Where the samplers of the channels are set, in order. -/
  channels : List (Option Nat)
  deriving Inhabited

namespace LinkedEffect

/-- Looks up the uniforms and the samplers of a linked program. -/
def make (p : Handle .program) (uniforms : List Uniform) (blend : BlendMode) :
    ContextM LinkedEffect := do
  let us ← uniforms.mapM fun u => return ⟨u, ← locate p (uniformMemberName u.name)⟩
  let cs ← (List.range maxChannels).mapM fun c => locate p (channelSamplerName c)
  return ⟨p, blend, us, cs⟩

/-- Points the sampler of every channel at the texture unit of the same number. -/
def bindUnits (e : LinkedEffect) : List Command :=
  e.channels.zipIdx.filterMap fun (l, unit) => l.map (.uniformInt · unit)

/-- Sets the uniforms one by one from a packed block; what the block lacks is zero. -/
def upload (e : LinkedEffect) (packed : List Scalar) : List Command :=
  e.uniforms.filterMap fun u => u.location.map fun l =>
    .uniformFloats l (fitted u.uniform.type.components (packed.drop u.uniform.offset))

end LinkedEffect

/-- The factors of a blend mode; overwriting needs none. -/
def blendFactors : BlendMode → Option (BlendFactor × BlendFactor)
  | .replace => none
  | .alpha => some (.one, .oneMinusSourceAlpha)
  | .additive => some (.one, .one)
  | .multiply => some (.destination, .zero)

/-- Sets a blend mode. -/
def applyBlend (mode : BlendMode) : List Command :=
  match blendFactors mode with
  | some (new, old) => [.enableBlend, .blendFunction new old]
  | none => [.disableBlend]

end LitTiles.Gl
