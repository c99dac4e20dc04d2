import LitTiles.Program.Glsl
import LitTiles.Program.Wgsl

/-!
# Dialects

The three shading languages, each with the language of effect bodies and its programs. A rendering
interface speaks exactly one of them.
-/

namespace LitTiles

/-- A shading language. -/
inductive Dialect where
  /-- GLSL ES 1.00: attributes, varyings and `gl_FragColor`. -/
  | glslEs100
  /-- GLSL ES 3.00: inputs, outputs and explicit locations. -/
  | glslEs300
  /-- WGSL: coordinate swizzles and one shared sampler. -/
  | wgsl
  deriving DecidableEq, Inhabited

namespace Dialect

/-- The way a dialect is named in log messages. -/
def describe : Dialect → String
  | glslEs100 => "GlslEs100"
  | glslEs300 => "GlslEs300"
  | wgsl => "Wgsl"

/-- The language of the bodies of effects. -/
def language : Dialect → Language
  | glslEs100 => GlslVersion.es100.language
  | glslEs300 => GlslVersion.es300.language
  | wgsl => Wgsl.language

/-- Wraps the lines of an effect into a program. -/
def fullscreenProgram (d : Dialect) (g : Generated) : ProgramSource :=
  match d with
  | glslEs100 => GlslVersion.es100.fullscreenProgram g
  | glslEs300 => GlslVersion.es300.fullscreenProgram g
  | wgsl => Wgsl.fullscreenProgram g

/-- The program that draws instanced sprites. -/
def spriteProgram (d : Dialect) (mode : SpriteMode) : ProgramSource :=
  match d with
  | glslEs100 => GlslVersion.es100.spriteProgram mode
  | glslEs300 => GlslVersion.es300.spriteProgram mode
  | wgsl => Wgsl.spriteProgram mode

/-- The program that draws one light. -/
def lightProgram : Dialect → ProgramSource
  | glslEs100 => GlslVersion.es100.lightProgram
  | glslEs300 => GlslVersion.es300.lightProgram
  | wgsl => Wgsl.lightProgram

/-- The program that blanks the area behind a shadow caster. -/
def shadowProgram : Dialect → ProgramSource
  | glslEs100 => GlslVersion.es100.shadowProgram
  | glslEs300 => GlslVersion.es300.shadowProgram
  | wgsl => Wgsl.shadowProgram

/-- An effect as a program. -/
def compile (d : Dialect) (e : Effect) : ProgramSource :=
  d.fullscreenProgram (e.generate d.language)

end Dialect

/-- The rendering interface chosen at startup. -/
inductive Interface where
  /-- OpenGL ES 2 class devices, with instancing through an extension. -/
  | gles2
  /-- OpenGL ES 3 class devices. -/
  | gles3
  /-- WebGPU devices. -/
  | wgpu
  deriving DecidableEq, Inhabited

namespace Interface

/-- The way an interface is named in log messages. -/
def describe : Interface → String
  | gles2 => "Gles2"
  | gles3 => "Gles3"
  | wgpu => "Wgpu"

/-- The shading language of an interface. -/
def dialect : Interface → Dialect
  | gles2 => .glslEs100
  | gles3 => .glslEs300
  | wgpu => .wgsl

end Interface

end LitTiles
