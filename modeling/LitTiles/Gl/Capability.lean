import LitTiles.Program.Dialect

/-!
# What a GL context can do

Contexts of very different age are asked to run two interfaces. Embedded contexts accept the
programs of their own version; desktop contexts accept GLSL ES 1.00 from 4.1 and GLSL ES 3.00 from
4.3. Sprites are drawn instanced, which is part of embedded 3.0 and desktop 3.3, and an extension
before.
-/

namespace LitTiles.Gl

/-- The version of a context. -/
structure Version where
  /-- First number. -/
  major : Nat := 3
  /-- Second number. -/
  minor : Nat := 0
  /-- Whether this is OpenGL ES. -/
  embedded : Bool := true
  deriving DecidableEq, Inhabited

namespace Version

/-- Whether a version is a given one or a later one. -/
def atLeast (v : Version) (major minor : Nat) : Bool :=
  major < v.major || (v.major == major && minor ≤ v.minor)

/-- The two numbers of a version. -/
def numbers (v : Version) : String := toString v.major ++ "." ++ toString v.minor

/-- Whether a version has all of embedded 3.0. -/
def isModern (v : Version) : Bool := if v.embedded then 3 ≤ v.major else v.atLeast 3 3

end Version

/-- Where instanced draws come from. -/
inductive Instancing where
  /-- They are part of the context's version. -/
  | core
  /-- They come from an extension. -/
  | extension
  deriving DecidableEq, Inhabited

/-- The way the origin of instancing is named. -/
def Instancing.describe : Instancing → String
  | core => "Core"
  | extension => "Extension"

/-- What the adapter makes use of. -/
structure Capabilities where
  /-- Where instanced draws come from. -/
  instancing : Instancing
  /-- Vertex array objects exist; desktop contexts insist on one. -/
  vertexArrays : Bool
  /-- Textures may be stored in a sized format. -/
  sizedFormats : Bool
  deriving DecidableEq, Inhabited

/-- The extensions that bring instanced draws. -/
def instancingExtensions : List String :=
  ["GL_ANGLE_instanced_arrays", "GL_EXT_instanced_arrays", "GL_ARB_instanced_arrays"]

/-- What a context offers to an interface, or why it cannot run it. -/
def Capabilities.of (interface : Interface) (version : Version) (extensions : List String) :
    Except String Capabilities := do
  let need (embedded : Nat) (desktop : Nat) (language : String) : Except String Unit :=
    let accepted :=
      if version.embedded then decide (embedded ≤ version.major) else version.atLeast 4 desktop
    if accepted then .ok ()
    else .error (language ++ " needs OpenGL ES " ++ toString embedded ++ ".0 or OpenGL 4." ++
      toString desktop ++ ", context is " ++ version.numbers)
  match interface with
  | .gles3 => need 3 3 "GLSL ES 3.00"
  | .gles2 => need 2 1 "GLSL ES 1.00"
  | .wgpu => .error "wgpu does not run on a GL context"
  let modern := version.isModern
  if modern then return ⟨.core, modern, modern⟩
  else if instancingExtensions.any extensions.contains then return ⟨.extension, modern, modern⟩
  else .error "no instanced-arrays support"

end LitTiles.Gl
