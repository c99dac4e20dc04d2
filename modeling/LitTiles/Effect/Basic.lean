/-!
# Effects

An effect is a full-screen program written once and compiled for any backend: an ordered list of
statements and a table of uniforms. Expressions are text in a small notation of their own
(arithmetic, `.rgba` components, `texture(channel, uv)`); nothing is checked here, and a malformed
effect shows up as a compile error of the backend.

Uniforms are packed tightly in declaration order: each one starts where the one before it ends.
Every effect begins with the two built-in ones, `resolution` and `time`. Names are not made unique;
a repeated name gets a second place, and only the first place of a name can ever be overridden.
-/

namespace LitTiles

/-- Number of inputs an effect may sample. -/
def maxChannels : Nat := 8

/-- The types of values in effects. -/
inductive ValueType where
  /-- A number. -/
  | float
  /-- Two numbers. -/
  | vec2
  /-- Three numbers. -/
  | vec3
  /-- Four numbers. -/
  | vec4
  deriving DecidableEq, Inhabited

namespace ValueType

/-- Number of floats in a value. -/
def components : ValueType → Nat
  | float => 1
  | vec2 => 2
  | vec3 => 3
  | vec4 => 4

/-- Spelling in both versions of GLSL ES. -/
def glslName : ValueType → String
  | float => "float"
  | vec2 => "vec2"
  | vec3 => "vec3"
  | vec4 => "vec4"

/-- Spelling in WGSL. -/
def wgslName : ValueType → String
  | float => "f32"
  | vec2 => "vec2<f32>"
  | vec3 => "vec3<f32>"
  | vec4 => "vec4<f32>"

end ValueType

/-- The ways of assigning to a variable. -/
inductive Assignment where
  /-- Overwrite. -/
  | set
  /-- Add to. -/
  | add
  /-- Subtract from. -/
  | sub
  /-- Multiply with. -/
  | mul
  /-- Divide by. -/
  | div
  deriving DecidableEq, Inhabited

/-- The sign of an assignment in every target language. -/
def Assignment.symbol : Assignment → String
  | set => "="
  | add => "+="
  | sub => "-="
  | mul => "*="
  | div => "/="

/-- One statement of an effect. Conditions have to nest as blocks; that is the caller's business,
and whatever sequence is given is emitted. -/
inductive Statement where
  /-- Declares a local variable. -/
  | declare (name : String) (type : ValueType)
  /-- Assigns the value of an expression to a variable. -/
  | assign (op : Assignment) (target expr : String)
  /-- Opens a block that runs under a condition. -/
  | ifThen (condition : String)
  /-- Ends the block before and opens one that runs under another condition. -/
  | elseIf (condition : String)
  /-- Ends the block before and opens one that runs in all other cases. -/
  | otherwise
  /-- Ends the last block. -/
  | endIf
  deriving DecidableEq, Inhabited

/-- A statement word by word: what it does, and what it does that with. -/
def Statement.words : Statement → List String
  | declare name type => ["declare", name, type.glslName]
  | assign op target expr => ["assign", op.symbol, target, expr]
  | ifThen condition => ["if", condition]
  | elseIf condition => ["else_if", condition]
  | otherwise => ["else"]
  | endIf => ["end_if"]

/-- A place in the packed uniform block. -/
structure Uniform where
  /-- Name of the member. -/
  name : String
  /-- Type of the member. -/
  type : ValueType
  /-- Number of floats in front of it. -/
  offset : Nat
  deriving DecidableEq, Inhabited

/-- A full-screen program: statements and a packed uniform table. -/
structure Effect where
  /-- The statements of the body, in order. -/
  statements : List Statement
  /-- The uniforms, in declaration (and so in offset) order. -/
  uniforms : List Uniform
  /-- Number of floats in the uniform block. -/
  uniformLength : Nat
  deriving DecidableEq, Inhabited

namespace Effect

/-- The built-in uniform with the size of the output in pixels. -/
def resolutionName : String := "resolution"

/-- The built-in uniform with the seconds since the renderer was started. -/
def timeName : String := "time"

/-- Declares a uniform at the next free offset. -/
def uniform (e : Effect) (name : String) (type : ValueType) : Effect :=
  { e with
    uniforms := e.uniforms ++ [⟨name, type, e.uniformLength⟩]
    uniformLength := e.uniformLength + type.components }

/-- Appends a statement. -/
def statement (e : Effect) (s : Statement) : Effect :=
  { e with statements := e.statements ++ [s] }

/-- The effect that does nothing; it declares the built-in uniforms. -/
def empty : Effect :=
  ((⟨[], [], 0⟩ : Effect).uniform resolutionName .vec2).uniform timeName .float

/-- Appends a declaration. -/
def declare (e : Effect) (name : String) (type : ValueType) : Effect :=
  e.statement (.declare name type)

/-- Appends an assignment. -/
def assign (e : Effect) (op : Assignment) (target expr : String) : Effect :=
  e.statement (.assign op target expr)

/-- Appends an assignment that overwrites. -/
def set (e : Effect) (target expr : String) : Effect := e.assign .set target expr

/-- Appends an assignment that adds. -/
def add (e : Effect) (target expr : String) : Effect := e.assign .add target expr

/-- Appends an assignment that multiplies. -/
def mul (e : Effect) (target expr : String) : Effect := e.assign .mul target expr

/-- The first place of a uniform with a name. -/
def uniform? (e : Effect) (name : String) : Option Uniform :=
  e.uniforms.find? (·.name == name)

@[simp] theorem uniforms_statement (e : Effect) (s : Statement) :
    (e.statement s).uniforms = e.uniforms := rfl

@[simp] theorem uniformLength_statement (e : Effect) (s : Statement) :
    (e.statement s).uniformLength = e.uniformLength := rfl

@[simp] theorem statements_uniform (e : Effect) (name : String) (type : ValueType) :
    (e.uniform name type).statements = e.statements := rfl

@[simp] theorem uniformLength_uniform (e : Effect) (name : String) (type : ValueType) :
    (e.uniform name type).uniformLength = e.uniformLength + type.components := rfl

end Effect

end LitTiles
