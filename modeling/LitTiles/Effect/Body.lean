import LitTiles.Effect.Swizzle

/-!
# From statements to lines

An effect becomes text in a target language, one line per statement and one per uniform. All that
is known of the language comes in a `Language` value: how variables are declared, how the components
of a colour are spelled, how a channel is sampled.

Lines are indented by the blocks around them. A statement that ends a block stands at the depth of
the one that opened it, and the depth never falls below zero, whatever the sequence of statements.
-/

namespace LitTiles

/-- How `texture(channel, uv)` reaches a sampler. -/
inductive Sampling where
  /-- Every channel has a sampler of its own; calls are rewritten. -/
  | numbered (format : SampleFormat)
  /-- The language resolves the calls itself; they stay as they are. -/
  | unified

/-- What the generator has to know of a target language. -/
structure Language where
  /-- Letters of the components. -/
  swizzle : Swizzle
  /-- The declaration of a variable of the body. -/
  declareLocal : String → ValueType → String
  /-- The declaration of a member of the uniform block. -/
  declareUniform : String → ValueType → String
  /-- How channels are sampled. -/
  sampling : Sampling

namespace Language

/-- Both text passes: texture calls are bound first, then components are remapped. -/
def spell (l : Language) (expr : String) : String :=
  match l.sampling with
  | .numbered format => l.swizzle.remapText (bindTextures format expr)
  | .unified => l.swizzle.remapText expr

end Language

namespace Statement

/-- Whether the statement ends the block before it. -/
def closes : Statement → Bool
  | elseIf _ | otherwise | endIf => true
  | _ => false

/-- Whether the statement opens a block after it. -/
def opens : Statement → Bool
  | ifThen _ | elseIf _ | otherwise => true
  | _ => false

/-- The statement in a target language, without indentation. -/
def text (l : Language) : Statement → String
  | declare name type => l.declareLocal name type
  | assign op target expr => target ++ " " ++ op.symbol ++ " " ++ l.spell expr ++ ";"
  | ifThen condition => "if (" ++ l.spell condition ++ ") \x7b"
  | elseIf condition => "\x7d else if (" ++ l.spell condition ++ ") \x7b"
  | otherwise => "\x7d else \x7b"
  | endIf => "\x7d"

/-- The depth a statement stands at, from the depth before it. -/
def lineDepth (s : Statement) (depth : Nat) : Nat := if s.closes then depth - 1 else depth

/-- The depth after a statement, from the depth before it. -/
def nextDepth (s : Statement) (depth : Nat) : Nat :=
  if s.opens then s.lineDepth depth + 1 else s.lineDepth depth

end Statement

/-- A line under four spaces per block around it. -/
def indented (depth : Nat) (line : String) : String :=
  String.ofList (List.replicate (4 * depth) ' ') ++ line

/-- The lines of a list of statements that starts at a depth. -/
def bodyLines (l : Language) : Nat → List Statement → List String
  | _, [] => []
  | depth, s :: rest =>
    indented (s.lineDepth depth) (s.text l) :: bodyLines l (s.nextDepth depth) rest

/-- An effect in a target language. -/
structure Generated where
  /-- The lines of the body, in statement order. -/
  body : List String
  /-- The members of the uniform block, in offset order. -/
  uniforms : List String
  deriving DecidableEq, Inhabited

/-- Writes an effect in a target language. -/
def Effect.generate (e : Effect) (l : Language) : Generated where
  body := bodyLines l 0 e.statements
  uniforms := e.uniforms.map fun u => l.declareUniform u.name u.type

end LitTiles
