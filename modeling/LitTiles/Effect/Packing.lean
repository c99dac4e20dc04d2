import LitTiles.Effect.Basic
import LitTiles.Geometry.Extent

/-!
# Packing uniforms

The uniform block of one invocation: the two built-in uniforms, then the overrides of the pass in
order. An override reaches the first place of its name; it is cut or padded with zeros to the
components declared there. Overrides of unknown names are skipped, and uniforms that nobody supplies
stay zero.
-/

namespace LitTiles

/-- A value for a uniform: one to four floats. -/
inductive UniformValue where
  /-- A number. -/
  | float (x : Scalar)
  /-- Two numbers. -/
  | vec2 (x y : Scalar)
  /-- Three numbers. -/
  | vec3 (x y z : Scalar)
  /-- Four numbers. -/
  | vec4 (x y z w : Scalar)
  deriving Inhabited

/-- The floats of a value, in order. -/
def UniformValue.components : UniformValue → List Scalar
  | float x => [x]
  | vec2 x y => [x, y]
  | vec3 x y z => [x, y, z]
  | vec4 x y z w => [x, y, z, w]

/-- A named value that a pass supplies. -/
structure UniformOverride where
  /-- Name of the uniform. -/
  name : String
  /-- Its value. -/
  value : UniformValue
  deriving Inhabited

/-- A list cut, or padded with zeros, to a length. -/
def fitted (n : Nat) (xs : List Scalar) : List Scalar :=
  xs.take n ++ List.replicate (n - xs.length) 0

@[simp] theorem length_fitted (n : Nat) (xs : List Scalar) : (fitted n xs).length = n := by
  simp [fitted]; omega

/-- Replaces the part of a block that starts at an offset. -/
def overwrite (block : List Scalar) (offset : Nat) (xs : List Scalar) : List Scalar :=
  block.take offset ++ xs ++ block.drop (offset + xs.length)

theorem length_overwrite {block xs : List Scalar} {offset : Nat}
    (h : offset + xs.length ≤ block.length) :
    (overwrite block offset xs).length = block.length := by
  simp [overwrite]; omega

namespace Effect

/-- Writes a value to the first place of a name; a name without a place changes nothing. -/
def write (e : Effect) (block : List Scalar) (name : String) (value : List Scalar) :
    List Scalar :=
  match e.uniform? name with
  | none => block
  | some u => overwrite block u.offset (fitted u.type.components value)

/-- The uniform block of one invocation. -/
def pack (e : Effect) (resolution : SurfaceSize) (time : Scalar)
    (overrides : List UniformOverride) : List Scalar :=
  let zeros := List.replicate e.uniformLength (0 : Scalar)
  let builtIn := e.write (e.write zeros resolutionName resolution.toList) timeName [time]
  overrides.foldl (fun block o => e.write block o.name o.value.components) builtIn

/-- The names among the overrides that an effect does not declare, in order. -/
def undeclared (e : Effect) (overrides : List UniformOverride) : List String :=
  (overrides.filter fun o => (e.uniform? o.name).isNone).map (·.name)

end Effect

end LitTiles
