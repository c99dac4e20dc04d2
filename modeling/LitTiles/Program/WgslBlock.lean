import LitTiles.Device.Alignment
import LitTiles.Effect.Packing

/-!
# The uniform block of a WGSL program

Packed uniforms follow each other without gaps. The members of a WGSL structure do not: a pair of
floats starts at an even place, three and four floats start at a multiple of four, and the block as
a whole is a multiple of four floats. `BlockLayout.repack` spreads a packed block out; the gaps are
zero, and so is what the packed block lacks.
-/

namespace LitTiles

/-- Alignment of a member in a WGSL structure, in floats. -/
def ValueType.blockAlignment : ValueType → Nat
  | .float => 1
  | .vec2 => 2
  | .vec3 | .vec4 => 4

/-- Where a uniform goes. -/
structure BlockMember where
  /-- Its first float in the packed block. -/
  source : Nat
  /-- Its first float in the structure. -/
  start : Nat
  /-- Its number of floats. -/
  length : Nat
  deriving DecidableEq, Inhabited

/-- Where all uniforms of a program go. -/
structure BlockLayout where
  /-- The members, in the order of the table. -/
  members : List BlockMember
  /-- Number of floats of the block. -/
  length : Nat
  deriving DecidableEq, Inhabited

namespace BlockLayout

/-- Places uniforms one after the other from a float on; also answers the float after the last. -/
def place (cursor : Nat) : List Uniform → List BlockMember × Nat
  | [] => ([], cursor)
  | u :: us =>
    let start := roundUp cursor u.type.blockAlignment
    let rest := place (start + u.type.components) us
    (⟨u.offset, start, u.type.components⟩ :: rest.1, rest.2)

/-- The layout of a table. A block is never empty. -/
def ofUniforms (us : List Uniform) : BlockLayout :=
  let placed := place 0 us
  ⟨placed.1, roundUp (max placed.2 1) 4⟩

/-- Number of bytes of the block. -/
def byteLength (l : BlockLayout) : Nat := l.length * 4

/-- Spreads a packed block out. -/
def repack (l : BlockLayout) (packed : List Scalar) : List Scalar :=
  l.members.foldl
    (fun block m => overwrite block m.start (fitted m.length (packed.drop m.source)))
    (List.replicate l.length 0)

end BlockLayout

end LitTiles
