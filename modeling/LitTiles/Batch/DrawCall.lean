import LitTiles.Scene.Layer

/-!
# Draw calls

The sprites of a layer are drawn in runs: each maximal run of neighbours with one texture is one
draw call. Nothing is reordered, so a caller that interleaves textures gets one call per change.
-/

namespace LitTiles

/-- A run of instances with one texture inside an instance buffer. -/
structure DrawCall where
  /-- The texture of all instances of the run. -/
  texture : String
  /-- The first instance. -/
  offset : UInt32
  /-- The number of instances. -/
  count : UInt32
  deriving DecidableEq, Inhabited

namespace DrawCall

/-- Puts a sprite of a texture, at a position, in front of the runs that follow it. -/
def prepend (texture : String) (position : Nat) : List DrawCall → List DrawCall
  | [] => [⟨texture, UInt32.ofNat position, 1⟩]
  | run :: rest =>
    if run.texture = texture then
      ⟨texture, UInt32.ofNat position, run.count + 1⟩ :: rest
    else ⟨texture, UInt32.ofNat position, 1⟩ :: run :: rest

/-- The runs of a sequence of textures whose first element has a position. -/
def runsFrom (position : Nat) : List String → List DrawCall
  | [] => []
  | t :: ts => prepend t position (runsFrom (position + 1) ts)

/-- The draw calls of a list of sprites. -/
def ofSprites (sprites : List Sprite) : List DrawCall := runsFrom 0 (sprites.map (·.texture))

/-- The textures that a list of draw calls stands for, instance by instance. -/
def expand (calls : List DrawCall) : List String :=
  calls.flatMap fun c => List.replicate c.count.toNat c.texture

@[simp] theorem ofSprites_nil : ofSprites [] = [] := rfl

end DrawCall

end LitTiles
