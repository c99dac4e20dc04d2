import LitTiles.Effect.Body

/-!
# Program text

A complete program is a pair of GLSL stages or one WGSL module. Both are built from lines; every
line ends with a line feed.
-/

namespace LitTiles

/-- The text of a program as a backend compiles it. -/
inductive ProgramSource where
  /-- A vertex and a fragment stage. -/
  | glsl (vertex fragment : String)
  /-- One module with the entry points `vs_main` and `fs_main`. -/
  | wgsl (module : String)
  deriving DecidableEq, Inhabited

/-- Joins lines, ending each with a line feed. -/
def unlines (ls : List String) : String := String.join (ls.map (· ++ "\n"))

/-- Lines moved one level to the right. -/
def nested (ls : List String) : List String := ls.map ("    " ++ ·)

/-- What the sprite program writes. -/
inductive SpriteMode where
  /-- The texel times the sprite's tint. -/
  | color
  /-- The sprite's mask colour wherever the texel is not transparent. -/
  | mask
  deriving DecidableEq, Inhabited

/-- The output of the sprite program, from the names of the tint and the mask. -/
def SpriteMode.output (tint mask : String) : SpriteMode → String
  | color => "texel * " ++ tint
  | .mask => mask ++ " * texel.a"

end LitTiles
