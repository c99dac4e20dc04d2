import LitTiles.Effect.TextureBinding

/-!
# Remapping components

The second text pass over an expression. Effects name the components of a colour `r`, `g`, `b` and
`a`; a `Swizzle` says which letters a target language uses instead. A member access is remapped
letter by letter when its whole name consists of one to four of these letters, so `.resolution`
and `.rgb2` are left alone.
-/

namespace LitTiles

/-- The letters of a target language for the four components; a component without one keeps its
own. -/
structure Swizzle where
  /-- Letter for red. -/
  r : Option Char := none
  /-- Letter for green. -/
  g : Option Char := none
  /-- Letter for blue. -/
  b : Option Char := none
  /-- Letter for alpha. -/
  a : Option Char := none
  deriving DecidableEq, Inhabited

namespace Swizzle

/-- Nothing is remapped. -/
def empty : Swizzle := {}

/-- Every component has its own letter. -/
def identity : Swizzle := ⟨some 'r', some 'g', some 'b', some 'a'⟩

/-- The components are named like coordinates. -/
def xyzw : Swizzle := ⟨some 'x', some 'y', some 'z', some 'w'⟩

/-- Whether a character names a component. -/
def isComponent (c : Char) : Bool := c == 'r' || c == 'g' || c == 'b' || c == 'a'

/-- Gives a component a letter; other characters have no place in the map. -/
def assign (m : Swizzle) (component letter : Char) : Swizzle :=
  if component = 'r' then { m with r := some letter }
  else if component = 'g' then { m with g := some letter }
  else if component = 'b' then { m with b := some letter }
  else if component = 'a' then { m with a := some letter }
  else m

/-- The letter a component was given. -/
def letter? (m : Swizzle) (c : Char) : Option Char :=
  if c = 'r' then m.r
  else if c = 'g' then m.g
  else if c = 'b' then m.b
  else if c = 'a' then m.a
  else none

/-- The letter for a component; every other character stands for itself. -/
def apply (m : Swizzle) (c : Char) : Char := (m.letter? c).getD c

/-- Whether the name of a member is a run of one to four components. -/
def isSwizzle (member : List Char) : Bool :=
  1 ≤ member.length && member.length ≤ 4 && member.all isComponent

/-- Remaps the member accesses of a text. -/
def remap (m : Swizzle) (s : List Char) : List Char :=
  match s with
  | [] => []
  | c :: r =>
    let member := r.takeWhile isWordChar
    if c = '.' ∧ isSwizzle member = true then
      c :: (member.map m.apply ++ remap m (r.dropWhile isWordChar))
    else c :: remap m r
termination_by s.length
decreasing_by
  · exact Nat.lt_succ_of_le (length_dropWhile_le _ _)
  · simp

/-- Remaps the member accesses of an expression. -/
def remapText (m : Swizzle) (expr : String) : String := String.ofList (m.remap expr.toList)

end Swizzle

end LitTiles
