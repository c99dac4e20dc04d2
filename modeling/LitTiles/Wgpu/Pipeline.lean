import LitTiles.Backend.Call
import LitTiles.Wgpu.Surface

/-!
# Pipelines

A pipeline fixes everything about a draw but its data: the program, how vertices are read from
buffers, and how the output is blended into a target.
-/

namespace LitTiles.Wgpu

/-- Factors of the blend equation. -/
inductive BlendFactor where
  /-- Nothing. -/
  | zero
  /-- All of it. -/
  | one
  /-- The colour that is there. -/
  | destination
  /-- What the alpha of the new colour leaves. -/
  | oneMinusSourceAlpha
  deriving DecidableEq, Inhabited

/-- The name of a factor. -/
def BlendFactor.label : BlendFactor → String
  | zero => "Zero"
  | one => "One"
  | destination => "Dst"
  | oneMinusSourceAlpha => "OneMinusSrcAlpha"

/-- The factors of the new colour and of the one that is there; the two products are added. Alpha
is blended like the other channels. -/
def blendFactors : BlendMode → BlendFactor × BlendFactor
  | .replace => (.one, .zero)
  | .alpha => (.one, .oneMinusSourceAlpha)
  | .additive => (.one, .one)
  | .multiply => (.destination, .zero)

/-- An attribute of a vertex: two or four floats. -/
structure VertexAttribute where
  /-- Whether it has four floats. -/
  wide : Bool
  /-- Where it starts within a vertex, in bytes. -/
  offset : Nat
  /-- Where the program finds it. -/
  location : Nat
  deriving DecidableEq, Inhabited

/-- How one buffer is read. -/
structure VertexBuffer where
  /-- Bytes from one item to the next. -/
  stride : Nat
  /-- Whether there is one item per instance. -/
  perInstance : Bool
  /-- What is read. -/
  attributes : List VertexAttribute
  deriving DecidableEq, Inhabited

/-- What a pipeline reads. -/
inductive VertexInput where
  /-- The unit square, and sprites. -/
  | sprite
  /-- The unit square, and lights. -/
  | light
  /-- Corners of triangles. -/
  | shadow
  /-- Nothing: the program makes a triangle that covers the target. -/
  | fullscreen
  deriving DecidableEq, Inhabited

namespace VertexInput

/-- The corners of the unit square. -/
def square : VertexBuffer := ⟨8, false, [⟨false, 0, 0⟩]⟩

/-- Instances of sprites. -/
def sprites : VertexBuffer where
  stride := SpriteInstance.stride
  perInstance := true
  attributes :=
    [⟨false, 0, 1⟩, ⟨false, 8, 2⟩, ⟨false, 16, 3⟩, ⟨false, 24, 4⟩, ⟨true, 32, 5⟩, ⟨true, 48, 6⟩]

/-- Instances of lights. There is a gap in front of the colour. -/
def lights : VertexBuffer where
  stride := LightInstance.stride
  perInstance := true
  attributes := [⟨false, 0, 1⟩, ⟨false, 8, 2⟩, ⟨false, 16, 3⟩, ⟨true, 32, 4⟩]

/-- The buffers of an input, by slot. -/
def buffers : VertexInput → List VertexBuffer
  | sprite => [square, sprites]
  | light => [square, lights]
  | shadow => [square]
  | fullscreen => []

end VertexInput

end LitTiles.Wgpu
