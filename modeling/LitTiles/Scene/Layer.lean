import LitTiles.Color
import LitTiles.Geometry.Vec2

/-!
# Sprites and layers

A layer is an ordered run of sprites that share a stacking key and an upload policy. Its identity is
chosen by the caller and stays the same from frame to frame; its *revision* moves with every edit
made through this module, so that the renderer can tell an edited layer from one it has already
uploaded.

Sprites should be grouped by texture: each change of texture along the list costs one draw call.
-/

namespace LitTiles

/-- Identity of a layer across frames, chosen by the caller. -/
structure LayerId where
  /-- The caller's number. -/
  val : Nat
  deriving DecidableEq, Inhabited

/-- The way a layer is named in log messages. -/
def LayerId.describe (id : LayerId) : String := "LayerId(" ++ toString id.val ++ ")"

/-- Stacking key of a layer; larger values draw later. -/
structure ZIndex where
  /-- The key. -/
  val : Int
  deriving DecidableEq, Inhabited

namespace ZIndex

/-- Layers at or below the cutoff receive lighting, the others are drawn unlit on top. -/
def isLitBelow (z cutoff : ZIndex) : Bool := decide (z.val ≤ cutoff.val)

end ZIndex

/-- When the instances of a layer are uploaded. -/
inductive LayerKind where
  /-- Once, when the layer is first seen; later edits wait for an explicit invalidation. -/
  | static
  /-- Whenever the layer was edited since the last upload. -/
  | dynamic
  deriving DecidableEq, Inhabited

/-- The way an upload policy is named in log messages. -/
def LayerKind.describe : LayerKind → String
  | static => "Static"
  | dynamic => "Dynamic"

/-- One textured quad. -/
structure Sprite where
  /-- Name of the atlas it is cut from. -/
  texture : String
  /-- Top-left corner in the world. -/
  position : Vec2
  /-- Extent in the world. -/
  size : Vec2
  /-- Top-left corner in the atlas, in normalized coordinates. -/
  uvMin : Vec2 := ⟨0, 0⟩
  /-- Bottom-right corner in the atlas, in normalized coordinates. -/
  uvMax : Vec2 := ⟨1, 1⟩
  /-- Multiplied with every texel. -/
  tint : Color := Color.white
  /-- Flat colour written to the mask wherever the texel is not transparent. -/
  mask : Color := Color.transparent
  deriving Inhabited

/-- An ordered run of sprites with one stacking key and one upload policy. -/
structure Layer where
  /-- Identity across frames. -/
  id : LayerId
  /-- Stacking key. -/
  z : ZIndex
  /-- Upload policy. -/
  kind : LayerKind
  /-- The sprites, in drawing order. -/
  sprites : List Sprite := []
  /-- Moves with every edit, modulo 2 ^ 64. -/
  revision : UInt64 := 0
  deriving Inhabited

namespace Layer

/-- Marks the layer as edited. -/
def touch (l : Layer) : Layer := { l with revision := l.revision + 1 }

/-- One edit of the sprite list. -/
def edit (l : Layer) (f : List Sprite → List Sprite) : Layer :=
  { l.touch with sprites := f l.sprites }

/-- Appends a sprite. -/
def push (l : Layer) (s : Sprite) : Layer := l.edit (· ++ [s])

/-- Appends several sprites, each by an edit of its own. -/
def pushAll (l : Layer) (ss : List Sprite) : Layer :=
  { l with sprites := l.sprites ++ ss, revision := l.revision + UInt64.ofNat ss.length }

/-- Drops the last sprite. This is an edit even when there is none. -/
def pop (l : Layer) : Layer := l.edit List.dropLast

@[simp] theorem pushAll_nil (l : Layer) : l.pushAll [] = l := by
  simp [pushAll]

/-- Appending several sprites is appending them one by one. -/
theorem pushAll_cons (l : Layer) (s : Sprite) (ss : List Sprite) :
    l.pushAll (s :: ss) = (l.push s).pushAll ss := by
  simp only [pushAll, push, edit, touch, List.append_assoc, List.singleton_append,
    List.length_cons, UInt64.ofNat_add, UInt64.add_assoc]
  congr 2
  exact UInt64.add_comm _ _

end Layer

end LitTiles
