import LitTiles.Backend.Call

/-!
# Offscreen targets

A frame uses a fixed set of offscreen targets. Each has a size relative to the surface; the three of
the lighting chain have half its resolution.
-/

namespace LitTiles

/-- The offscreen targets of a frame. -/
inductive OffscreenSlot where
  /-- The lit composite with the unlit layers on top; what the passes start from. -/
  | primary
  /-- Layers at or below the shadow cutoff, before lighting. -/
  | scene
  /-- All light, added up. -/
  | lightmap
  /-- One light with its shadows. -/
  | lightTemp
  /-- One light, blurred along the first axis. -/
  | blurTemp
  /-- The mask colours of all sprites. -/
  | mask
  /-- Free for passes. -/
  | post0
  /-- Free for passes. -/
  | post1
  deriving DecidableEq, Inhabited

namespace OffscreenSlot

/-- All slots, in index order. -/
def all : List OffscreenSlot :=
  [primary, scene, lightmap, lightTemp, blurTemp, mask, post0, post1]

/-- The index by which backends and passes refer to a slot. -/
def index : OffscreenSlot → Nat
  | primary => 0
  | scene => 1
  | lightmap => 2
  | lightTemp => 3
  | blurTemp => 4
  | mask => 5
  | post0 => 6
  | post1 => 7

/-- The slot as a target. -/
def target (s : OffscreenSlot) : Target := .offscreen s.index

/-- Size relative to the surface. -/
def scale : OffscreenSlot → Scalar
  | lightmap | lightTemp | blurTemp => 0.5
  | _ => 1

/-- The name of a slot. -/
def label : OffscreenSlot → String
  | primary => "Primary"
  | scene => "Scene"
  | lightmap => "Lightmap"
  | lightTemp => "LightTemp"
  | blurTemp => "BlurTemp"
  | mask => "Mask"
  | post0 => "Post0"
  | post1 => "Post1"

/-- Number of slots. -/
def count : Nat := 8

@[simp] theorem length_all : all.length = count := rfl

theorem index_lt (s : OffscreenSlot) : s.index < count := by cases s <;> decide

end OffscreenSlot

/-- The sizes of all slots for a surface, in index order. -/
def slotSizes (surface : SurfaceSize) : List SurfaceSize :=
  OffscreenSlot.all.map fun s => surface.scaled s.scale

@[simp] theorem length_slotSizes (surface : SurfaceSize) :
    (slotSizes surface).length = OffscreenSlot.count := rfl

end LitTiles
