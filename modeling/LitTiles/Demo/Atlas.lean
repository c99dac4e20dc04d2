import LitTiles.Backend.Call

/-!
# The atlas of the demonstration

Four tiles side by side, computed so that the demonstration needs no files.
-/

namespace LitTiles

namespace Demo

/-- Name of the atlas. -/
def atlasName : String := "tiles"

/-- Edge of a tile in texels. -/
def tileTexels : Nat := 16

/-- The tiles, in atlas order. -/
inductive Tile where
  /-- Wooden floor. -/
  | floor
  /-- Stone slab. -/
  | stone
  /-- Crate with a cross. -/
  | crate
  /-- Round lamp. -/
  | lamp
  deriving DecidableEq, Inhabited

namespace Tile

/-- All tiles, in atlas order. -/
def all : List Tile := [floor, stone, crate, lamp]

/-- Place of a tile in the atlas. -/
def index : Tile → Nat
  | floor => 0
  | stone => 1
  | crate => 2
  | lamp => 3

/-- The corners of a tile in normalized atlas coordinates. -/
def uv (t : Tile) : Vec2 × Vec2 :=
  let w : Scalar := 1 / 4
  let u : Scalar := Scalar.ofNat t.index * w
  (⟨u, 0⟩, ⟨u + w, 1⟩)

/-- A square sprite of a tile. -/
def sprite (t : Tile) (position : Vec2) (size : Scalar) : Sprite :=
  { texture := atlasName
    position := position
    size := ⟨size, size⟩
    uvMin := t.uv.1
    uvMax := t.uv.2 }

/-- One texel of a tile. -/
def texel (t : Tile) (x y : Nat) : List UInt8 :=
  let last := tileTexels - 1
  let edge := x == 0 || y == 0 || x == last || y == last
  let noise : UInt8 := UInt8.ofNat ((x * 7 + y * 13) % 5) * 6
  match t with
  | floor => if edge then [70, 64, 58, 255] else [110 + noise, 100 + noise, 88 + noise, 255]
  | stone => [90 + noise, 92 + noise, 100 + noise, 255]
  | crate =>
    if edge || x == y || x + y == last then [96, 60, 30, 255]
    else [150 + noise, 104 + noise, 54, 255]
  | lamp =>
    let dx := (x : Int) - 8
    let dy := (y : Int) - 8
    if dx * dx + dy * dy ≤ 30 then [255, 220, 140, 255] else [0, 0, 0, 0]

end Tile

/-- The atlas. -/
def atlas : Texture where
  name := atlasName
  width := UInt32.ofNat (tileTexels * Tile.all.length)
  height := UInt32.ofNat tileTexels
  pixels :=
    (List.range tileTexels).flatMap fun y =>
      Tile.all.flatMap fun t => (List.range tileTexels).flatMap fun x => t.texel x y

end Demo

end LitTiles
