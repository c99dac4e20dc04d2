import LitTiles.Demo.Atlas

/-!
# The room of the demonstration

A static floor, crates that bob and cast shadows, two wandering lights and an unlit overlay.
-/

namespace LitTiles

/-- The state of the demonstration. -/
structure Demo where
  /-- What is shown. -/
  scene : Scene
  /-- How it is shown. -/
  camera : Camera := {}
  /-- Seconds of animation so far. -/
  time : Scalar := 0
  deriving Inhabited

namespace Demo

/-- Edge of a tile in the world. -/
def tileSize : Scalar := 32

/-- Tiles per row of the floor. -/
def columns : Nat := 40

/-- Rows of the floor. -/
def rows : Nat := 24

/-- The layer of the crates. -/
def cratesId : LayerId := ⟨2⟩

/-- The tile at a place of the floor. -/
def floorTile (row col : Nat) : Tile := if (row * 3 + col * 5) % 11 = 0 then .stone else .floor

/-- The floor. -/
def floorLayer : Layer :=
  Layer.pushAll { id := ⟨1⟩, z := ⟨-1⟩, kind := .static } <|
    (List.range rows).flatMap fun row => (List.range columns).map fun col =>
      (floorTile row col).sprite
        ⟨Scalar.ofNat col * tileSize, Scalar.ofNat row * tileSize⟩ tileSize

/-- Where the crates stand. -/
def cratePlaces : List Vec2 :=
  (List.range 12).map fun i =>
    ⟨160 + Scalar.ofNat (i % 4) * 240, 128 + Scalar.ofNat (i / 4) * 192⟩

/-- The crates. -/
def crateLayer : Layer :=
  Layer.pushAll { id := cratesId, z := ⟨0⟩, kind := .dynamic } <|
    cratePlaces.map fun p => { Tile.crate.sprite p tileSize with mask := Color.white }

/-- The lamps of the overlay. -/
def overlayLayer : Layer :=
  Layer.pushAll { id := ⟨3⟩, z := ⟨10⟩, kind := .static } <|
    (List.range 3).map fun i => Tile.lamp.sprite ⟨16 + Scalar.ofNat i * 40, 16⟩ 32

/-- The two lights, before they wander. -/
def lights : List Light :=
  [{ position := Vec2.zero, radius := 260, color := ⟨1, 0.85, 0.6, 1⟩, intensity := 1.4 },
   Light.spot { position := Vec2.zero, radius := 320, color := ⟨0.5, 0.7, 1, 1⟩, intensity := 1 }
     0 0.6]

/-- The room at the start. -/
def start : Demo where
  scene :=
    { layers := [floorLayer, crateLayer, overlayLayer]
      lights := lights
      colliders := cratePlaces.map fun p => .ofRect ⟨p, ⟨tileSize, tileSize⟩⟩
      ambientColor := ⟨0.35, 0.4, 0.55, 1⟩
      ambientIntensity := 0.25 }

/-- The middle of the floor. -/
def center : Vec2 :=
  ⟨Scalar.ofNat columns * tileSize * 0.5, Scalar.ofNat rows * tileSize * 0.5⟩

/-- The lights at a time. -/
def moveLights (t : Scalar) (ls : List Light) : List Light :=
  ls.zipIdx.map fun (l, i) =>
    match i with
    | 0 => { l with position := center +
        ⟨Scalar.cosine t * 300, Scalar.sine (t * 0.7) * 180⟩ }
    | 1 => { l with
        position := center + ⟨Scalar.sine (t * 0.4) * 420, 0⟩
        direction := t * 0.9 }
    | _ => l

/-- The crates at a time, as one edit of their layer. -/
def bob (t : Scalar) (l : Layer) : Layer :=
  l.edit fun sprites => sprites.zipIdx.map fun (s, i) =>
    let base := 128 + Scalar.ofNat (i / 4) * 192
    { s with position :=
        ⟨s.position.x, base + Scalar.sine (t * 2 + Scalar.ofNat i) * 4⟩ }

/-- The room some seconds later. -/
def update (d : Demo) (dt : Scalar) : Demo :=
  let t := d.time + dt
  let scene := { d.scene with lights := moveLights t d.scene.lights }
  { d with scene := scene.modifyLayer cratesId (bob t), time := t }

end Demo

end LitTiles
