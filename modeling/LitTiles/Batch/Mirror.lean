import LitTiles.Backend.Script

/-!
# Mirrors of layers

A mirror is the renderer's copy of a layer: an instance buffer of fixed capacity, the draw calls of
what was last written to it, and the book-keeping that decides when it is written again. Sprites
past the capacity are dropped; the first time this happens to a mirror is worth a warning.

A static mirror is written once, and again after every invalidation. A dynamic one is also written
whenever the revision of its layer is not the one that was uploaded last (`Mirror.isStale`).
-/

namespace LitTiles

/-- The backend's side of one layer. -/
structure Mirror where
  /-- The layer it belongs to. -/
  id : LayerId
  /-- Stacking key of the layer. -/
  z : ZIndex
  /-- Upload policy. -/
  kind : LayerKind
  /-- The instance buffer. -/
  buffer : BufferId
  /-- Number of instances the buffer was made for. -/
  capacity : Nat
  /-- The runs of the instances last written. -/
  drawCalls : List DrawCall := []
  /-- Collections left before eviction if the scene stops referring to the layer. -/
  lifetime : Nat
  /-- An upload is due whatever the revision. -/
  needsUpdate : Bool := true
  /-- The revision last uploaded. -/
  uploaded : Option UInt64 := none
  /-- Whether dropped sprites have been reported. -/
  warned : Bool := false
  deriving Inhabited

namespace Mirror

/-- The mirror of a layer that has not been uploaded yet. -/
def ofLayer (source : Layer) (buffer : BufferId) (capacity lifetime : Nat) : Mirror where
  id := source.id
  z := source.z
  kind := source.kind
  buffer := buffer
  capacity := capacity
  lifetime := lifetime

/-- Whether the layer has to be uploaded again. -/
def isStale (m : Mirror) (source : Layer) : Bool :=
  m.needsUpdate || (m.kind == .dynamic && m.uploaded != some source.revision)

/-- The sprites of a layer that fit into the buffer. -/
def kept (m : Mirror) (source : Layer) : List Sprite := source.sprites.take m.capacity

/-- The mirror after its buffer was written. -/
def written (m : Mirror) (source : Layer) : Mirror :=
  { m with
    drawCalls := DrawCall.ofSprites (m.kept source)
    z := source.z
    uploaded := some source.revision
    needsUpdate := false }

/-- Reports the sprites of a layer that do not fit, once for each mirror. -/
def warn (source : Layer) : Action Mirror Unit := do
  let m ← get
  if m.capacity < source.sprites.length ∧ ¬ m.warned then
    Action.say .warn .mirror ("layer " ++ m.id.describe ++ " holds " ++
      toString source.sprites.length ++ " sprites; only the first " ++ toString m.capacity ++
      " are drawn")
    set { m with warned := true }

/-- Writes the sprites of a layer to the buffer and notes what was written. After a failed write
the mirror is as it was, but a warning is not repeated. -/
def upload (source : Layer) : Action Mirror Unit := do
  warn source
  let m ← get
  Action.issue (.writeInstances m.buffer ((m.kept source).map .ofSprite))
  modify (·.written source)
  Action.say .trace .mirror ("uploaded layer " ++ m.id.describe ++ ": " ++
    toString (m.kept source).length ++ " instances, " ++
    toString (DrawCall.ofSprites (m.kept source)).length ++ " draw calls")

end Mirror

end LitTiles
