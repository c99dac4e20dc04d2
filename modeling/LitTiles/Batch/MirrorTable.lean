import LitTiles.Batch.Mirror

/-!
# The table of mirrors

Mirrors live in slots, and a key of a layer is the index of its slot together with the slot's
generation. A vacated slot is used again; its generation moves on, so that a key from before leads
nowhere.

* `sync` brings the table in line with the layers of a scene: it makes missing mirrors, replaces
  mirrors whose upload policy changed, and uploads stale ones. It may stop at any failing call.
* `collect` ages the mirrors that no `sync` has reached since the last collection, and evicts those
  whose time is up.
* `clear` gives every buffer back.
-/

namespace LitTiles

/-- Ceilings and the delay of eviction. -/
structure MirrorLimits where
  /-- Instances of a static mirror. -/
  staticCapacity : Nat
  /-- Instances of a dynamic mirror. -/
  dynamicCapacity : Nat
  /-- Consecutive collections without a reference before a mirror is evicted. -/
  lifetime : Nat
  deriving DecidableEq, Inhabited

/-- The ceiling for an upload policy. -/
def MirrorLimits.capacity (l : MirrorLimits) : LayerKind → Nat
  | .static => l.staticCapacity
  | .dynamic => l.dynamicCapacity

/-- Where the mirror of a layer is kept. -/
structure SlotKey where
  /-- Index of the slot. -/
  index : Nat
  /-- Generation of the slot when the key was made. -/
  generation : UInt32
  deriving DecidableEq, Inhabited

/-- A place for one mirror. -/
structure Slot where
  /-- Moves on, modulo 2 ^ 32, whenever the slot is vacated. -/
  generation : UInt32 := 0
  /-- The mirror kept here. -/
  mirror : Option Mirror := none
  /-- Whether a `sync` has reached the mirror since the last collection. -/
  touched : Bool := false
  deriving Inhabited

namespace Slot

/-- The slot without its mirror. -/
def vacated (s : Slot) : Slot := ⟨s.generation + 1, none, false⟩

/-- The slot with a new mirror. -/
def occupied (s : Slot) (m : Mirror) : Slot := ⟨s.generation, some m, false⟩

end Slot

/-- Mirrors by layer identity. -/
structure MirrorTable where
  /-- Ceilings and the delay of eviction. -/
  limits : MirrorLimits
  /-- All slots ever made. -/
  slots : List Slot := []
  /-- Vacant slots, the one vacated last in front. -/
  free : List Nat := []
  /-- The key of every mirrored layer. -/
  keys : List (LayerId × SlotKey) := []
  deriving Inhabited

namespace MirrorTable

/-- Number of mirrored layers. -/
def size (t : MirrorTable) : Nat := t.keys.length

/-- The key of a layer. -/
def key? (t : MirrorTable) (id : LayerId) : Option SlotKey := t.keys.lookup id

/-- The slot a key leads to, if it is still of the key's generation. -/
def slot? (t : MirrorTable) (k : SlotKey) : Option Slot :=
  t.slots[k.index]?.filter (·.generation == k.generation)

/-- The mirror of a layer. -/
def get? (t : MirrorTable) (id : LayerId) : Option Mirror :=
  (t.key? id).bind fun k => (t.slot? k).bind (·.mirror)

/-- The index of the slot with the mirror of a layer, and the mirror. -/
def find? (t : MirrorTable) (id : LayerId) : Option (Nat × Mirror) :=
  (t.key? id).bind fun k => (t.slot? k).bind fun s => s.mirror.map fun m => (k.index, m)

/-- Changes one slot. -/
def modifySlot (t : MirrorTable) (index : Nat) (f : Slot → Slot) : MirrorTable :=
  { t with slots := t.slots.modify index f }

/-- Puts a mirror back into its slot. -/
def putMirror (t : MirrorTable) (index : Nat) (m : Mirror) : MirrorTable :=
  t.modifySlot index fun s => { s with mirror := some m }

/-- Removes the key of a layer. -/
def eraseKey (t : MirrorTable) (id : LayerId) : MirrorTable :=
  { t with keys := t.keys.filter (·.1 != id) }

/-- Gives a layer a key, in place of one it may have. -/
def insertKey (t : MirrorTable) (id : LayerId) (k : SlotKey) : MirrorTable :=
  { t with keys := (id, k) :: t.keys.filter (·.1 != id) }

/-- Empties a slot and puts it on the free list. -/
def vacate (t : MirrorTable) (index : Nat) : MirrorTable :=
  { t.modifySlot index Slot.vacated with free := index :: t.free }

/-- Puts a new mirror into a vacant slot, or into a fresh one if there is none. -/
def occupy (t : MirrorTable) (m : Mirror) : MirrorTable :=
  match t.free with
  | i :: rest =>
    let generation := (t.slots[i]?.map (·.generation)).getD 0
    ({ t.modifySlot i (·.occupied m) with free := rest }).insertKey m.id ⟨i, generation⟩
  | [] =>
    ({ t with slots := t.slots ++ [Slot.occupied {} m] }).insertKey m.id ⟨t.slots.length, 0⟩

/-- Forces the next `sync` to upload a layer again. A layer without a mirror is ignored. -/
def invalidate (t : MirrorTable) (id : LayerId) : MirrorTable :=
  match t.find? id with
  | some (i, m) => t.putMirror i { m with needsUpdate := true }
  | none => t

/-- Marks a mirror as referred to by a layer of the scene. -/
def refresh (t : MirrorTable) (index : Nat) (m : Mirror) (source : Layer) : MirrorTable :=
  t.modifySlot index fun s =>
    { s with
      touched := true
      mirror := some { m with lifetime := t.limits.lifetime, z := source.z } }

/-- Drops the mirror of a layer and gives its buffer back. -/
def remove (id : LayerId) : Action MirrorTable Unit := do
  match (← get).find? id with
  | none => modify (·.eraseKey id)
  | some (i, m) =>
    modify (·.eraseKey id)
    Action.freeBuffer m.buffer
    modify (·.vacate i)

/-- Makes a mirror for a layer. -/
def create (source : Layer) : Action MirrorTable Unit := do
  let limits := (← get).limits
  let capacity := limits.capacity source.kind
  let buffer ← Action.createBuffer capacity
  modify (·.occupy (.ofLayer source buffer capacity limits.lifetime))
  Action.say .debug .mirrorTable ("created " ++ source.kind.describe ++ " layer " ++
    source.id.describe ++ " (capacity " ++ toString capacity ++ ")")

/-- An action on the mirror in a slot. -/
def onMirror (index : Nat) (m : Mirror) (a : Action Mirror Unit) : Action MirrorTable Unit :=
  Action.within (fun _ => m) (fun m t => t.putMirror index m) a

/-- Uploads a layer if its mirror is stale. -/
def update (source : Layer) : Action MirrorTable Unit := do
  match (← get).find? source.id with
  | none => pure ()
  | some (i, m) => if m.isStale source then onMirror i m (Mirror.upload source)

/-- Drops the mirror of a layer whose upload policy is another one by now. -/
def dropOther (source : Layer) : Action MirrorTable Unit := do
  match (← get).get? source.id with
  | none => pure ()
  | some m =>
    if m.kind ≠ source.kind then
      Action.say .debug .mirrorTable ("layer " ++ source.id.describe ++ " changed kind to " ++
        source.kind.describe)
      remove source.id

/-- Makes a mirror for a layer that has none. -/
def ensure (source : Layer) : Action MirrorTable Unit := do
  if ((← get).get? source.id).isNone then create source

/-- Marks the mirror of a layer as referred to. -/
def touch (source : Layer) : Action MirrorTable Unit :=
  modify fun t =>
    match t.find? source.id with
    | none => t
    | some (i, m) => t.refresh i m source

/-- Brings the mirror of one layer in line with it. -/
def syncLayer (source : Layer) : Action MirrorTable Unit := do
  dropOther source
  ensure source
  touch source
  update source

/-- Brings the table in line with the layers of a scene, in order. -/
def sync (layers : List Layer) : Action MirrorTable Unit := layers.forM syncLayer

/-- Ages the mirror in a slot unless it was referred to, and evicts it when its time is up. -/
def collectSlot (index : Nat) : Action MirrorTable Unit := do
  match (← get).slots[index]? with
  | none => pure ()
  | some slot =>
    modify (·.modifySlot index fun s => { s with touched := false })
    match slot.mirror with
    | none => pure ()
    | some m =>
      unless slot.touched do
        if 0 < m.lifetime - 1 then
          modify (·.putMirror index { m with lifetime := m.lifetime - 1 })
        else
          Action.freeBuffer m.buffer
          modify fun t => (t.eraseKey m.id).vacate index
          Action.say .debug .mirrorTable ("evicted layer " ++ m.id.describe)

/-- Ages all mirrors that were not referred to since the last collection. -/
def collect : Action MirrorTable Unit := do
  (List.range (← get).slots.length).forM collectSlot

/-- Gives the buffer in a slot back. -/
def clearSlot (index : Nat) : Action MirrorTable Unit := do
  match (← get).slots[index]?.bind (·.mirror) with
  | none => pure ()
  | some m =>
    Action.freeBuffer m.buffer
    modify (·.vacate index)

/-- Gives every buffer back. -/
def clear : Action MirrorTable Unit := do
  (List.range (← get).slots.length).forM clearSlot
  modify fun t => { t with keys := [] }

end MirrorTable

end LitTiles
