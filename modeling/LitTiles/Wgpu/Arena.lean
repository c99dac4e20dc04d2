import LitTiles.Device.Alignment

/-!
# Arenas

What is written to a buffer takes effect when the frame is submitted, so within a frame every pass
needs a place of its own. An arena hands out places in a buffer one after the other, each aligned;
a request that does not fit moves to a new buffer of at least twice the size, and starts there at
zero. With a new frame all places are free again.

This module is the book-keeping; the buffers are made by the adapter.
-/

namespace LitTiles.Wgpu

/-- Where a request goes. -/
inductive Placement where
  /-- Into the buffer, at an offset. -/
  | within (offset : Nat)
  /-- Into a new buffer, of a size. -/
  | beyond (capacity : Nat)
  deriving DecidableEq, Inhabited

/-- Where some bytes go, from a cursor on. -/
def place (cursor length alignment capacity : Nat) : Placement :=
  let offset := roundUp cursor alignment
  if offset + length ≤ capacity then .within offset
  else .beyond (max (capacity * 2) (roundUp length alignment))

/-- Writes to buffers start and end at multiples of this. -/
def copyAlignment : Nat := 4

/-- The state of an arena. -/
structure Arena where
  /-- Alignment of places. -/
  alignment : Nat
  /-- Size of the current buffer. -/
  capacity : Nat
  /-- The first free byte. -/
  cursor : Nat
  deriving DecidableEq, Inhabited

namespace Arena

/-- An arena of at least a size. -/
def make (capacity alignment : Nat) : Arena :=
  let alignment := max alignment copyAlignment
  ⟨alignment, roundUp capacity alignment, 0⟩

/-- Frees all places. -/
def reset (a : Arena) : Arena := { a with cursor := 0 }

/-- Hands out a place: its offset, the size of the new buffer if one is needed, and the arena
after. -/
def push (a : Arena) (bytes : Nat) : Nat × Option Nat × Arena :=
  let length := roundUp bytes copyAlignment
  match place a.cursor length a.alignment a.capacity with
  | .within offset => (offset, none, { a with cursor := offset + length })
  | .beyond capacity => (0, some capacity, { a with capacity := capacity, cursor := length })

end Arena

end LitTiles.Wgpu
