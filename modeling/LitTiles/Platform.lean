import LitTiles.Answers
import LitTiles.Backend.Script
import LitTiles.Wgpu.Command
import LitTiles.Window.Event

/-!
# The platform

Devices and windows belong to a platform that several windows share. It numbers objects, answers the
few questions to which a program cannot know the answer, and keeps a history of everything that
happened: commands to devices and to the window system, turns of the application, and records of
the log, in one order.

As with contexts of the GL family the answers come from a host, by the number of times that the same
was asked before: one window may get a device when the window before it got none, and a program text
may be refused that was valid a moment ago. Only the name of the adapter and the alignment of blocks
stay what they are.
-/

namespace LitTiles

open Wgpu

/-- One entry of the history. -/
inductive Happening where
  /-- A command to a device. -/
  | device (c : Wgpu.Command)
  /-- A command to the window system. -/
  | window (c : WindowCommand)
  /-- A turn of the application. -/
  | turn (t : AppTurn)
  /-- A record of the log. -/
  | record (r : Record)

/-- What a platform is asked again and again. -/
inductive Question where
  /-- Whether a surface can be made. -/
  | surface
  /-- Whether there is an adapter. -/
  | adapter
  /-- Whether a device can be opened. -/
  | device
  /-- What a surface can do. -/
  | capabilities
  /-- Whether a program text is valid. -/
  | text
  /-- Whether a surface has a next texture. -/
  | texture
  deriving DecidableEq

/-- What devices and surfaces answer. -/
structure DeviceHost where
  /-- Why a surface cannot be made. -/
  surfaceError : Answers (Option String) := .always none
  /-- Why there is no adapter. -/
  adapterError : Answers (Option String) := .always none
  /-- Why no device can be opened. -/
  deviceError : Answers (Option String) := .always none
  /-- The name of the adapter. -/
  adapterName : String := "scripted"
  /-- What surfaces can do. -/
  capabilities : Answers SurfaceCapabilities := .always {}
  /-- Alignment of uniform blocks in a buffer. -/
  uniformAlignment : Nat := 256
  /-- Why the next surface texture cannot be acquired. -/
  acquireError : Answers (Option AcquireError) := .always none
  /-- The compiler's log for a program text that is not valid. -/
  invalidText : Answers (Option String) := .always none
  deriving Inhabited

/-- The state of a platform. -/
structure Platform where
  /-- Where answers come from. -/
  host : DeviceHost := {}
  /-- Everything that happened. -/
  history : Array Happening := #[]
  /-- How many objects of a kind were made. -/
  made : ObjectKind → Nat := fun _ => 0
  /-- How often a question was asked. -/
  asked : Question → Nat := fun _ => 0
  deriving Inhabited

namespace Platform

/-- Adds to the history. -/
def add (h : Happening) (p : Platform) : Platform := { p with history := p.history.push h }

/-- Adds commands to the history. -/
def addAll (cs : List Wgpu.Command) (p : Platform) : Platform :=
  { p with history := p.history ++ (cs.map Happening.device).toArray }

/-- Numbers a new object. -/
def fresh (k : ObjectKind) (p : Platform) : Handle k × Platform :=
  let n := p.made k + 1
  (⟨n⟩, { p with made := fun k' => if k' = k then n else p.made k' })

/-- Counts a question. -/
def count (q : Question) (p : Platform) : Platform :=
  let n := p.asked q + 1
  { p with asked := fun q' => if q' = q then n else p.asked q' }

end Platform

/-- A computation on a platform that may fail; what was done before a failure stays done. -/
abbrev PlatformM (α : Type) := ExceptT RenderError (StateM Platform) α

namespace PlatformM

/-- Gives a command to a device. -/
def give (c : Wgpu.Command) : PlatformM Unit := modify (·.add (.device c))

/-- Gives commands in order. -/
def giveAll (cs : List Wgpu.Command) : PlatformM Unit := modify (·.addAll cs)

/-- Writes a record. -/
def say (severity : Severity) (speaker : Speaker) (text : String) : PlatformM Unit :=
  modify (·.add (.record ⟨severity, speaker, text⟩))

/-- Asks a question to which the host has answers. -/
def ask {α : Type} (q : Question) (answers : DeviceHost → Answers α) : PlatformM α :=
  modifyGet fun p => (answers p.host (p.asked q), p.count q)

/-- Makes an object by a command that names it. -/
def make {k : ObjectKind} (command : Handle k → Wgpu.Command) : PlatformM (Handle k) := do
  let h ← modifyGet (Platform.fresh k)
  give (command h)
  return h

end PlatformM

end LitTiles
