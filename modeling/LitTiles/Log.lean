/-!
# Log records

Everything the renderer reports goes out as records: a severity, the part that speaks, and a text.
Records are always produced; whoever shows them decides which ones pass (`Severity.passes`).
-/

namespace LitTiles

/-- How important a record is. -/
inductive Severity where
  /-- Something failed. -/
  | error
  /-- Something was given up or cut short. -/
  | warn
  /-- A milestone. -/
  | info
  /-- A step of interest to the developer. -/
  | debug
  /-- Every detail. -/
  | trace
  deriving DecidableEq, Inhabited

namespace Severity

/-- Verbosity: records of a low rank are shown first. -/
def rank : Severity → Nat
  | error => 1
  | warn => 2
  | info => 3
  | debug => 4
  | trace => 5

/-- Whether a record passes under a most verbose severity; none at all passes under `none`. -/
def passes (s : Severity) (most : Option Severity) : Bool :=
  match most with
  | none => false
  | some m => s.rank ≤ m.rank

/-- The name of a severity in capital letters. -/
def label : Severity → String
  | error => "ERROR"
  | warn => "WARN"
  | info => "INFO"
  | debug => "DEBUG"
  | trace => "TRACE"

end Severity

/-- The parts that write records. -/
inductive Speaker where
  /-- Connecting to a backend. -/
  | connection
  /-- The adapter for GL contexts. -/
  | gl
  /-- The adapter for wgpu devices. -/
  | wgpu
  /-- Buffers of the adapter for wgpu devices. -/
  | wgpuArena
  /-- Opening a device for a window. -/
  | device
  /-- Mirrors of layers. -/
  | mirror
  /-- The table of mirrors. -/
  | mirrorTable
  /-- The registry of effects. -/
  | registry
  /-- Packing of uniforms. -/
  | uniforms
  /-- The lighting chain. -/
  | lighting
  /-- The frame. -/
  | renderer
  /-- Drawing on behalf of an application. -/
  | drawing
  /-- The loop over window events. -/
  | windowLoop
  /-- Setting up the log itself. -/
  | logging
  /-- The demonstration program. -/
  | demo
  /-- Whatever else writes records, by name. -/
  | other (target : String)
  deriving DecidableEq, Inhabited

/-- The name under which a part is filtered and shown. -/
def Speaker.target : Speaker → String
  | connection => "tessera_engine::backend"
  | gl => "tessera_engine::backend::gl"
  | wgpu => "tessera_engine::backend::webgpu"
  | wgpuArena => "tessera_engine::backend::webgpu::arena"
  | device => "tessera_engine::device::context"
  | mirror => "tessera_engine::batch::layer"
  | mirrorTable => "tessera_engine::batch::table"
  | registry => "tessera_engine::graph::registry"
  | uniforms => "tessera_engine::graph::uniforms"
  | lighting => "tessera_engine::lighting"
  | renderer => "tessera_engine::renderer"
  | drawing => "tessera_engine::core::ctx"
  | windowLoop => "tessera_engine::window::runtime"
  | logging => "tessera_engine::logging::init"
  | demo => "tessera_demo"
  | other target => target

/-- One message of the log. -/
structure Record where
  /-- How important it is. -/
  severity : Severity
  /-- Who wrote it. -/
  speaker : Speaker
  /-- What it says. -/
  text : String
  deriving DecidableEq, Inhabited

end LitTiles
