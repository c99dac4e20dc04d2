import LitTiles.Wgpu.Adapter

/-!
# A window with a device

A session is an adapter for one window together with the platform it works on. It is the backend of
the wgpu interface, from connecting to closing.
-/

namespace LitTiles.Wgpu

/-- An adapter for a window, on a platform. -/
structure Session where
  /-- The objects of the adapter. -/
  adapter : Adapter
  /-- The window. -/
  window : WindowId
  /-- The platform. -/
  platform : Platform
  deriving Inhabited

namespace Session

/-- Makes an adapter for a window. After a failure the platform is left as it then is. -/
def start (size : SurfaceSize) (o : DeviceOptions) (window : WindowId) (p : Platform) :
    Except (RenderError × Platform) Session :=
  match (Adapter.connect size o).run.run p with
  | (.ok a, p) => .ok ⟨a, window, p⟩
  | (.error e, p) => .error (e, p)

/-- Connects an interface to a window; only devices present to one. -/
def connect (interface : Interface) (size : SurfaceSize) (o : DeviceOptions) (window : WindowId)
    (p : Platform) : Except (RenderError × Platform) Session :=
  match interface with
  | .wgpu => do
    let s ← start size o window p
    let text := "connected " ++ interface.describe ++ " backend"
    return { s with platform := s.platform.add (.record ⟨.info, .connection, text⟩) }
  | _ => .error (.unsupported interface "cannot run on a window", p)

/-- Runs a computation. -/
def run {α : Type} (m : AdapterM α) (s : Session) : Except RenderError α × Session :=
  let ((r, adapter), platform) := (m.run.run s.adapter).run s.platform
  (r, { s with adapter := adapter, platform := platform })

/-- Answers a call. -/
def perform (c : Call) (s : Session) : c.Outcome × Session :=
  match c with
  | .createBuffer capacity => s.run (Adapter.createBuffer capacity)
  | .freeBuffer id => ((), (s.run (Adapter.freeBuffer id)).2)
  | .issue command => s.run (Adapter.execute command)

/-- Takes a notice: the window system is told about frames. -/
def notice (n : Notice) (s : Session) : Session :=
  let h := match n with
    | .record r => Happening.record r
    | .presenting => .window (.aboutToPresent s.window)
  { s with platform := s.platform.add h }

/-- The adapter as a backend. -/
def backend : Backend Session where
  perform := perform
  notice := notice

/-- Drops every object; what is left is the platform. -/
def close (s : Session) : Platform := s.platform.addAll s.adapter.dispose

end Session

end LitTiles.Wgpu
