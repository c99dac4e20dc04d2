import LitTiles.Gl.Adapter

/-!
# A GL context in use

A session is an adapter together with the context it owns. It is the backend of the interfaces of
the GL family, from connecting to closing.
-/

namespace LitTiles.Gl

/-- An adapter on its context. -/
structure Session where
  /-- The objects of the adapter. -/
  adapter : Adapter
  /-- The context. -/
  context : Context
  deriving Inhabited

namespace Session

/-- Makes an adapter on a context. After a failure the context is left as it then is. -/
def start (interface : Interface) (size : SurfaceSize) (x : Context) :
    Except (RenderError × Context) Session :=
  match (Adapter.connect interface size).run x with
  | (.ok a, x) => .ok ⟨a, x⟩
  | (.error e, x) => .error (e, x)

/-- Takes a record. -/
def record (r : Record) (s : Session) : Session :=
  { s with context := { s.context with log := s.context.log.push r } }

/-- Connects an interface to a context; only interfaces of the GL family run on one. -/
def connect (interface : Interface) (size : SurfaceSize) (x : Context) :
    Except (RenderError × Context) Session :=
  match interface with
  | .wgpu => .error (.unsupported interface "cannot run on a GL context", x)
  | _ => do
    let s ← start interface size x
    return s.record ⟨.info, .connection, "connected " ++ interface.describe ++ " backend"⟩

/-- Runs a computation. -/
def run {α : Type} (m : AdapterM α) (s : Session) : Except RenderError α × Session :=
  let ((r, adapter), context) := (m.run.run s.adapter).run s.context
  (r, ⟨adapter, context⟩)

/-- Answers a call. -/
def perform (c : Call) (s : Session) : c.Outcome × Session :=
  match c with
  | .createBuffer capacity => s.run (Adapter.createBuffer capacity)
  | .freeBuffer id => ((), (s.run (Adapter.freeBuffer id)).2)
  | .issue command => s.run (Adapter.execute command)

/-- Takes a notice; whoever owns the window presents without being told. -/
def notice (n : Notice) (s : Session) : Session :=
  match n with
  | .record r => s.record r
  | .presenting => s

/-- The adapter as a backend. -/
def backend : Backend Session where
  perform := perform
  notice := notice

/-- Deletes every object; what is left is the context. -/
def close (s : Session) : Context :=
  { s.context with commands := s.context.commands ++ s.adapter.dispose.toArray }

end Session

end LitTiles.Gl
