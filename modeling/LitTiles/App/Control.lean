import LitTiles.Renderer

/-!
# What an application decides

An application acts in turns. In a turn it may use a renderer and write to the log, and in the end
it says whether it wants to go on. Every error of rendering is terminal: it is reported, and the
application is told to exit.
-/

namespace LitTiles

/-- What is to be done after a turn of the application. -/
inductive Control where
  /-- Go on. -/
  | proceed
  /-- Stop. -/
  | exit
  deriving DecidableEq, Inhabited

/-- The decision after drawing. -/
def Control.afterDrawing : Except RenderError Unit → Script Control
  | .ok () => pure .proceed
  | .error e => do
    Script.say .error .drawing ("rendering stopped: " ++ e.message)
    return .exit

/-- A turn: a script that edits a state. Unlike an action it always ends with a result. -/
abbrev Turn (σ α : Type) := StateT σ Script α

namespace Turn

variable {σ τ ρ α : Type}

/-- A turn on one part of a state. -/
def within (part : σ → τ) (replace : τ → σ → σ) (t : Turn τ α) : Turn σ α := fun s => do
  let (a, p) ← t.run (part s)
  return (a, replace p s)

/-- Plays a turn on a backend: the result, the edited state and the backend's state. -/
def play (b : Backend ρ) (t : Turn σ α) (s : σ) (r : ρ) : α × σ × ρ :=
  let ((a, s), r) := (t.run s).run b r
  (a, s, r)

end Turn

end LitTiles
