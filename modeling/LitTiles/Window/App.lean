import LitTiles.App.Clock
import LitTiles.App.Control
import LitTiles.Window.Event

/-!
# Applications with windows

An application is told when a window was opened, when something happened to one, and when one has to
be drawn. While it draws it may also ask for windows to be opened or closed, or for the end; such
requests are met when its turn is over.

Time may pass during a turn, so the clock is part of what a turn can change.
-/

namespace LitTiles

/-- What a window is opened with. -/
structure WindowConfig where
  /-- Its title. -/
  title : String := "tessera"
  /-- The size asked for. -/
  size : SurfaceSize := ⟨1280, 720⟩
  /-- The interface it is drawn by. Windows can only be drawn by wgpu. -/
  interface : Interface := .wgpu
  /-- Settings of its renderer. -/
  renderer : RendererConfig := {}
  deriving Inhabited

/-- What an application may ask for while it draws. -/
inductive WindowRequest where
  /-- A new window. -/
  | openWindow (config : WindowConfig)
  /-- The end of a window. -/
  | closeWindow (window : WindowId)
  /-- The end of the program. -/
  | quit
  deriving Inhabited

/-- What an application works on in a turn. -/
structure Workspace (α : Type) where
  /-- Its own state. -/
  app : α
  /-- The renderer of the window. -/
  renderer : Renderer
  /-- When the renderer was made, in milliseconds. -/
  started : Nat
  /-- The time, in milliseconds. -/
  clock : Nat

namespace Workspace

variable {α β : Type}

/-- Seconds since the renderer was made. -/
def age (w : Workspace α) : Scalar := secondsOfMillis (w.clock - w.started)

/-- An action on the renderer; whether it failed is for the application to judge. -/
def onRenderer (a : Action Renderer β) : Turn (Workspace α) (Except RenderError β) :=
  Turn.within (·.renderer) (fun r w => { w with renderer := r }) a.run

/-- Draws a scene and presents it in the window. -/
def draw (scene : Scene) (camera : Camera) : Turn (Workspace α) Control := do
  Script.announceFrame
  Control.afterDrawing (← onRenderer (Renderer.render scene camera (← get).age))

end Workspace

/-- What an application is told about a window that has to be drawn. -/
structure FrameInfo where
  /-- The window. -/
  window : WindowId
  /-- Its size in pixels. -/
  physical : SurfaceSize
  /-- Seconds since it was last drawn. -/
  elapsed : Scalar
  deriving Inhabited

/-- An application with a state of type `α`. -/
structure App (α : Type) where
  /-- A window was opened. -/
  onStart : WindowId → Turn (Workspace α) Control
  /-- Something happened to a window. -/
  onEvent : WindowId → WindowEvent → α → Control × α
  /-- A window has to be drawn. -/
  onFrame : FrameInfo → Turn (Workspace α) (Control × List WindowRequest)

end LitTiles
