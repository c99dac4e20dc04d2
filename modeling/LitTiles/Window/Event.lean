import LitTiles.Record.Trace

/-!
# Windows and their events

What a window system tells the program, what the program tells it, and the turns that an
application gets in between.
-/

namespace LitTiles

/-- The number of a window. -/
structure WindowId where
  /-- Windows are counted from one in the order they were opened. -/
  val : Nat
  deriving DecidableEq, Inhabited

/-- Keys that programs ask about. -/
inductive Key where
  /-- Escape. -/
  | escape
  /-- The space bar. -/
  | space
  /-- Any other. -/
  | unidentified
  deriving DecidableEq, Inhabited

/-- What happens to a window. -/
inductive WindowEvent where
  /-- The user wants it closed. -/
  | closeRequested
  /-- Its size in pixels has changed. -/
  | resized
  /-- Its number of pixels per unit has changed. -/
  | rescaled
  /-- Its contents have to be drawn. -/
  | redrawRequested
  /-- It got or lost the focus. -/
  | focused
  /-- A key went down or up. -/
  | keyboard (key : Key) (pressed : Bool)
  deriving DecidableEq, Inhabited

/-- The name of an event. -/
def WindowEvent.label : WindowEvent → String
  | closeRequested => "close"
  | resized => "resized"
  | rescaled => "scale"
  | redrawRequested => "redraw"
  | focused => "focus"
  | keyboard _ _ => "key"

/-- What comes from the window system. -/
inductive HostEvent where
  /-- The program may open windows. -/
  | resumed
  /-- There are no events left for now. -/
  | idle
  /-- Some milliseconds have passed. -/
  | passed (millis : Nat)
  /-- A window has a new size in pixels, of which the program is not told. -/
  | stretched (window : WindowId) (size : SurfaceSize)
  /-- Something happened to a window, which may have a new size in pixels by it. -/
  | happened (window : WindowId) (event : WindowEvent) (size : Option SurfaceSize)
  deriving Inhabited

/-- What the program tells the window system. -/
inductive WindowCommand where
  /-- A window was opened, with the size asked for. -/
  | opened (window : WindowId) (title : String) (size : SurfaceSize)
  /-- A window could not be opened. -/
  | notOpened (title : String)
  /-- A window is to be drawn. -/
  | requestRedraw (window : WindowId)
  /-- A frame is about to be presented in a window. -/
  | aboutToPresent (window : WindowId)
  /-- Nothing is to be done before the next event. -/
  | waitForEvents
  /-- The loop is to end. -/
  | exit
  /-- A window is gone. -/
  | closed (window : WindowId)
  deriving DecidableEq, Inhabited

/-- The turns of an application. -/
inductive AppTurn where
  /-- A window was opened; its renderer has a size. -/
  | started (window : WindowId) (size : SurfaceSize)
  /-- Something happened to a window. -/
  | notified (window : WindowId) (event : WindowEvent)
  /-- A window of some pixels is to be drawn by its renderer, some seconds after the last time. -/
  | framed (window : WindowId) (physical size : SurfaceSize) (elapsed : Scalar)
  deriving Inhabited

open Trace

/-- A command by name. -/
def WindowCommand.trace : WindowCommand → Trace
  | opened w t s => command "create_window" [nat w.val, text t, ofSize s]
  | notOpened t => command "create_window" [text "failed", text t]
  | requestRedraw w => command "request_redraw" [nat w.val]
  | aboutToPresent w => command "pre_present_notify" [nat w.val]
  | waitForEvents => command "set_control_flow" [text "Wait"]
  | exit => command "exit" []
  | closed w => command "drop_window" [nat w.val]

/-- A turn by name. -/
def AppTurn.trace : AppTurn → Trace
  | started w s => command "on_start" [nat w.val, ofSize s]
  | notified w e => command "on_window_event" [nat w.val, text e.label]
  | framed w p s dt => command "on_frame" [nat w.val, ofSize p, ofSize s, float dt]

end LitTiles
