import LitTiles.Wgpu.Session
import LitTiles.Window.App

/-!
# The loop over window events

The loop owns the windows of a program, each with a renderer and a device of its own, and hands
events on to the application. It ends when the application or a failure asks for it, or when no
window is left; then all windows are closed, and the window system is told.

One event is one `step`. In a step

* the application is told about the event first;
* closing, resizing and rescaling act on the window, if it is open;
* drawing gives the application its turn, unless the end was asked for; its requests are met after
  the turn, in order, and a turn that ends with `Control.exit` counts as a last request to quit.

The window system opens the first window itself, with the first event that resumes the program. A
window that cannot be opened, or gets no renderer, is an error that is logged and ends the loop.
-/

namespace LitTiles

open Wgpu (Session)

/-- Why a program with windows stops. -/
inductive LoopError where
  /-- Windows cannot be drawn by this interface. -/
  | wrongInterface (interface : Interface)
  /-- There is no window system. -/
  | noLoop (reason : String)
  /-- The window system gave up. -/
  | stopped (reason : String)
  /-- A window could not be opened. -/
  | noWindow (reason : String)
  /-- A window got no renderer. -/
  | noRenderer (interface : Interface) (error : RenderError)
  deriving DecidableEq, Inhabited

namespace LoopError

/-- What went wrong, and below it why. -/
def chain : LoopError → List String
  | wrongInterface i => ["the window runtime only hosts wgpu surfaces, got " ++ i.describe]
  | noLoop reason => ["failed to create winit event loop", reason]
  | stopped reason => ["winit event loop terminated with error", reason]
  | noWindow reason => ["failed to create window", reason]
  | noRenderer i e => ["failed to start " ++ i.describe ++ " renderer", e.message]

/-- The text of an error, on one line. -/
def message (e : LoopError) : String := ": ".intercalate e.chain

end LoopError

/-- What the window system answers. -/
structure WindowHost where
  /-- Why there is no window system. -/
  loopError : Option String := none
  /-- Why it gives up after the last event. -/
  runError : Option String := none
  /-- Why the next window cannot be opened. -/
  openError : Answers (Option String) := .always none
  /-- The sizes in pixels of the first windows that are opened; later ones get the size asked
  for. -/
  sizes : List SurfaceSize := []
  deriving Inhabited

/-- A window that is open. -/
structure OpenWindow where
  /-- Its number. -/
  id : WindowId
  /-- Its size in pixels. -/
  physical : SurfaceSize
  /-- The objects of its device. -/
  adapter : Wgpu.Adapter
  /-- What draws it. -/
  renderer : Renderer
  /-- When its renderer was made. -/
  started : Nat
  /-- When it was last drawn, or else opened. -/
  drawn : Nat

/-- The state of a program with windows. -/
structure WindowLoop (α : Type) where
  /-- The state of the application. -/
  app : α
  /-- What the window system answers. -/
  host : WindowHost := {}
  /-- The first window, until it is opened. -/
  pending : Option WindowConfig
  /-- The windows that are open. -/
  windows : List OpenWindow := []
  /-- Whether the end was asked for. -/
  quitting : Bool := false
  /-- Whether the window system was told about the end. -/
  exited : Bool := false
  /-- The time in milliseconds. -/
  clock : Nat := 0
  /-- Number of attempts to open a window. -/
  attempts : Nat := 0
  /-- Number of windows that were opened. -/
  opened : Nat := 0
  /-- The devices of all windows. -/
  platform : Platform := {}

namespace WindowLoop

variable {α β : Type}

/-- Tells the window system something. -/
def tell (c : WindowCommand) (l : WindowLoop α) : WindowLoop α :=
  { l with platform := l.platform.add (.window c) }

/-- Notes that the application gets a turn. -/
def announce (t : AppTurn) (l : WindowLoop α) : WindowLoop α :=
  { l with platform := l.platform.add (.turn t) }

/-- The open window of a number. -/
def window? (l : WindowLoop α) (id : WindowId) : Option OpenWindow :=
  l.windows.find? (·.id == id)

/-- Replaces the open window of a number. -/
def update (w : OpenWindow) (l : WindowLoop α) : WindowLoop α :=
  { l with windows := l.windows.map fun v => if v.id = w.id then w else v }

/-- Makes the renderer of a window of some size in pixels, and the device that it draws with. -/
def furnish (c : WindowConfig) (id : WindowId) (physical : SurfaceSize) (p : Platform) :
    Except RenderError (Wgpu.Adapter × Renderer) × Platform :=
  match Session.connect c.interface physical c.renderer.device id p with
  | .error (e, p) => (.error e, p)
  | .ok s =>
    let blank := Renderer.blank c.interface physical c.renderer
    match (Renderer.prepare []).play Session.backend blank s with
    | (.error e, _, s) => (.error e, s.close)
    | (.ok (), r, s) => (.ok (s.adapter, r), s.platform)

/-- The number of the window that is opened next. -/
def nextId (l : WindowLoop α) : WindowId := ⟨l.opened + 1⟩

/-- The size in pixels of the window that is opened next. -/
def nextSize (c : WindowConfig) (l : WindowLoop α) : SurfaceSize :=
  l.host.sizes[l.opened]?.getD c.size

/-- Opens a window and makes its renderer; a window without one is closed again. -/
def tryOpen (c : WindowConfig) (l : WindowLoop α) :
    Except LoopError OpenWindow × WindowLoop α :=
  if c.interface ≠ .wgpu then (.error (.wrongInterface c.interface), l)
  else
    let attempt := l.attempts
    let l := { l with attempts := attempt + 1 }
    match l.host.openError attempt with
    | some reason => (.error (.noWindow reason), l.tell (.notOpened c.title))
    | none =>
      let id := l.nextId
      let physical := l.nextSize c
      let l := { l.tell (.opened id c.title c.size) with opened := l.opened + 1 }
      match furnish c id physical l.platform with
      | (.error e, p) =>
        (.error (.noRenderer c.interface e), tell (.closed id) { l with platform := p })
      | (.ok (adapter, renderer), p) =>
        (.ok ⟨id, physical, adapter, renderer, l.clock, l.clock⟩, { l with platform := p })

/-- Gives the application a turn on a window. -/
def play (t : Turn (Workspace α) β) (w : OpenWindow) (l : WindowLoop α) :
    β × OpenWindow × WindowLoop α :=
  let (b, space, s) :=
    t.play Session.backend ⟨l.app, w.renderer, w.started, l.clock⟩ ⟨w.adapter, w.id, l.platform⟩
  (b, { w with renderer := space.renderer, adapter := s.adapter },
    { l with app := space.app, clock := space.clock, platform := s.platform })

/-- Asks for the end if a turn decided so. -/
def heed (c : Control) (l : WindowLoop α) : WindowLoop α :=
  match c with
  | .exit => { l with quitting := true }
  | .proceed => l

/-- Opens a window, makes its renderer and lets the application start on it. -/
def openWindow (app : App α) (c : WindowConfig) (l : WindowLoop α) : WindowLoop α :=
  match l.tryOpen c with
  | (.error e, l) =>
    { l with
      quitting := true
      platform := l.platform.add (.record ⟨.error, .windowLoop, e.message⟩) }
  | (.ok w, l) =>
    let (c, w, l) := play (app.onStart w.id) w (l.announce (.started w.id w.renderer.size))
    let l := (l.heed c).tell (.requestRedraw w.id)
    { l with windows := l.windows ++ [w] }

/-- Disposes of the renderer of a window and of the window. -/
def dispose (w : OpenWindow) (l : WindowLoop α) : WindowLoop α :=
  let (_, _, s) :=
    Renderer.dispose.play Session.backend w.renderer ⟨w.adapter, w.id, l.platform⟩
  tell (.closed w.id) { l with platform := s.close }

/-- Closes a window, if it is open. -/
def closeWindow (id : WindowId) (l : WindowLoop α) : WindowLoop α :=
  match l.window? id with
  | none => l
  | some w => dispose w { l with windows := l.windows.filter (·.id != id) }

/-- Closes all windows. -/
def closeAll (l : WindowLoop α) : WindowLoop α :=
  l.windows.foldl (fun l w => dispose w l) { l with windows := [] }

/-- Meets a request. -/
def meet (app : App α) (l : WindowLoop α) : WindowRequest → WindowLoop α
  | .openWindow c => l.openWindow app c
  | .closeWindow id => l.closeWindow id
  | .quit => { l with quitting := true }

/-- Gives the application its turn to draw a window, if it is open, and meets its requests. -/
def redraw (app : App α) (id : WindowId) (l : WindowLoop α) : WindowLoop α :=
  match l.window? id with
  | none => l
  | some w =>
    let info : FrameInfo := ⟨id, w.physical, secondsOfMillis (l.clock - w.drawn)⟩
    let l := l.announce (.framed id w.physical w.renderer.size info.elapsed)
    let ((c, requests), w, l) := play (app.onFrame info) { w with drawn := l.clock } l
    let last := if c = .exit then [WindowRequest.quit] else []
    (requests ++ last).foldl (meet app) (l.update w)

/-- Gives the renderer of a window the window's size, if it is open. -/
def follow (id : WindowId) (l : WindowLoop α) : WindowLoop α :=
  match l.window? id with
  | none => l
  | some w => (l.update { w with renderer := w.renderer.setSize w.physical }).tell
    (.requestRedraw id)

/-- Ends the loop if that was asked for, or if no window is left. -/
def settle (l : WindowLoop α) : WindowLoop α :=
  if l.quitting || l.windows.isEmpty then { l.closeAll.tell .exit with exited := true } else l

/-- Changes the size of a window in pixels. -/
def stretch (id : WindowId) (size : SurfaceSize) (l : WindowLoop α) : WindowLoop α :=
  match l.window? id with
  | none => l
  | some w => l.update { w with physical := size }

/-- Hands something that happened to a window on to the application. -/
def notify (app : App α) (id : WindowId) (e : WindowEvent) (l : WindowLoop α) : WindowLoop α :=
  let l := l.announce (.notified id e)
  let (c, a) := app.onEvent id e l.app
  heed c { l with app := a }

/-- What one event comes to. -/
def step (app : App α) (l : WindowLoop α) : HostEvent → WindowLoop α
  | .resumed =>
    match l.pending with
    | none => l
    | some c => (openWindow app c { l with pending := none }).settle
  | .idle =>
    l.windows.foldl (fun l w => l.tell (.requestRedraw w.id)) (l.tell .waitForEvents)
  | .passed ms => { l with clock := l.clock + ms }
  | .stretched id size => l.stretch id size
  | .happened id e size =>
    let l := match size with
      | some s => l.stretch id s
      | none => l
    let l := l.notify app id e
    let l := match e with
      | .closeRequested => l.closeWindow id
      | .resized | .rescaled => l.follow id
      | .redrawRequested => if l.quitting then l else l.redraw app id
      | .focused | .keyboard _ _ => l
    l.settle

/-- Handles events until the loop ends or there are no more. -/
def steps (app : App α) (l : WindowLoop α) : List HostEvent → WindowLoop α
  | [] => l
  | e :: es => if l.exited then l else steps app (l.step app e) es

/-- What was added to the history by every event that was handled. -/
def stepHistories (app : App α) (l : WindowLoop α) : List HostEvent → List (List Happening)
  | [] => []
  | e :: es =>
    if l.exited then []
    else
      let next := l.step app e
      next.platform.history.toList.drop l.platform.history.size :: stepHistories app next es

/-- Why a program cannot even begin. -/
def refusal (c : WindowConfig) (host : WindowHost) : Option LoopError :=
  if c.interface ≠ .wgpu then some (.wrongInterface c.interface)
  else host.loopError.map .noLoop

/-- How a program ends whose events were handled. -/
def outcome (l : WindowLoop α) : Except LoopError Unit :=
  match l.host.runError with
  | some reason => .error (.stopped reason)
  | none => .ok ()

/-- A program before its first event. -/
def begin (a : α) (c : WindowConfig) (host : WindowHost) (devices : DeviceHost) : WindowLoop α where
  app := a
  host := host
  pending := some c
  platform := { host := devices }

end WindowLoop

/-- What became of a program. -/
structure LoopReport where
  /-- How it ended. -/
  result : Except LoopError Unit
  /-- What happened at every event, if the program got as far as that. -/
  events : Option (List (List Happening))
  /-- What happened after the last event. -/
  afterwards : List Happening

/-- Runs a program over the events of the window system. -/
def App.run {α : Type} (app : App α) (a : α) (c : WindowConfig) (host : WindowHost)
    (devices : DeviceHost) (events : List HostEvent) : LoopReport :=
  match WindowLoop.refusal c host with
  | some e => ⟨.error e, none, []⟩
  | none =>
    let l := WindowLoop.begin a c host devices
    let last := l.steps app events
    ⟨last.outcome, some (l.stepHistories app events),
      last.closeAll.platform.history.toList.drop last.platform.history.size⟩

end LitTiles
