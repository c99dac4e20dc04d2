import LitTiles.Record.Trace

/-!
# Logs that can be compared

Two runs that do the same may still differ in what nobody can rely on: the reading of the wall
clock, the order in which objects are dropped together, the order in which several windows are asked
to redraw. The functions here give logs of commands a form in which such runs agree.
-/

namespace LitTiles

namespace Trace

/-- The order of commands by name, then by their first number. -/
def le (s t : Trace) : Bool :=
  s.name < t.name || (s.name == t.name && decide (s.firstNumber ≤ t.firstNumber))

/-- Commands in order of name and first number. -/
def sorted (ts : List Trace) : List Trace := ts.mergeSort le

/-- Whether a command only says that an object went away. -/
def isDrop (t : Trace) : Bool := t.name.startsWith "drop_"

/-- Whether a command asks a window to redraw. -/
def isRedraw (t : Trace) : Bool := t.name == "request_redraw"

/-- Puts a command in front of others; among requests to redraw that follow each other it finds its
place by number. -/
def settle (t : Trace) : List Trace → List Trace
  | [] => [t]
  | u :: us =>
    if t.isRedraw && u.isRedraw && u.firstNumber < t.firstNumber then u :: settle t us
    else t :: u :: us

/-- The commands of a log, without drops, and with neighbouring requests to redraw in order. -/
def calls (ts : List Trace) : List Trace := (ts.filter fun t => !t.isDrop).foldr settle []

/-- The drops of a log, in order. -/
def drops (ts : List Trace) : List Trace := sorted (ts.filter isDrop)

/-- A reading of the clock that is a plausible age of a program is replaced by a letter. -/
def ageless : Trace → Trace
  | float x => if 0 ≤ x && x < 1000 then text "t" else float x
  | t => t

end Trace

/-- What has to be known to find the clock among the commands of a GL context. -/
structure ClockWatch where
  /-- Programs with the location of their clock. -/
  locations : List (Int × Int) := []
  /-- The program in use. -/
  program : Int := 0

namespace ClockWatch

/-- Leaves the clock out of a command, and learns from it. -/
def hide (w : ClockWatch) (t : Trace) : ClockWatch × Trace :=
  match t with
  | .list [.text "run_program", n, is, o, .list us, c] =>
    (w, .list [.text "run_program", n, is, o, .list (us.modify 2 Trace.ageless), c])
  | .list [.text "GetUniformLocation", .int p, .text "uniforms.time", .int l] =>
    ({ w with locations := (p, l) :: w.locations }, t)
  | .list [.text "UseProgram", .int p] => ({ w with program := p }, t)
  | .list [.text "Uniform1f", .int l, x] =>
    if w.locations.contains (w.program, l) then
      (w, .list [.text "Uniform1f", .int l, x.ageless])
    else (w, t)
  | _ => (w, t)

/-- Leaves the clock out of a log. -/
def hideAll (w : ClockWatch) : List Trace → ClockWatch × List Trace
  | [] => (w, [])
  | t :: ts =>
    let (w, t) := w.hide t
    let (w, ts) := w.hideAll ts
    (w, t :: ts)

end ClockWatch

end LitTiles
