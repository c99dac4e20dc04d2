import LitTiles.Wgpu.Command
import Mathlib.Logic.Function.Basic

/-!
# What a recording draws

An encoder records passes, and a pass knows only what was set since it began: nothing is left over
from earlier passes. `Recorder` is the pass that is being recorded, together with the groups that
have been made, and a `Drawn` is one draw with all that it reads: `Recorder.draws` lists those of
some commands. A pass that starts from a colour fills its target with it.
-/

namespace LitTiles.Wgpu

/-- What was set in a pass. -/
structure Pass where
  /-- What is drawn to. -/
  view : Handle .view
  /-- The pipeline. -/
  pipeline : Option (Handle .renderPipeline) := none
  /-- Groups by index. -/
  groups : Nat → Option (Handle .bindGroup) := fun _ => none
  /-- Where vertices are read from, by slot. -/
  vertices : Nat → Option Slice := fun _ => none
  /-- Where indices are read from. -/
  indices : Option Slice := none

/-- The state of a recording. -/
structure Recorder where
  /-- The pass that is being recorded. -/
  pass : Option Pass := none
  /-- What was bound together in groups. -/
  groups : Handle .bindGroup → Option (List Resource) := fun _ => none

/-- What a draw reads. -/
structure Draw where
  /-- What was set in its pass. -/
  pass : Pass
  /-- What is bound together in its groups, by index. -/
  resources : Nat → Option (List Resource)

/-- Something that changes a target. -/
inductive Drawn where
  /-- A target is filled with a colour. -/
  | fill (view : Handle .view) (color : Color)
  /-- Triangles of consecutive vertices are drawn. -/
  | vertices (draw : Draw) (count : Nat)
  /-- Triangles of indexed vertices are drawn, for every instance of a range. -/
  | indexed (draw : Draw) (count : Nat) (first last : UInt32)

namespace Recorder

/-- Changes the pass that is being recorded. -/
def onPass (f : Pass → Pass) (r : Recorder) : Recorder := { r with pass := r.pass.map f }

/-- The state after a command. -/
def apply (r : Recorder) : Command → Recorder
  | .createBindGroup group _ _ entries =>
    { r with groups := Function.update r.groups group (some entries) }
  | .beginPass _ _ view _ => { r with pass := some { view } }
  | .setPipeline pipeline => r.onPass fun p => { p with pipeline := some pipeline }
  | .setBindGroup i group => r.onPass fun p =>
    { p with groups := Function.update p.groups i (some group) }
  | .setVertexBuffer i slice => r.onPass fun p =>
    { p with vertices := Function.update p.vertices i (some slice) }
  | .setIndexBuffer slice => r.onPass fun p => { p with indices := some slice }
  | .endPass => { r with pass := none }
  | _ => r

/-- The state after some commands. -/
def after (r : Recorder) (cs : List Command) : Recorder := cs.foldl apply r

/-- A draw in a pass. -/
def drawIn (r : Recorder) (p : Pass) : Draw := ⟨p, fun i => (p.groups i).bind r.groups⟩

/-- What a command draws. -/
def drawn (r : Recorder) : Command → Option Drawn
  | .beginPass _ _ view (.clear color) => some (.fill view color)
  | .draw n => r.pass.map fun p => .vertices (r.drawIn p) n
  | .drawIndexed n first last => r.pass.map fun p => .indexed (r.drawIn p) n first last
  | _ => none

/-- What commands draw, one after the other. -/
def draws (r : Recorder) : List Command → List Drawn
  | [] => []
  | c :: cs => (r.drawn c).toList ++ draws (r.apply c) cs

variable {r : Recorder} {c : Command} {cs ds : List Command}

/-- A recording is not changed by nothing. -/
@[simp] theorem after_nil : r.after [] = r := rfl

/-- A recording goes on one command at a time. -/
@[simp] theorem after_cons : r.after (c :: cs) = (r.apply c).after cs := rfl

/-- Two blocks of commands in a row: the second begins with the pass and the groups that the first
has left. -/
@[simp] theorem after_append : r.after (cs ++ ds) = (r.after cs).after ds := List.foldl_append

@[simp] theorem draws_nil : r.draws [] = [] := rfl

/-- A command draws with what was set before it in the same pass. -/
@[simp] theorem draws_cons : r.draws (c :: cs) = (r.drawn c).toList ++ (r.apply c).draws cs := rfl

/-- The draws of two blocks in a row. If the second begins a pass, it reads nothing of the first but
the groups that were made. -/
theorem draws_append : r.draws (cs ++ ds) = r.draws cs ++ (r.after cs).draws ds := by
  induction cs generalizing r with
  | nil => rfl
  | cons c cs ih => simp [ih]

end Recorder

end LitTiles.Wgpu
