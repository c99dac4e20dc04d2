import LitTiles.Effect.Packing
import LitTiles.Frame.Registry
import LitTiles.Frame.Target

/-!
# Stages

A stage is one run of a full-screen program: which effect, from which inputs, to which output, with
which overrides. A stage is checked before it is run, in a fixed order: its effect has to be
registered, it may not have more inputs than there are channels, and inputs and output have to
exist. Only a stage without fault reaches the backend, by exactly one call.
-/

namespace LitTiles

/-- One run of a full-screen program. -/
structure Stage where
  /-- Name of the effect. -/
  effect : String
  /-- The offscreen target of each channel, in channel order. -/
  inputs : List Nat := []
  /-- Where it draws to. -/
  output : Target
  /-- Values for its uniforms. -/
  overrides : List UniformOverride := []
  /-- Colour the output is filled with before, if any. -/
  clear : Option Color := none
  deriving Inhabited

/-- What every stage of a frame sees. -/
structure FrameContext where
  /-- Size of the surface. -/
  surface : SurfaceSize
  /-- Seconds since the renderer was started. -/
  time : Scalar

namespace FrameContext

/-- The size of a target, which its program receives as resolution. -/
def sizeOf (f : FrameContext) : Target → Except RenderError SurfaceSize
  | .surface => .ok f.surface
  | .offscreen i =>
    match (slotSizes f.surface)[i]? with
    | some s => .ok s
    | none => .error (.unknownTarget i)

end FrameContext

namespace Stage

/-- The passes of a renderer that was given none: show the composite unchanged. -/
def defaultPasses : List Stage :=
  [{ effect := EffectName.copy, inputs := [OffscreenSlot.primary.index], output := .surface }]

/-- The effect of a stage and the size of its output, or the first fault of the stage. -/
def check (s : Stage) (registry : Registry) (frame : FrameContext) :
    Except RenderError (RegisteredEffect × SurfaceSize) := do
  let e ← registry.get s.effect
  if maxChannels < s.inputs.length then
    throw (.tooManyInputs s.effect s.inputs.length maxChannels)
  match s.inputs.find? (OffscreenSlot.count ≤ ·) with
  | some bad => throw (.unknownTarget bad)
  | none => pure ()
  let resolution ← frame.sizeOf s.output
  return (e, resolution)

/-- Runs a stage. -/
def run {σ : Type} (registry : Registry) (frame : FrameContext) (s : Stage) : Action σ Unit := do
  let (e, resolution) ← ExceptT.mk (pure (s.check registry frame))
  (e.effect.undeclared s.overrides).forM fun name =>
    Action.say .trace .uniforms ("ignoring override for undeclared uniform `" ++ name ++ "`")
  let uniforms := e.effect.pack resolution frame.time s.overrides
  Action.issue (.runProgram s.effect s.inputs s.output uniforms s.clear)

/-- Runs stages in order; the first failure ends the run. -/
def runAll {σ : Type} (registry : Registry) (frame : FrameContext) (stages : List Stage) :
    Action σ Unit :=
  stages.forM (run registry frame)

end Stage

end LitTiles
