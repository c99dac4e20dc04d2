import LitTiles.Backend.Script

/-!
# A backend that records

It keeps every call that succeeded together with its answer, and can be told to refuse particular
calls: the `n`-th one of a kind, counted from zero, or the compilation of one effect. Buffers are
numbered in the order they are made, and giving one back is never refused. Sprites need a loaded
texture and runs need a compiled effect, as on every backend.

The recorder also keeps an account of buffers, and notes when one is overfilled or given back twice.
-/

namespace LitTiles

/-- The kinds of calls. -/
inductive CallKind where
  /-- Uploading an atlas. -/
  | loadTexture
  /-- Compiling an effect. -/
  | compileProgram
  /-- Making offscreen targets. -/
  | configureTargets
  /-- Making an instance buffer. -/
  | createBuffer
  /-- Writing instances. -/
  | writeInstances
  /-- Giving a buffer back. -/
  | freeBuffer
  /-- Starting a frame. -/
  | beginFrame
  /-- Filling a target. -/
  | clear
  /-- Drawing sprites. -/
  | drawSprites
  /-- Drawing a light. -/
  | drawLight
  /-- Drawing shadows. -/
  | drawShadows
  /-- Running an effect. -/
  | runProgram
  /-- Ending a frame. -/
  | endFrame
  deriving DecidableEq, Inhabited

namespace CallKind

/-- All kinds of calls. -/
def all : List CallKind :=
  [loadTexture, compileProgram, configureTargets, createBuffer, writeInstances, freeBuffer,
    beginFrame, clear, drawSprites, drawLight, drawShadows, runProgram, endFrame]

/-- The name of a kind of call. -/
def label : CallKind → String
  | loadTexture => "load_texture"
  | compileProgram => "compile_program"
  | configureTargets => "configure_targets"
  | createBuffer => "create_instance_buffer"
  | writeInstances => "write_instances"
  | freeBuffer => "free_instance_buffer"
  | beginFrame => "begin_frame"
  | clear => "clear"
  | drawSprites => "draw_sprites"
  | drawLight => "draw_light"
  | drawShadows => "draw_shadows"
  | runProgram => "run_program"
  | endFrame => "end_frame"

/-- The kind of a call. -/
def of : Call → CallKind
  | .createBuffer _ => createBuffer
  | .freeBuffer _ => freeBuffer
  | .issue c =>
    match c with
    | .loadTexture _ => loadTexture
    | .compileProgram _ _ => compileProgram
    | .configureTargets _ _ => configureTargets
    | .writeInstances _ _ => writeInstances
    | .beginFrame _ => beginFrame
    | .clear _ _ => clear
    | .drawSprites _ _ _ _ => drawSprites
    | .drawLight _ _ => drawLight
    | .drawShadows _ _ => drawShadows
    | .runProgram _ _ _ _ _ => runProgram
    | .endFrame => endFrame

end CallKind

/-- A call that succeeded, with the buffer it made if it made one. -/
structure RecordedCall where
  /-- The call. -/
  call : Call
  /-- The buffer that was made. -/
  made : Option BufferId := none

/-- The state of a recording backend. -/
structure Recorder where
  /-- Calls that succeeded. -/
  calls : Array RecordedCall := #[]
  /-- Records of the log. -/
  log : Array Record := #[]
  /-- Names of loaded textures. -/
  textures : List String := []
  /-- Compiled effects, each name once. -/
  programs : List (String × EffectProgram) := []
  /-- Buffers that were made and not given back, with their capacities. -/
  live : List (BufferId × Nat) := []
  /-- Whether a buffer was overfilled, or given back without having been made. -/
  breached : Bool := false
  /-- Number of the next buffer. -/
  nextBuffer : UInt32 := 0
  /-- Which calls are refused. -/
  refusals : List (CallKind × Nat) := []
  /-- The kinds of the calls so far, the latest first. -/
  attempts : List CallKind := []
  /-- An effect of this name is not compiled. -/
  rejected : Option String := none

namespace Recorder

/-- Changes which calls are refused, and counts anew. -/
def refuse (r : Recorder) (refusals : List (CallKind × Nat)) : Recorder :=
  { r with refusals := refusals, attempts := [] }

/-- Whether the next call of a kind is refused. -/
def refuses (r : Recorder) (k : CallKind) : Bool := r.refusals.contains (k, r.attempts.count k)

/-- Counts a call. -/
def attempt (r : Recorder) (k : CallKind) : Recorder := { r with attempts := k :: r.attempts }

/-- Keeps a call. -/
def keep (r : Recorder) (c : RecordedCall) : Recorder := { r with calls := r.calls.push c }

/-- What is checked before a command. -/
def check (r : Recorder) : Command → Except RenderError Unit
  | .loadTexture t => t.validate
  | .compileProgram name _ =>
    if r.rejected = some name then .error (.rejectedProgram name "rejected by test") else .ok ()
  | .drawSprites _ _ _ calls =>
    match calls.find? fun c => !r.textures.contains c.texture with
    | some c => .error (.unknownTexture c.texture)
    | none => .ok ()
  | .runProgram name _ _ _ _ =>
    if (r.programs.lookup name).isSome then .ok () else .error (.unknownProgram name)
  | _ => .ok ()

/-- What a command that succeeds leaves behind. -/
def learn (r : Recorder) : Command → Recorder
  | .loadTexture t => { r with textures := t.name :: r.textures }
  | .compileProgram name p =>
    { r with programs := (name, p) :: r.programs.filter (·.1 != name) }
  | .writeInstances b instances =>
    { r with breached := r.breached || decide ((r.live.lookup b).getD 0 < instances.length) }
  | _ => r

/-- Answers one call. -/
def perform (c : Call) (r : Recorder) : c.Outcome × Recorder :=
  let kind := CallKind.of c
  let refusal := RenderError.surface ("injected " ++ kind.label)
  match c with
  | .freeBuffer b =>
    let r := { r with
      live := r.live.filter (·.1 != b)
      breached := r.breached || (r.live.lookup b).isNone }
    ((), r.keep ⟨.freeBuffer b, none⟩)
  | .createBuffer capacity =>
    if r.refuses kind then (.error refusal, r.attempt kind)
    else
      let id : BufferId := ⟨r.nextBuffer⟩
      (.ok id, { (r.attempt kind).keep ⟨.createBuffer capacity, some id⟩ with
        live := (id, capacity) :: r.live
        nextBuffer := r.nextBuffer + 1 })
  | .issue command =>
    if r.refuses kind then (.error refusal, r.attempt kind)
    else
      match r.check command with
      | .error e => (.error e, r.attempt kind)
      | .ok () => (.ok (), ((r.attempt kind).learn command).keep ⟨.issue command, none⟩)

/-- Keeps a record; there is no window to be told about frames. -/
def notice (n : Notice) (r : Recorder) : Recorder :=
  match n with
  | .record entry => { r with log := r.log.push entry }
  | .presenting => r

/-- The recording backend. -/
def backend : Backend Recorder where
  perform := perform
  notice := notice

/-- Whether a call starts a frame. -/
def startsFrame (c : RecordedCall) : Bool := CallKind.of c.call == .beginFrame

/-- Number of frames begun. -/
def frames (r : Recorder) : Nat := r.calls.toList.countP startsFrame

/-- The calls from the last beginning of a frame on, or all calls if no frame was begun. -/
def lastFrame (r : Recorder) : List RecordedCall :=
  let upTo := r.calls.toList.reverse.takeWhile fun c => !startsFrame c
  match r.calls.toList.reverse.drop upTo.length with
  | [] => r.calls.toList
  | start :: _ => start :: upTo.reverse

end Recorder

end LitTiles
