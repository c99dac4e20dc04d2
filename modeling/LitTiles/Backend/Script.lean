import LitTiles.Backend.Call
import LitTiles.Log

/-!
# Scripts of backend calls

A `Script` is a finite tree: it makes a call and goes on in a way that depends on the answer, or it
gives notice of something that needs no answer and goes on, or it is done. It fixes no meaning for
the calls; that is the business of a `Backend`, which answers one call at a time from a state of its
own. `Script.run` plays a script on a backend.

What the renderer does is a script. A statement about all backends covers one that may refuse any
call at any time.

Where a script edits a state as well and may stop early it is an `Action`: what was edited before
an error stays edited.
-/

namespace LitTiles

/-- What a script tells without waiting for an answer. -/
inductive Notice where
  /-- A record for the log. -/
  | record (r : Record)
  /-- A frame is about to be presented in the window that the script draws to. -/
  | presenting
  deriving DecidableEq, Inhabited

/-- A computation that talks to a backend and gives notices. -/
inductive Script (α : Type) : Type where
  /-- Nothing is left to do. -/
  | done (result : α) : Script α
  /-- Makes a call and goes on from its answer. -/
  | call (request : Call) (next : request.Outcome → Script α) : Script α
  /-- Gives a notice and goes on. -/
  | note (notice : Notice) (next : Script α) : Script α

namespace Script

variable {α β γ : Type}

/-- Goes on with another script where the first one is done. -/
protected def bind : Script α → (α → Script β) → Script β
  | done a, f => f a
  | call c k, f => call c fun o => (k o).bind f
  | note n s, f => note n (s.bind f)

instance : Monad Script where
  pure := done
  bind := Script.bind

@[simp] theorem pure_eq (a : α) : (pure a : Script α) = done a := rfl

@[simp] theorem done_bind (a : α) (f : α → Script β) : (done a >>= f) = f a := rfl

@[simp] theorem call_bind (c : Call) (k : c.Outcome → Script α) (f : α → Script β) :
    (call c k >>= f) = call c fun o => k o >>= f := rfl

@[simp] theorem note_bind (n : Notice) (s : Script α) (f : α → Script β) :
    (note n s >>= f) = note n (s >>= f) := rfl

@[simp] theorem bind_done (s : Script α) : (s >>= done) = s := by
  induction s with
  | done a => rfl
  | call c k ih => exact congrArg (call c) (funext ih)
  | note n s ih => exact congrArg (note n) ih

theorem bind_assoc (s : Script α) (f : α → Script β) (g : β → Script γ) :
    ((s >>= f) >>= g) = (s >>= fun a => f a >>= g) := by
  induction s with
  | done a => rfl
  | call c k ih => exact congrArg (call c) (funext ih)
  | note n s ih => exact congrArg (note n) ih

instance : LawfulMonad Script :=
  .mk' Script (fun s => bind_done s) (fun _ _ => rfl) bind_assoc

/-- Makes one call. -/
def request (c : Call) : Script c.Outcome := call c done

/-- Writes one record. -/
def say (severity : Severity) (speaker : Speaker) (text : String) : Script Unit :=
  note (.record ⟨severity, speaker, text⟩) (done ())

/-- Tells that a frame is about to be presented. -/
def announceFrame : Script Unit := note .presenting (done ())

end Script

/-- Something that answers calls and takes notices, from a state of type `σ`. -/
structure Backend (σ : Type) where
  /-- Answers one call. -/
  perform : (request : Call) → σ → request.Outcome × σ
  /-- Takes one notice. -/
  notice : Notice → σ → σ

namespace Script

variable {σ α β : Type}

/-- Plays a script on a backend. -/
def run (b : Backend σ) : Script α → σ → α × σ
  | done a, s => (a, s)
  | call c k, s => run b (k (b.perform c s).1) (b.perform c s).2
  | note n k, s => run b k (b.notice n s)

theorem run_bind (b : Backend σ) (m : Script α) (f : α → Script β) (s : σ) :
    (m >>= f).run b s = (f (m.run b s).1).run b (m.run b s).2 := by
  induction m generalizing s with
  | done a => rfl
  | call c k ih => exact ih _ _
  | note n k ih => exact ih _

end Script

/-- A script that edits a state and may stop with an error; edits made before the error stay. -/
abbrev Action (σ α : Type) := ExceptT RenderError (StateT σ Script) α

namespace Action

variable {σ τ α : Type}

/-- Makes a call that answers by success or an error. -/
def issue (c : Command) : Action σ Unit := ExceptT.mk (Script.request (.issue c))

/-- Asks for an instance buffer. -/
def createBuffer (capacity : Nat) : Action σ BufferId :=
  ExceptT.mk (Script.request (.createBuffer capacity))

/-- Gives an instance buffer back. -/
def freeBuffer (b : BufferId) : Action σ Unit :=
  ExceptT.lift (StateT.lift (Script.request (.freeBuffer b)))

/-- Writes a record. -/
def say (severity : Severity) (speaker : Speaker) (text : String) : Action σ Unit :=
  ExceptT.lift (StateT.lift (Script.say severity speaker text))

/-- Tells that a frame is about to be presented. -/
def announceFrame : Action σ Unit := ExceptT.lift (StateT.lift Script.announceFrame)

/-- An action on one part of a state. -/
def within (part : σ → τ) (replace : τ → σ → σ) (a : Action τ α) : Action σ α :=
  ExceptT.mk fun s => do
    let (r, t) ← a.run (part s)
    pure (r, replace t s)

/-- Plays an action on a backend: the answer, the edited state and the backend's state. -/
def play {ρ : Type} (b : Backend ρ) (a : Action σ α) (s : σ) (r : ρ) :
    Except RenderError α × σ × ρ :=
  let ((answer, s), r) := (a.run.run s).run b r
  (answer, s, r)

end Action

end LitTiles
