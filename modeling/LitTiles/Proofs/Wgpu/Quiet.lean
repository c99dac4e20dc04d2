import LitTiles.Proofs.Wgpu.Conduct

/-!
# What leaves the surface alone

Most of what an adapter does has nothing to do with the surface of its window. A happening is
`IsQuiet` if it is not a command to the surface or to one of its textures, and a platform has gone
on `Quietly` if it saw quiet happenings alone. A computation is calm if it does only that, and
leaves the frame of the adapter as it is. All commands are calm but three (`calm_execute`): those
that configure targets, that begin a frame and that end it.
-/

namespace LitTiles

open Wgpu

/-! ## Platforms -/

/-- The happening has nothing to do with a surface or its textures. -/
def Happening.IsQuiet : Happening → Prop
  | .device (.configureSurface _) | .device (.acquire _) | .device (.failAcquire _)
  | .device (.present _) | .device (.discard _) => False
  | _ => True

namespace Platform

/-- From one state of a platform to the other there were quiet happenings alone. -/
def Quietly (p p' : Platform) : Prop :=
  ∃ more, p'.history.toList = p.history.toList ++ more ∧ ∀ e ∈ more, e.IsQuiet

/-- Quiet stretches compose: what was seen in both is quiet. -/
theorem Quietly.trans {p₁ p₂ p₃ : Platform} (h : Quietly p₁ p₂) (h' : Quietly p₂ p₃) :
    Quietly p₁ p₃ := by
  obtain ⟨more, he, hq⟩ := h
  obtain ⟨more', he', hq'⟩ := h'
  refine ⟨more ++ more', by rw [he', he, List.append_assoc], fun e hm => ?_⟩
  rcases List.mem_append.mp hm with hm | hm
  · exact hq e hm
  · exact hq' e hm

/-- Where nothing happened, nothing loud did. -/
theorem quietly_of_history_eq {p p' : Platform} (h : p'.history = p.history) : Quietly p p' :=
  ⟨[], by simp [h], by simp⟩

/-- One quiet happening more. -/
theorem quietly_add {e : Happening} (p : Platform) (he : e.IsQuiet) : Quietly p (p.add e) :=
  ⟨[e], by simp [add], by simpa using he⟩

/-- Quiet commands in a row. -/
theorem quietly_addAll {cs : List Wgpu.Command} (p : Platform)
    (hc : ∀ c ∈ cs, (Happening.device c).IsQuiet) : Quietly p (p.addAll cs) :=
  ⟨cs.map .device, by simp [addAll], by simpa using hc⟩

end Platform

/-- What commands are about that have nothing to do with a surface or its textures. -/
def Wgpu.Concern.calm : List Concern := [.pass, .buffer, .object]

/-- Whatever is about passes, buffers and objects is quiet. The two ways of sorting commands, by
what they are about and by what they do to a surface, meet only here. -/
theorem Happening.Within.isQuiet {e : Happening} (h : e.Within Concern.calm) : e.IsQuiet := by
  cases e with
  | device c => cases c <;> trivial
  | _ => trivial

open Platform (Quietly)

/-- So a stretch within these concerns is a quiet one. -/
theorem Platform.Saw.quietly {p p' : Platform} (h : p.Saw Concern.calm p') : Quietly p p' := by
  obtain ⟨more, grown, within⟩ := h.history
  exact ⟨more, grown, fun e he => (within e he).isQuiet⟩

namespace PlatformM

variable {α β : Type}

/-- A computation that leaves surfaces alone. -/
def Calm (m : PlatformM α) : Prop := ∀ p, Quietly p (m.run.run p).2

/-- What is confined to these concerns is calm, whatever it is answered. -/
theorem Confined.calm {m : PlatformM α} (hm : m.Confined Concern.calm) : m.Calm :=
  fun p => (hm p _ _ rfl).quietly

end PlatformM

namespace Wgpu

namespace AdapterM

variable {α β : Type} {fr : Option Frame}

/-- A computation that leaves surfaces alone, and a frame of the adapter as it is. -/
def Calm (fr : Option Frame) (m : AdapterM α) : Prop :=
  ∀ a p, a.frame = fr →
    ((m.run.run a).run p).1.2.frame = fr ∧ Quietly p ((m.run.run a).run p).2

/-- For a computation of the adapter the frame has to be the part that is kept, which is the other
half of being calm. -/
theorem Confined.calm {m : AdapterM α} (hm : m.Confined Concern.calm Adapter.frame fr) :
    m.Calm fr := by
  intro a p ha
  obtain ⟨frame, saw⟩ := hm ⟨a, default, p⟩ _ _ ha rfl
  exact ⟨frame, saw.quietly⟩

/-- How a sequence runs, written out with both states: where the first part refuses, its states are
the last ones. -/
theorem run_bind (m : AdapterM α) (f : α → AdapterM β) (a : Adapter) (p : Platform) :
    ((m >>= f).run.run a).run p =
      match (m.run.run a).run p with
      | ((.ok v, a'), p') => ((f v).run.run a').run p'
      | ((.error e, a'), p') => ((.error e, a'), p') := by
  have key : ((m >>= f).run.run a).run p =
      ((ExceptT.bindCont f ((m.run.run a).run p).1.1 : StateT Adapter (StateM Platform) _).run
        ((m.run.run a).run p).1.2).run ((m.run.run a).run p).2 := rfl
  rw [key]
  obtain ⟨⟨x, a'⟩, p'⟩ := (m.run.run a).run p
  cases x <;> rfl

end AdapterM

namespace Adapter

variable {fr : Option Frame}

/-- Loading a texture makes objects and replaces an entry of a table. -/
theorem calm_loadTexture (t : Texture) : (loadTexture t).Calm fr :=
  (confined_loadTexture (by decide) (fun _ _ => rfl) t).calm

/-- So does compiling an effect. -/
theorem calm_compileProgram (name : String) (program : EffectProgram) :
    (compileProgram name program).Calm fr :=
  (confined_compileProgram (by decide) (fun _ _ => rfl) name program).calm

/-- The offscreen targets are made anew without a look at the surface. This is the part of
configuring targets that is calm. -/
theorem calm_remakeTargets (surface : SurfaceSize) (sizes : List SurfaceSize) :
    (remakeTargets surface sizes).Calm fr :=
  (confined_remakeTargets (by decide) (fun _ _ => rfl) surface sizes).calm

/-- Making a buffer concerns buffers. -/
theorem calm_createBuffer (capacity : Nat) : (createBuffer capacity).Calm fr :=
  (confined_createBuffer (by decide) (fun _ _ _ => rfl) capacity).calm

/-- So does giving one back. -/
theorem calm_freeBuffer (id : BufferId) : (freeBuffer id).Calm fr :=
  (confined_freeBuffer (by decide) (fun _ _ => rfl) id).calm

/-- Commands that configure the surface, or take or show a texture of it. -/
def usesSurface : LitTiles.Command → Bool
  | .configureTargets _ _ | .beginFrame _ | .endFrame => true
  | _ => false

/-- All commands that do not use the surface are calm, by what they are confined to. -/
theorem calm_execute {c : LitTiles.Command} (hc : usesSurface c = false) : (execute c).Calm fr := by
  cases c with
  | loadTexture t => exact calm_loadTexture t
  | compileProgram name program => exact calm_compileProgram name program
  | writeInstances id instances => exact (confined_writeInstances (by decide) id instances).calm
  | clear target color => exact (confined_clear (by decide) target color).calm
  | drawSprites target mode id calls =>
    exact (confined_drawSprites (by decide) target mode id calls).calm
  | drawLight target light =>
    exact (confined_drawLight (by decide) (by decide) (by decide) (fun _ _ => rfl)
      target light).calm
  | drawShadows target triangles =>
    exact (confined_drawShadows (by decide) (by decide) (by decide) (fun _ _ => rfl)
      target triangles).calm
  | runProgram name inputs output uniforms clear =>
    exact (confined_runProgram (by decide) (by decide) (by decide) (fun _ _ => rfl)
      name inputs output uniforms
      clear).calm
  | configureTargets surface sizes | beginFrame view | endFrame => cases hc

end Adapter

end Wgpu

end LitTiles
