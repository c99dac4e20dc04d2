import LitTiles.Proofs.Wgpu.Runs

/-!
# What computations are about

Every command to a device is about one thing (`Command.concern`): the surface, a frame, a pass of
it, buffers, or anything else. A computation is `Confined` to some concerns if it gives no other
commands, and leaves a part of the adapter as it is; records of the log are always allowed.

Which part of the adapter that is stays open. All that is asked for is that the part does not depend
on the fields that a computation sets, so what is said here of the adapter's computations serves for
every part.
-/

namespace LitTiles

namespace Wgpu

/-- What a command to a device is about. -/
inductive Concern where
  /-- How the surface is configured. -/
  | surface
  /-- The textures of the surface, and what records a frame. -/
  | frame
  /-- A pass of a frame. -/
  | pass
  /-- Making buffers and dropping them. -/
  | buffer
  /-- The device, its other objects, and what is written to objects. -/
  | object
  deriving DecidableEq

/-- Everything that commands are about. -/
def Concern.all : List Concern := [.surface, .frame, .pass, .buffer, .object]

/-- What a command is about. -/
def Command.concern : Command → Concern
  | .configureSurface _ => .surface
  | .acquire _ | .failAcquire _ | .present _ | .discard _ | .createSurfaceView _ _
  | .createEncoder _ _ | .finish _
  | .submit _ => .frame
  | .beginPass _ _ _ _ | .setPipeline _ | .setBindGroup _ _ | .setVertexBuffer _ _
  | .setIndexBuffer _ | .draw _
  | .drawIndexed _ _ _ | .endPass => .pass
  | .createBuffer _ _ _ _ | .createFilledBuffer _ _ _ _ | .dropBuffer _ => .buffer
  | _ => .object

end Wgpu

open Wgpu

/-- A command of one of some concerns, or a record. -/
def Happening.Within (cs : List Concern) : Happening → Prop
  | .device c => c.concern ∈ cs
  | .record _ => True
  | .window _ | .turn _ => False

/-! ## Platforms -/

namespace Platform

variable {cs : List Concern} {p p₁ p₂ : Platform}

/-- From one state of a platform to the other nothing happened that is about something else; numbers
are never taken back. -/
structure Saw (cs : List Concern) (p p' : Platform) : Prop where
  /-- What happened. -/
  history : ∃ more, p'.history.toList = p.history.toList ++ more ∧ ∀ e ∈ more, e.Within cs
  /-- Objects that were made stay numbered. -/
  made : ∀ k, p.made k ≤ p'.made k

/-- Nothing happens between a platform and itself, so whatever one cares about was kept. -/
theorem Saw.refl (p : Platform) : p.Saw cs p :=
  ⟨⟨[], (List.append_nil _).symm, fun _ he => nomatch he⟩, fun _ => Nat.le_refl _⟩

/-- The stages of a computation compose: what happened in both is within the same concerns, and the
counters only grew. -/
theorem Saw.trans (h : p.Saw cs p₁) (h' : p₁.Saw cs p₂) : p.Saw cs p₂ where
  history := by
    obtain ⟨more, grown, within⟩ := h.history
    obtain ⟨more', grown', within'⟩ := h'.history
    exact ⟨more ++ more',
      by rw [grown', grown, List.append_assoc], List.forall_mem_append.mpr ⟨within, within'⟩⟩
  made k := Nat.le_trans (h.made k) (h'.made k)

/-- One more happening is seen; it has to be within the concerns, and then nothing else about the
platform changed. -/
theorem saw_add {e : Happening} (p : Platform) (he : e.Within cs) : p.Saw cs (p.add e) where
  history := ⟨[e], Array.toList_push .., List.forall_mem_singleton.mpr he⟩
  made _ := Nat.le_refl _

/-- A batch of commands is seen if each of them is about one of the concerns. -/
theorem saw_addAll {ds : List Wgpu.Command} (p : Platform) (hc : ∀ c ∈ ds, c.concern ∈ cs) :
    p.Saw cs (p.addAll ds) where
  history := ⟨ds.map .device, by simp [addAll], List.forall_mem_map.mpr hc⟩
  made _ := Nat.le_refl _

/-- Handing out the next number of a kind is silent: no command, no record, only a counter moved. -/
theorem saw_fresh (p : Platform) (k : ObjectKind) : p.Saw cs (p.fresh k).2 where
  history := (Saw.refl p).history
  made k' := by
    rw [fresh]
    dsimp only
    split
    · rename_i hk
      rw [hk]
      exact Nat.le_succ _
    · exact Nat.le_refl _

end Platform

namespace PlatformM

variable {α β : Type} {cs : List Concern} {m : PlatformM α} {f : α → PlatformM β}

/-- The computation gives commands of some concerns alone. -/
def Confined (cs : List Concern) (m : PlatformM α) : Prop := ∀ p r p', m.Leads p r p' → p.Saw cs p'

theorem confined_pure (v : α) : (pure v : PlatformM α).Confined cs := by
  intro p r p' h
  obtain ⟨-, rfl⟩ := leads_pure h
  exact .refl _

/-- An error gives no command, so refusing is within any concerns. -/
theorem confined_throw (e : RenderError) : (throw e : PlatformM α).Confined cs := by
  intro p r p' h
  obtain ⟨-, rfl⟩ := leads_throw h
  exact .refl _

/-- An answer that was known before the computation began gives no command either way. -/
theorem confined_ofExcept (known : Except RenderError α) :
    (ofExcept known : PlatformM α).Confined cs := by
  intro p r p' h
  obtain ⟨-, rfl⟩ := leads_ofExcept h
  exact .refl _

/-- The rule that everything below is assembled with. Sequencing never widens the concerns, also
where the first part throws and the second is not reached. -/
theorem Confined.bind (hm : m.Confined cs) (hf : ∀ v, (f v).Confined cs) :
    (m >>= f).Confined cs := by
  intro p r p' h
  rcases leads_bind h with ⟨e, -, h⟩ | ⟨v, p₁, h, h'⟩
  · exact hm _ _ _ h
  · exact (hm _ _ _ h).trans (hf v _ _ _ h')

/-- Looking at the platform is free; the continuation has to be confined for every platform it could
see. -/
theorem confined_get_bind {f : Platform → PlatformM β} (hf : ∀ p, (f p).Confined cs) :
    ((get : PlatformM Platform) >>= f).Confined cs := fun p _ _ h => hf p _ _ _ (leads_get_bind h)

/-- A question is counted, and nothing happens. -/
theorem confined_ask (q : Question) (answers : DeviceHost → Answers α) :
    (ask q answers).Confined cs := by
  intro p r p' h
  obtain ⟨-, rfl⟩ := Prod.mk.inj h
  exact ⟨(Platform.Saw.refl p).history, fun _ => Nat.le_refl _⟩

/-- One command, about one of the concerns. -/
theorem confined_give {c : Wgpu.Command} (hc : c.concern ∈ cs) : (give c).Confined cs := by
  intro p r p' h
  obtain ⟨-, rfl⟩ := Prod.mk.inj h
  exact p.saw_add hc

/-- Commands given one after another are confined if each of them is. -/
theorem confined_giveAll {ds : List Wgpu.Command} (hc : ∀ c ∈ ds, c.concern ∈ cs) :
    (giveAll ds).Confined cs := by
  intro p r p' h
  obtain ⟨-, rfl⟩ := Prod.mk.inj h
  exact p.saw_addAll hc

/-- Speaking is allowed whatever the concerns are: a record of the log is no command. -/
theorem confined_say (severity : Severity) (speaker : Speaker) (text : String) :
    (say severity speaker text).Confined cs := by
  intro p r p' h
  obtain ⟨-, rfl⟩ := Prod.mk.inj h
  exact p.saw_add trivial

/-- Making an object hands out a number and gives one command. The command is asked about for every
number, since which one is next is not known here. -/
theorem confined_make {k : ObjectKind} {command : Handle k → Wgpu.Command}
    (hc : ∀ h, (command h).concern ∈ cs) :
    (make command).Confined cs := by
  intro p r p' h
  obtain ⟨-, rfl⟩ := Prod.mk.inj h
  exact (p.saw_fresh k).trans ((p.fresh k).2.saw_add (hc _))

/-- A computation for each entry of a list is confined if it is for every value. The induction is on
the list, and the two results combine by `Confined.bind`. -/
theorem Confined.mapM {f : α → PlatformM β} (hf : ∀ v, (f v).Confined cs) (vs : List α) :
    (vs.mapM f).Confined cs := by
  induction vs with
  | nil => exact confined_pure []
  | cons v vs ih =>
    rw [List.mapM_cons]
    exact (hf v).bind fun _ => ih.bind fun _ => confined_pure _

end PlatformM

namespace Wgpu

variable {cs : List Concern}

section OnPlatform

open PlatformM

/-- The bind group layouts are objects, and nothing else is made with them. -/
theorem confined_layouts (ho : .object ∈ cs) : Layouts.make.Confined cs := by
  refine (confined_make fun _ => ho).bind fun _ => (confined_make fun _ => ho).bind fun _ => ?_
  exact (confined_make fun _ => ho).bind fun _ => (confined_make fun _ => ho).bind fun _ =>
    confined_pure _

/-- A pipeline with its shader module and its layout: three objects, or a refusal in the course of
them. -/
theorem confined_makePipeline (ho : .object ∈ cs) (name : String) (source : ProgramSource)
    (groups : List (Handle .bindGroupLayout)) (input : VertexInput) (blend : BlendMode)
    (format : TextureFormat) :
    (makePipeline name source groups input blend format).Confined cs := by
  refine (confined_ofExcept _).bind fun text => (confined_ask _ _).bind fun refusal => ?_
  cases refusal with
  | some log => exact confined_throw _
  | none =>
    refine (confined_make fun _ => ho).bind fun _ => (confined_make fun _ => ho).bind fun _ => ?_
    exact confined_make fun _ => ho

/-- A texture on the device is a texture, its pixels, a view and a group. -/
theorem confined_upload (ho : .object ∈ cs) (t : Texture) (format : TextureFormat)
    (layout : Handle .bindGroupLayout) (sampler : Handle .sampler) :
    (Atlas.upload t format layout sampler).Confined cs := by
  refine (confined_make fun _ => ho).bind fun _ => (confined_give ho).bind fun _ => ?_
  exact (confined_make fun _ => ho).bind fun _ => (confined_make fun _ => ho).bind fun _ =>
    confined_pure _

/-- The texture of an offscreen target with its view. -/
theorem confined_renderTarget (ho : .object ∈ cs) (index : Nat) (size : SurfaceSize)
    (format : TextureFormat) :
    (RenderTarget.make index size format).Confined cs :=
  (confined_make fun _ => ho).bind fun _ => (confined_make fun _ => ho).bind fun _ =>
    confined_pure _

/-- The single pixel that is bound to the channels nothing is read from. -/
theorem confined_makeEmptyView (ho : .object ∈ cs) : makeEmptyView.Confined cs := by
  refine (confined_make fun _ => ho).bind fun _ => (confined_give ho).bind fun _ => ?_
  exact (confined_make fun _ => ho).bind fun _ => (confined_give ho).bind fun _ => confined_pure _

/-- A push into an arena may replace the buffer of the arena by a larger one, and it writes. That is
about buffers, and the larger one is an object. -/
theorem confined_push (hb : .buffer ∈ cs) (ho : .object ∈ cs) (arena : FrameArena)
    (bytes : List UInt8) :
    (arena.push bytes).Confined cs := by
  unfold FrameArena.push
  obtain ⟨offset, grown, after⟩ := arena.arena.push bytes.length
  cases grown with
  | none => exact (confined_give ho).bind fun _ => confined_pure _
  | some capacity =>
    refine (confined_say _ _ _).bind fun _ => (confined_make fun _ => hb).bind fun _ => ?_
    exact (confined_give hb).bind fun _ => (confined_give ho).bind fun _ => confined_pure _

/-- A request that the host may refuse gives its command in both cases. -/
theorem Adapter.confined_attempt {c : Command} (hc : c.concern ∈ cs) (what : String)
    (refusal : Option String) :
    (attempt c what refusal).Confined cs := by
  refine (confined_give hc).bind fun _ => ?_
  cases refusal with
  | none => exact confined_pure _
  | some reason => exact confined_throw _

/-- To open a device, commands are given to the surface and to the device. -/
theorem Adapter.confined_openDevice (hs : .surface ∈ cs) (ho : .object ∈ cs) (size : SurfaceSize)
    (o : DeviceOptions) :
    (openDevice size o).Confined cs := by
  refine confined_get_bind fun p => (confined_give ho).bind fun _ => ?_
  -- a surface, an adapter and a device, each of which may be refused
  refine (confined_ask _ _).bind fun _ => (confined_attempt ho _ _).bind fun _ => ?_
  refine (confined_ask _ _).bind fun _ => (confined_attempt ho _ _).bind fun _ => ?_
  refine (confined_ask _ _).bind fun _ => (confined_attempt ho _ _).bind fun _ => ?_
  refine (confined_ask _ _).bind fun capabilities => ?_
  cases SurfaceConfig.choose? capabilities size o with
  | none => exact confined_throw _
  | some config =>
    exact (confined_give hs).bind fun _ => (confined_say _ _ _).bind fun _ => confined_pure _

/-- A buffer that is made with its contents is made and written. -/
theorem Adapter.confined_filledBuffer (hb : .buffer ∈ cs) (label : String) (bytes : List UInt8)
    (use : BufferUse) :
    (filledBuffer label bytes use).Confined cs :=
  (confined_make fun _ => hb).bind fun _ => confined_pure _

/-- A new arena makes a buffer of its first capacity and nothing else. -/
theorem confined_arena (hb : .buffer ∈ cs) (label : String) (use : BufferUse)
    (capacity alignment : Nat) :
    (FrameArena.make label use capacity alignment).Confined cs :=
  (confined_make fun _ => hb).bind fun _ => confined_pure _

/-- To connect an adapter, no frame is begun. -/
theorem Adapter.confined_connect (hs : .surface ∈ cs) (hb : .buffer ∈ cs) (ho : .object ∈ cs)
    (size : SurfaceSize) (o : DeviceOptions) : (connect size o).Confined cs := by
  refine (confined_openDevice hs ho size o).bind fun config =>
    (confined_layouts ho).bind fun layouts => ?_
  refine (confined_makePipeline ho _ _ _ _ _ _).bind fun _ =>
    (confined_makePipeline ho _ _ _ _ _ _).bind fun _ => ?_
  refine (confined_makePipeline ho _ _ _ _ _ _).bind fun _ =>
    (confined_makePipeline ho _ _ _ _ _ _).bind fun _ => ?_
  refine (confined_filledBuffer hb _ _ _).bind fun _ =>
    (confined_filledBuffer hb _ _ _).bind fun _ => ?_
  refine (confined_make fun _ => hb).bind fun _ => (confined_make fun _ => ho).bind fun _ => ?_
  refine confined_get_bind fun _ => (confined_arena hb _ _ _ _).bind fun _ => ?_
  refine (confined_arena hb _ _ _ _).bind fun _ => (confined_arena hb _ _ _ _).bind fun _ => ?_
  refine (confined_make fun _ => ho).bind fun _ => ?_
  exact (confined_make fun _ => ho).bind fun _ => (confined_makeEmptyView ho).bind fun _ =>
    confined_pure _

end OnPlatform

/-! ## Adapters -/

namespace AdapterM

variable {α β κ : Type} {keep : Adapter → κ} {v : κ} {m : AdapterM α} {f : α → AdapterM β}

/-- The computation gives commands of some concerns alone, and leaves a part of the adapter as it
is. -/
def Confined (cs : List Concern) (keep : Adapter → κ) (v : κ) (m : AdapterM α) : Prop :=
  ∀ s r s', keep s.adapter = v → m.Leads s r s' → keep s'.adapter = v ∧
    s.platform.Saw cs s'.platform

theorem confined_pure (x : α) : (pure x : AdapterM α).Confined cs keep v := by
  intro s r s' hs h
  obtain ⟨-, rfl⟩ := leads_pure h
  exact ⟨hs, .refl _⟩

/-- A refusal leaves the adapter as it was. -/
theorem confined_throw (e : RenderError) : (throw e : AdapterM α).Confined cs keep v := by
  intro s r s' hs h
  obtain ⟨-, rfl⟩ := leads_throw h
  exact ⟨hs, .refl _⟩

theorem confined_ofExcept (known : Except RenderError α) :
    (ofExcept known : AdapterM α).Confined cs keep v := by
  intro s r s' hs h
  obtain ⟨-, rfl⟩ := leads_ofExcept h
  exact ⟨hs, .refl _⟩

/-- Setting the adapter to one whose kept part has the value `v`. This is the only lemma that looks
at the kept part of a changed adapter. -/
theorem confined_set {a : Adapter} (ha : keep a = v) :
    (set a : AdapterM PUnit).Confined cs keep v := by
  intro s r s' _ h
  obtain ⟨-, rfl⟩ := leads_set h
  exact ⟨ha, .refl _⟩

/-- Sequencing, for computations of the adapter: both the concerns and the kept part go through,
also where the first part refuses. -/
theorem Confined.bind (hm : m.Confined cs keep v) (hf : ∀ x, (f x).Confined cs keep v) :
    (m >>= f).Confined cs keep v := by
  intro s r s' hs h
  rcases leads_bind h with ⟨e, -, h⟩ | ⟨x, t, h, h'⟩
  · exact hm _ _ _ hs h
  · obtain ⟨ht, saw⟩ := hm _ _ _ hs h
    obtain ⟨hs', saw'⟩ := hf x _ _ _ ht h'
    exact ⟨hs', saw.trans saw'⟩

/-- What is read of the adapter is an adapter with the same part. -/
theorem confined_get_bind {f : Adapter → AdapterM β}
    (hf : ∀ a, keep a = v → (f a).Confined cs keep v) :
    ((get : AdapterM Adapter) >>= f).Confined cs keep v :=
  fun s _ _ hs h => hf s.adapter hs _ _ _ hs (leads_get_bind h)

/-- A change of fields that the kept part does not read can be put in front of a confined
computation. -/
theorem confined_modify_bind {g : Adapter → Adapter} {f : PUnit → AdapterM β}
    (hg : ∀ a, keep (g a) = keep a) (hf : (f ⟨⟩).Confined cs keep v) :
    ((modify g : AdapterM PUnit) >>= f).Confined cs keep v :=
  fun s _ _ hs h => hf { s with adapter := g s.adapter } _ _ ((hg s.adapter).trans hs)
    (leads_modify_bind h)

/-- What only uses the platform cannot touch the adapter, so its kept part needs no hypothesis. -/
theorem confined_onPlatform {m : PlatformM α} (hm : m.Confined cs) :
    (onPlatform m).Confined cs keep v := by
  intro s r s' hs h
  obtain ⟨ha, h⟩ := leads_onPlatform h
  exact ⟨ha ▸ hs, hm _ _ _ h⟩

/-- Commands given by the adapter. -/
theorem confined_giveAll {ds : List Command} (hc : ∀ c ∈ ds, c.concern ∈ cs) :
    (giveAll ds).Confined cs keep v :=
  confined_onPlatform (PlatformM.confined_giveAll hc)

/-- A record of the log, in the adapter's own voice. -/
theorem confined_say (severity : Severity) (text : String) :
    (say severity text).Confined cs keep v :=
  confined_onPlatform (PlatformM.confined_say _ _ _)

/-- Objects made by the adapter. -/
theorem confined_make {k : ObjectKind} {command : Handle k → Command}
    (hc : ∀ h, (command h).concern ∈ cs) :
    (make command).Confined cs keep v :=
  confined_onPlatform (PlatformM.confined_make hc)

/-- The same computation for each entry of a list. -/
theorem Confined.mapM {f : α → AdapterM β} (hf : ∀ x, (f x).Confined cs keep v) (xs : List α) :
    (xs.mapM f).Confined cs keep v := by
  induction xs with
  | nil => exact confined_pure []
  | cons x xs ih =>
    rw [List.mapM_cons]
    exact (hf x).bind fun _ => ih.bind fun _ => confined_pure _

end AdapterM

namespace Adapter

open AdapterM

variable {κ : Type} {keep : Adapter → κ} {v : κ}

/-- What is done only while a frame is recorded: outside of one it comes to nothing, so the
computation inside is all there is to look at. -/
theorem confined_inFrame {m : Frame → AdapterM Unit} (hm : ∀ f, (m f).Confined cs keep v) :
    (inFrame m).Confined cs keep v := by
  refine confined_get_bind fun a _ => ?_
  cases a.frame with
  | none => exact confined_pure _
  | some f => exact hm f

/-- The group of the channels of an effect is one object. -/
theorem confined_channelGroup (ho : .object ∈ cs) (inputs : List Nat) (output : Target) :
    (channelGroup inputs output).Confined cs keep v := by
  have input : ∀ channel slot, (channelInput output channel slot).Confined cs keep v := by
    intro channel slot
    refine confined_get_bind fun a _ => ?_
    cases slot with
    | none => exact confined_pure _
    | some slot =>
      dsimp only
      split
      · exact (confined_say _ _).bind fun _ => confined_pure _
      · exact (confined_ofExcept _).bind fun _ => confined_pure _
  exact (Confined.mapM (fun _ => input _ _) _).bind fun _ => confined_get_bind fun _ _ =>
    confined_make fun _ => ho

/-! ### Passes -/

section Passes

variable (hp : .pass ∈ cs)

include hp

/-- A pass is resolved, begun, drawn and ended. All its commands are about passes, given that the
draws between begin and end are. -/
theorem confined_pass (f : Frame) (label : String) (target : Target) (load : Load)
    {draws : List Command} (hd : ∀ c ∈ draws, c.concern = .pass) :
    (pass f label target load draws).Confined cs keep v := by
  refine confined_get_bind fun _ _ => (confined_ofExcept _).bind fun view =>
    confined_giveAll fun c hc => ?_
  have within : c.concern = .pass := by
    rcases List.mem_cons.mp hc with rfl | hc
    · rfl
    · rcases List.mem_append.mp hc with hc | hc
      · exact hd c hc
      · rw [List.mem_singleton.mp hc]
        rfl
  exact within ▸ hp

/-- Clearing is a pass without draws. -/
theorem confined_clear (target : Target) (color : Color) :
    (clear target color).Confined cs keep v :=
  confined_inFrame fun _ => confined_pass hp _ _ _ _ fun _ hc => nomatch hc

omit hp in
/-- The commands that lead up to an instanced draw are commands of a pass. -/
theorem concern_bindInstances (a : Adapter) (pipeline : Handle .renderPipeline) (slice : Slice) :
    ∀ c ∈ a.bindInstances pipeline slice, c.concern = .pass := by
  simp [bindInstances, Command.concern]

omit hp in
/-- A run of sprites gives two commands if its texture is known, and none otherwise; either way they
belong to the pass. -/
theorem concern_drawRun (a : Adapter) (run : DrawCall) :
    ∀ c ∈ a.drawRun run, c.concern = .pass := by
  unfold drawRun
  split <;> simp [Command.concern]

/-- Sprites are drawn in one pass, the runs in order. A buffer that is not known is refused before
the pass begins. -/
theorem confined_drawSprites (target : Target) (mode : SpriteMode) (id : BufferId)
    (calls : List DrawCall) :
    (drawSprites target mode id calls).Confined cs keep v := by
  refine confined_get_bind fun a _ => ?_
  cases calls.find? fun c => (a.atlases.lookup c.texture).isNone with
  | some c => exact confined_throw _
  | none =>
    cases a.buffers.lookup id with
    | none => exact confined_say _ _
    | some b =>
      refine confined_inFrame fun f => ?_
      split
      · exact confined_pure _
      · refine confined_pass hp _ _ _ _ fun c hc => ?_
        rcases List.mem_append.mp hc with hc | hc
        · exact concern_bindInstances _ _ _ c hc
        · obtain ⟨run, -, hc⟩ := List.mem_flatMap.mp hc
          exact concern_drawRun _ run c hc

/-- The pass that draws a light from a place in an arena. -/
theorem confined_lightPass (a : Adapter) (f : Frame) (target : Target) (slice : Slice) :
    Confined cs keep v (pass f "tessera light" target .keep
      (a.bindInstances a.light slice ++ [.drawIndexed UnitSquare.indexCount 0 1])) :=
  confined_pass hp _ _ _ _ <| List.forall_mem_append.mpr
    ⟨concern_bindInstances _ _ _, List.forall_mem_singleton.mpr rfl⟩

/-- The pass that draws shadows from a place in an arena. -/
theorem confined_shadowPass (a : Adapter) (f : Frame) (target : Target) (slice : Slice)
    (corners : Nat) :
    (pass f "tessera shadows" target .keep
      [.setPipeline a.shadow, .setBindGroup 0 a.cameraGroup, .setVertexBuffer 0 slice,
        .draw corners]).Confined
      cs keep v :=
  confined_pass hp _ _ _ _ (by simp [Command.concern])

/-- The pass that runs an effect with a block of uniforms in an arena. -/
theorem confined_programPass (ho : .object ∈ cs) (a : Adapter) (f : Frame) (name : String)
    (program : Program) (inputs : List Nat) (output : Target) (load : Load) (slice : Slice) :
    (do
      let block ← AdapterM.make fun h => Command.createBindGroup h name a.layouts.uniforms
        [.buffer slice.buffer slice.offset (some program.layout.byteLength)]
      let channels ← channelGroup inputs output
      pass f name output load [.setPipeline program.pipeline, .setBindGroup 0 block,
        .setBindGroup 1 channels, .draw 3]
      : AdapterM Unit).Confined cs keep v := by
  refine (confined_make fun _ => ho).bind fun block =>
    (confined_channelGroup ho _ _).bind fun channels => ?_
  exact confined_pass hp _ _ _ _ (by simp [Command.concern])

end Passes

/-! ### Objects and frames -/

section Objects

variable (ho : .object ∈ cs)

include ho

/-- Loading a texture replaces the one of the same name, so only `atlases` may change. -/
theorem confined_loadTexture (hk : ∀ (a : Adapter) x, keep { a with atlases := x } = keep a)
    (t : Texture) :
    (loadTexture t).Confined cs keep v := by
  refine (confined_ofExcept _).bind fun _ => confined_get_bind fun a ha => ?_
  refine (confined_onPlatform (confined_upload ho _ _ _ _)).bind fun atlas => ?_
  refine (confined_set ((hk a _).trans ha)).bind fun _ => confined_giveAll fun c hc => ?_
  obtain ⟨old, -, rfl⟩ := Option.map_eq_some_iff.mp (Option.mem_toList.mp hc)
  exact ho

/-- Compiling an effect replaces the pipeline of its name, so only `programs` may change. -/
theorem confined_compileProgram (hk : ∀ (a : Adapter) x, keep { a with programs := x } = keep a)
    (name : String) (p : EffectProgram) : (compileProgram name p).Confined cs keep v :=
  confined_get_bind fun a ha =>
    (confined_onPlatform (confined_makePipeline ho _ _ _ _ _ _)).bind fun _ =>
    confined_set ((hk a _).trans ha)

/-- The offscreen targets are made anew and the old ones given up; only `targets` may change. -/
theorem confined_remakeTargets (ht : ∀ (a : Adapter) x, keep { a with targets := x } = keep a)
    (surface : SurfaceSize) (sizes : List SurfaceSize) :
    (remakeTargets surface sizes).Confined cs keep v := by
  refine confined_get_bind fun a ha => ?_
  refine Confined.bind (confined_onPlatform (.mapM (fun _ => confined_renderTarget ho _ _ _) _))
    fun targets => ?_
  refine (confined_set ((ht a _).trans ha)).bind fun _ => Confined.bind ?_ fun _ => confined_say _ _
  exact confined_giveAll (List.forall_mem_map.mpr fun _ _ => ho)

omit ho in
/-- Configuring the surface gives one command about the surface and remembers the configuration in
`config`. -/
theorem confined_configureSurface (hs : .surface ∈ cs)
    (hc : ∀ (a : Adapter) x, keep { a with config := x } = keep a) (surface : SurfaceSize) :
    (configureSurface surface).Confined cs keep v := by
  unfold configureSurface
  split
  · exact confined_pure _
  · refine confined_get_bind fun a ha => (confined_set ((hc a _).trans ha)).bind fun _ => ?_
    exact confined_giveAll (List.forall_mem_singleton.mpr hs)

/-- The surface first, then the offscreen targets. The two fields that may change are those of the
two parts. -/
theorem confined_configureTargets (hs : .surface ∈ cs)
    (hc : ∀ (a : Adapter) x, keep { a with config := x } = keep a)
    (ht : ∀ (a : Adapter) x, keep { a with targets := x } = keep a) (surface : SurfaceSize)
    (sizes : List SurfaceSize) :
    (configureTargets surface sizes).Confined cs keep v :=
  (confined_configureSurface hs hc surface).bind fun _ => confined_remakeTargets ho ht surface sizes

/-- Writing sprites into a buffer reads the tables and changes none of them. -/
theorem confined_writeInstances (id : BufferId) (instances : List SpriteInstance) :
    (writeInstances id instances).Confined cs keep v := by
  refine confined_get_bind fun a _ => ?_
  cases a.buffers.lookup id with
  | none => exact confined_say _ _
  | some b =>
    dsimp only
    split
    · exact confined_pure _
    · exact confined_giveAll (List.forall_mem_singleton.mpr ho)

omit ho in
/-- One attempt to acquire the image of a frame. The command is about frames; what comes of it may
have the surface configured again. -/
theorem confined_acquireOnce (hs : .surface ∈ cs) (hf : .frame ∈ cs) :
    acquireOnce.Confined cs keep v := by
  have lacks : ∀ e, (lackTexture e).Confined cs keep v := by
    intro e
    refine (confined_giveAll (List.forall_mem_singleton.mpr hf)).bind fun _ => ?_
    split
    · refine confined_get_bind fun a _ =>
        (confined_giveAll (List.forall_mem_singleton.mpr hs)).bind fun _ => ?_
      exact confined_pure _
    split
    · exact confined_throw _
    · exact (confined_say _ _).bind fun _ => confined_pure _
  refine (confined_onPlatform (PlatformM.confined_ask _ _)).bind fun error => ?_
  cases error with
  | none =>
    refine (confined_make fun _ => hf).bind fun _ => (confined_make fun _ => hf).bind fun _ => ?_
    exact (confined_make fun _ => hf).bind fun _ => confined_pure _
  | some e => exact lacks e

omit ho in
/-- As many attempts as are allowed. The induction is on their number. -/
theorem confined_acquire (hs : .surface ∈ cs) (hf : .frame ∈ cs) (n : Nat) :
    (acquire n).Confined cs keep v := by
  induction n with
  | zero => exact confined_pure _
  | succ n ih =>
    refine (confined_acquireOnce hs hf).bind fun acquired => ?_
    cases acquired with
    | retry => exact ih
    | _ => exact confined_pure _

/-- A frame begins with an image or with a refusal, and `frame` is the only field that records
which. -/
theorem confined_beginFrame (hs : .surface ∈ cs) (hf : .frame ∈ cs)
    (hk : ∀ (a : Adapter) x, keep { a with frame := x } = keep a)
    (hr : ∀ (a : Adapter) x, keep { a with
      frame := x, uniforms := a.uniforms.reset, lights := a.lights.reset,
        shadows := a.shadows.reset } = keep a)
    (visible : Rect) : (beginFrame visible).Confined cs keep v := by
  refine confined_get_bind fun a _ => Confined.bind (confined_giveAll fun c hc => ?_) fun _ => ?_
  · obtain ⟨f, -, rfl⟩ := Option.map_eq_some_iff.mp (Option.mem_toList.mp hc)
    exact hf
  refine confined_modify_bind (fun a => hk a none) ?_
  refine (confined_acquire hs hf 2).bind fun frame => confined_get_bind fun a ha => ?_
  refine (confined_giveAll (List.forall_mem_singleton.mpr ho)).bind fun _ => ?_
  exact confined_set ((hr a frame).trans ha)

end Objects

/-- The frame is taken from the adapter before it is submitted and presented. -/
theorem confined_endFrame (hf : .frame ∈ cs)
    (hk : ∀ (a : Adapter) x, keep { a with frame := x } = keep a) :
    endFrame.Confined cs keep v := by
  refine confined_inFrame fun f => confined_modify_bind (fun a => hk a none) ?_
  exact confined_giveAll (by simp [Command.concern, hf])

/-! ### Buffers -/

section Buffers

variable (hb : .buffer ∈ cs)

include hb

/-- A created buffer is numbered and entered in a table. The number and the table are the two fields
that change. -/
theorem confined_createBuffer (hk : ∀ (a : Adapter) n x,
    keep { a with nextBuffer := n, buffers := x } = keep a)
    (capacity : Nat) : (createBuffer capacity).Confined cs keep v := by
  refine (confined_make fun _ => hb).bind fun buffer => confined_get_bind fun a ha => ?_
  refine (confined_set ((hk a _ _).trans ha)).bind fun _ =>
    Confined.bind ?_ fun _ => confined_pure _
  refine confined_giveAll fun c hc => ?_
  obtain ⟨old, -, rfl⟩ := Option.map_eq_some_iff.mp (Option.mem_toList.mp hc)
  exact hb

/-- A freed buffer leaves the table; one that is not in it is left alone. -/
theorem confined_freeBuffer (hk : ∀ (a : Adapter) x, keep { a with buffers := x } = keep a)
    (id : BufferId) :
    (freeBuffer id).Confined cs keep v := by
  refine confined_get_bind fun a ha => ?_
  cases a.buffers.lookup id with
  | none => exact confined_say _ _
  | some b =>
    exact (confined_set ((hk a _).trans ha)).bind fun _ =>
      confined_giveAll (List.forall_mem_singleton.mpr hb)

variable (ho : .object ∈ cs) (hp : .pass ∈ cs)

include ho hp

/-- A light is pushed into its arena and drawn from there in a pass of its own; only the arena may
change. -/
theorem confined_drawLight (hk : ∀ (a : Adapter) x, keep { a with lights := x } = keep a)
    (target : Target) (light : LightInstance) : (drawLight target light).Confined cs keep v :=
  confined_inFrame fun _ => confined_get_bind fun a ha =>
    (confined_onPlatform (confined_push hb ho _ _)).bind fun _ =>
    (confined_set ((hk a _).trans ha)).bind fun _ => confined_lightPass hp _ _ _ _

/-- Shadows are pushed and drawn in the same way, from their own arena. -/
theorem confined_drawShadows (hk : ∀ (a : Adapter) x, keep { a with shadows := x } = keep a)
    (target : Target) (triangles : List Vec2) :
    (drawShadows target triangles).Confined cs keep v := by
  refine confined_inFrame fun f => ?_
  split
  · exact confined_pure _
  · exact confined_get_bind fun a ha =>
      (confined_onPlatform (confined_push hb ho _ _)).bind fun _ =>
      (confined_set ((hk a _).trans ha)).bind fun _ => confined_shadowPass hp _ _ _ _ _

/-- An effect pushes its uniforms, binds its channels and draws one triangle. The arena of the
uniforms is what may change. -/
theorem confined_runProgram (hk : ∀ (a : Adapter) x, keep { a with uniforms := x } = keep a)
    (name : String) (inputs : List Nat) (output : Target) (uniforms : List Scalar)
    (clear : Option Color) :
    (runProgram name inputs output uniforms clear).Confined cs keep v := by
  refine confined_get_bind fun a _ => ?_
  cases a.programs.lookup name with
  | none => exact confined_throw _
  | some p =>
    exact confined_inFrame fun _ => confined_get_bind fun a ha =>
      (confined_onPlatform (confined_push hb ho _ _)).bind fun _ =>
        (confined_set ((hk a _).trans ha)).bind fun _ =>
        confined_programPass hp ho _ _ _ _ _ _ _ _

end Buffers

/-! ### All commands -/

/-- A part of an adapter that commands do not set, or only effects do, is left as it is by all other
commands. -/
theorem confined_execute {c : LitTiles.Command}
    (atlases : ∀ (a : Adapter) x, keep { a with atlases := x } = keep a)
    (programs : ∀ name p, c = .compileProgram name p → ∀ (a : Adapter) x,
      keep { a with programs := x } = keep a)
    (config : ∀ (a : Adapter) x, keep { a with config := x } = keep a)
    (targets : ∀ (a : Adapter) x, keep { a with targets := x } = keep a)
    (frame : ∀ (a : Adapter) x, keep { a with frame := x } = keep a)
    (uniforms : ∀ (a : Adapter) x, keep { a with uniforms := x } = keep a)
    (lights : ∀ (a : Adapter) x, keep { a with lights := x } = keep a)
    (shadows : ∀ (a : Adapter) x, keep { a with shadows := x } = keep a) :
    (execute c).Confined Concern.all keep v := by
  cases c with
  | loadTexture t => exact confined_loadTexture (by decide) atlases t
  | compileProgram name p => exact confined_compileProgram (by decide) (programs name p rfl) name p
  | configureTargets surface sizes =>
    exact confined_configureTargets (by decide) (by decide) config targets surface sizes
  | writeInstances id instances => exact confined_writeInstances (by decide) id instances
  | beginFrame visible =>
    refine confined_beginFrame (by decide) (by decide) (by decide) frame (fun a x => ?_) visible
    -- a new frame sets four fields, one after the other
    let framed : Adapter := { a with frame := x }
    let unset : Adapter := { framed with uniforms := a.uniforms.reset }
    let unlit : Adapter := { unset with lights := a.lights.reset }
    calc keep { unlit with shadows := a.shadows.reset }
        = keep unlit := shadows unlit _
      _ = keep unset := lights unset _
      _ = keep framed := uniforms framed _
      _ = keep a := frame a x
  | clear target color => exact confined_clear (by decide) target color
  | drawSprites target mode id calls => exact confined_drawSprites (by decide) target mode id calls
  | drawLight target light =>
    exact confined_drawLight (by decide) (by decide) (by decide) lights target light
  | drawShadows target corners =>
    exact confined_drawShadows (by decide) (by decide) (by decide) shadows target corners
  | runProgram name inputs output values clear =>
    exact confined_runProgram (by decide) (by decide) (by decide)
      uniforms name inputs output values clear
  | endFrame => exact confined_endFrame (by decide) frame

end Adapter

end Wgpu

end LitTiles
