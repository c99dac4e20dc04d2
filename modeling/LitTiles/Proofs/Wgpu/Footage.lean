import LitTiles.Proofs.Wgpu.Conduct
import LitTiles.Proofs.Wgpu.Drawing

/-!
# What is filmed

The footage of a platform is the part of its commands that is about textures of surfaces and about
encoders: how they are made, the passes that are recorded, and how a frame ends. Between two states
of a platform some footage was `Filmed`.

Most computations are `Offstage`: they film nothing, and leave the frame of the adapter as it is. A
call that draws films a pass if and only if it succeeds and there is something to draw
(`Session.shoots_execute`).
-/

namespace LitTiles

open Wgpu

/-- The call begins or ends a frame. -/
def Call.isCut : Call → Bool
  | .issue (.beginFrame _) | .issue .endFrame => true
  | _ => false

namespace Wgpu

/-- Something that belongs to a frame. -/
inductive Subject where
  /-- A texture of the surface. -/
  | texture (t : Handle .surfaceTexture)
  /-- An encoder. -/
  | encoder (e : Handle .encoder)
  deriving DecidableEq

/-- What a command is about, if that belongs to a frame. -/
def Command.subject? : Command → Option Subject
  | .acquire t | .createSurfaceView _ t | .present t | .discard t => some (.texture t)
  | .createEncoder e _ | .beginPass e _ _ _ | .finish e | .submit e => some (.encoder e)
  | _ => none

end Wgpu

/-! ## Platforms -/

namespace Platform

/-- The commands about frames so far. -/
def footage (p : Platform) : List Wgpu.Command := p.commands.filter (·.subject?.isSome)

/-- From one state of a platform to the other some footage was added; numbers are never taken
back. -/
structure Filmed (p : Platform) (cs : List Wgpu.Command) (p' : Platform) : Prop where
  /-- The footage. -/
  footage : p'.footage = p.footage ++ cs
  /-- Objects that were made stay numbered. -/
  made : ∀ k, p.made k ≤ p'.made k

variable {p p₁ p₂ : Platform} {cs ds : List Wgpu.Command}

theorem filmed_nil (p : Platform) : p.Filmed [] p :=
  ⟨(List.append_nil _).symm, fun _ => Nat.le_refl _⟩

/-- What was filmed in two stretches is the concatenation, and numbers only grow. -/
theorem Filmed.append (h : p.Filmed cs p₁) (h' : p₁.Filmed ds p₂) : p.Filmed (cs ++ ds) p₂ where
  footage := by rw [h'.footage, h.footage, List.append_assoc]
  made k := Nat.le_trans (h.made k) (h'.made k)

/-- A happening is filmed if it is a command with a subject. -/
theorem filmed_add (p : Platform) (e : Happening) :
    p.Filmed (e.command?.toList.filter (·.subject?.isSome)) (p.add e) where
  footage := by rw [Platform.footage, (p.gave_add e).commands, List.filter_append, Platform.footage]
  made _ := Nat.le_refl _

/-- Of a row of commands those with a subject are filmed. -/
theorem filmed_addAll (p : Platform) (cs : List Wgpu.Command) :
    p.Filmed (cs.filter (·.subject?.isSome)) (p.addAll cs) where
  footage := by
    rw [Platform.footage, (p.gave_addAll cs).commands, List.filter_append, Platform.footage]
  made _ := Nat.le_refl _

theorem filmed_fresh (p : Platform) (k : ObjectKind) : p.Filmed [] (p.fresh k).2 where
  footage := (List.append_nil _).symm
  made k' := by
    rw [fresh]
    dsimp only
    split
    · rename_i hk
      rw [hk]
      exact Nat.le_succ _
    · exact Nat.le_refl _

end Platform

/-- What commands are about that are not filmed. -/
def Wgpu.Concern.offstage : List Concern := [.surface, .buffer, .object]

/-- Commands about other things than textures of surfaces, frames and passes have no subject. -/
theorem Wgpu.Command.subject_of_concern {c : Wgpu.Command} (h : c.concern ∈ Concern.offstage) :
    c.subject? = none := by
  cases c <;> first | rfl | simp [Command.concern, Concern.offstage] at h

/-- A stretch that is confined to such concerns films nothing. -/
theorem Platform.Saw.filmed {p p' : Platform} (h : p.Saw Concern.offstage p') : p.Filmed [] p' where
  footage := by
    obtain ⟨more, grown, within⟩ := h.history
    have unfilmed : (more.filterMap Happening.command?).filter (·.subject?.isSome) = [] := by
      refine List.filter_eq_nil_iff.mpr fun c hc => ?_
      obtain ⟨e, he, command⟩ := List.mem_filterMap.mp hc
      cases e with
      | device d =>
        obtain rfl := Option.some.inj command
        simp [Wgpu.Command.subject_of_concern (within _ he)]
      | _ => cases command
    rw [Platform.footage, Platform.commands, grown, List.filterMap_append,
      List.filter_append, unfilmed]
    rfl
  made := h.made

namespace PlatformM

variable {α : Type}

/-- The computation films nothing. -/
def Offstage (m : PlatformM α) : Prop := ∀ p r p', m.Leads p r p' → p.Filmed [] p'

/-- What gives no command with a subject films nothing. -/
theorem Confined.offstage {m : PlatformM α} (hm : m.Confined Concern.offstage) : m.Offstage :=
  fun p r p' h => (hm p r p' h).filmed

end PlatformM

namespace Wgpu

theorem offstage_push (arena : FrameArena) (bytes : List UInt8) : (arena.push bytes).Offstage :=
  (confined_push (by decide) (by decide) arena bytes).offstage

/-! ## Adapters -/

namespace AdapterM

variable {α β : Type} {m : AdapterM α} {f : α → AdapterM β} {fr : Option Frame} {cs : List Command}

/-- The computation films nothing, and leaves a frame of the adapter as it is. -/
def Offstage (fr : Option Frame) (m : AdapterM α) : Prop :=
  ∀ s r s', s.adapter.frame = fr → m.Leads s r s' →
    s'.adapter.frame = fr ∧ s.platform.Filmed [] s'.platform

/-- For a computation of the adapter the frame has to be the part that is kept. -/
theorem Confined.offstage (hm : m.Confined Concern.offstage Adapter.frame fr) : m.Offstage fr := by
  intro s r s' hs h
  obtain ⟨frame, saw⟩ := hm s r s' hs h
  exact ⟨frame, saw.filmed⟩

/-- Of commands that are given what is about frames is filmed. -/
theorem filmed_giveAll {s s' : Session} {r : Except RenderError Unit}
    (h : (giveAll cs).Leads s r s') :
    r = .ok () ∧ s'.adapter = s.adapter ∧
    s.platform.Filmed (cs.filter (·.subject?.isSome)) s'.platform := by
  obtain ⟨rfl, rfl⟩ := Prod.mk.inj h
  exact ⟨rfl, rfl, s.platform.filmed_addAll cs⟩

/-- A row of commands at the front of a `do` block; what is filmed can be computed from the row. -/
theorem filmed_giveAll_bind {f : Unit → AdapterM β} {s s' : Session} {r : Except RenderError β}
    (h : (giveAll cs >>= f).Leads s r s') :
    ∃ t, t.adapter = s.adapter ∧ s.platform.Filmed (cs.filter (·.subject?.isSome)) t.platform ∧
      (f ()).Leads t r s' := by
  rcases leads_bind h with ⟨e, -, hg⟩ | ⟨⟨⟩, t, hg, h⟩
  · obtain ⟨he, -⟩ := filmed_giveAll hg
    cases he
  · obtain ⟨-, ha, filmed⟩ := filmed_giveAll hg
    exact ⟨t, ha, filmed, h⟩

/-- A new object has the next number of its kind. -/
theorem filmed_make {k : ObjectKind} {command : Handle k → Command} {s s' : Session}
    {r : Except RenderError (Handle k)} (h : (make command).Leads s r s') :
    ∃ o, r = .ok o ∧ s'.adapter = s.adapter ∧ o.number = s.platform.made k + 1 ∧
    s'.platform.made k = o.number ∧
      s.platform.Filmed ([command o].filter (·.subject?.isSome)) s'.platform := by
  obtain ⟨rfl, rfl⟩ := Prod.mk.inj h
  exact ⟨_, rfl, rfl, rfl, if_pos rfl, (s.platform.filmed_fresh k).append
    ((s.platform.fresh k).2.filmed_add (.device (command (s.platform.fresh k).1)))⟩

/-- An object made at the front of a `do` block. Its number is noted, since encoders are followed by
their numbers. -/
theorem filmed_make_bind {k : ObjectKind} {command : Handle k → Command}
    {f : Handle k → AdapterM β} {s s' : Session} {r : Except RenderError β}
    (h : (make command >>= f).Leads s r s') :
    ∃ o t, t.adapter = s.adapter ∧ o.number = s.platform.made k + 1 ∧ t.platform.made k = o.number ∧
      s.platform.Filmed ([command o].filter (·.subject?.isSome)) t.platform ∧
      (f o).Leads t r s' := by
  rcases leads_bind h with ⟨e, -, hm⟩ | ⟨o, t, hm, h⟩
  · obtain ⟨o, ho, -⟩ := filmed_make hm
    cases ho
  · obtain ⟨o', ho, ha, number, last, filmed⟩ := filmed_make hm
    obtain rfl := Except.ok.inj ho
    exact ⟨o, t, ha, number, last, filmed, h⟩

theorem offstage_say (severity : Severity) (text : String) : (say severity text).Offstage fr :=
  (confined_say severity text).offstage

end AdapterM

namespace Adapter

open AdapterM

variable {fr : Option Frame}

theorem offstage_createBuffer (capacity : Nat) : (createBuffer capacity).Offstage fr :=
  (confined_createBuffer (by decide) (fun _ _ _ => rfl) capacity).offstage

theorem offstage_freeBuffer (id : BufferId) : (freeBuffer id).Offstage fr :=
  (confined_freeBuffer (by decide) (fun _ _ => rfl) id).offstage

/-- Inside a pass the commands have no subject of their own. Their pass has. -/
theorem subject_bindInstances (a : Adapter) (pipeline : Handle .renderPipeline) (slice : Slice) :
    ∀ c ∈ a.bindInstances pipeline slice, c.subject? = none := by
  simp [bindInstances, Command.subject?]

theorem subject_drawRun (a : Adapter) (run : DrawCall) :
    ∀ c ∈ a.drawRun run, c.subject? = none := by
  unfold drawRun
  split <;> simp [Command.subject?]

/-! ## Passes -/

/-- The pass of a frame that draws to a target. -/
def passTo (a : Adapter) (f : Frame) (label : String) (target : Target) (load : Load) :
    Option Command :=
  (a.view f target).toOption.map fun v => .beginPass f.encoder label v load

/-- The pass that a command records, on the frame that is under way. -/
def shot (a : Adapter) (f : Frame) : LitTiles.Command → Option Command
  | .clear target color => a.passTo f "tessera clear" target (.clear color)
  | .drawSprites target _ _ _ => a.passTo f "tessera sprites" target .keep
  | .drawLight target _ => a.passTo f "tessera light" target .keep
  | .drawShadows target _ => a.passTo f "tessera shadows" target .keep
  | .runProgram name _ output _ clear => a.passTo f name output ((clear.map .clear).getD .keep)
  | _ => none

/-- The command draws something: sprites come from a buffer that is known, and neither they nor
shadows are an empty list. -/
def hasShot (a : Adapter) : LitTiles.Command → Bool
  | .clear _ _ | .drawLight _ _ | .runProgram _ _ _ _ _ => true
  | .drawSprites _ _ id calls => (a.buffers.lookup id).isSome && !calls.isEmpty
  | .drawShadows _ corners => !corners.isEmpty
  | _ => false

/-- A command that does not draw is offstage, unless it begins or ends a frame. -/
theorem offstage_execute {c : LitTiles.Command} (hc : (Call.issue c).isCut = false)
    (hd : (Call.issue c).isDrawing = false) : (execute c).Offstage fr := by
  cases c with
  | loadTexture t => exact (confined_loadTexture (by decide) (fun _ _ => rfl) t).offstage
  | compileProgram name p =>
    exact (confined_compileProgram (by decide) (fun _ _ => rfl) name p).offstage
  | configureTargets surface sizes =>
    exact (confined_configureTargets (by decide) (by decide) (fun _ _ => rfl) (fun _ _ => rfl)
      surface sizes).offstage
  | writeInstances id instances => exact (confined_writeInstances (by decide) id instances).offstage
  | beginFrame visible | endFrame => cases hc
  | _ => cases hd

/-- Calls that are no drawing calls have nothing to film. -/
theorem hasShot_of_not_drawing {a : Adapter} {c : LitTiles.Command}
    (hd : (Call.issue c).isDrawing = false) :
    a.hasShot c = false := by
  cases c <;> first | rfl | cases hd

/-- The names that a command refers to are looked up even where there is no frame. -/
def checkNames (a : Adapter) : LitTiles.Command → Except RenderError Unit
  | .drawSprites _ _ _ calls =>
    match calls.find? fun c => (a.atlases.lookup c.texture).isNone with
    | some c => .error (.unknownTexture c.texture)
    | none => .ok ()
  | .runProgram name _ _ _ _ =>
    match a.programs.lookup name with
    | some _ => .ok ()
    | none => .error (.unknownProgram name)
  | _ => .ok ()

end Adapter

namespace Session

open AdapterM

variable {s s' t : Session} {f : Frame} {target : Target} {r : Except RenderError Unit}
  {c : LitTiles.Command}

/-- What was taken of a command: it succeeded, and drew something. -/
def takeOf (s : Session) (c : LitTiles.Command) (r : Except RenderError Unit) :
    Option (Adapter × LitTiles.Command) :=
  if s.adapter.hasShot c && r.isOk then some (s.adapter, c) else none

/-- A command films what was taken of it, and leaves the frame as it is. -/
def Shoots (s : Session) (f : Frame) (c : LitTiles.Command) (r : Except RenderError Unit)
    (s' : Session) : Prop :=
  s'.adapter.frame = s.adapter.frame ∧ ∃ shots, s.platform.Filmed shots s'.platform ∧
    shots.map some = (s.takeOf c r).toList.map fun take => take.1.shot f take.2

/-- A command that fails, or draws nothing, films nothing. -/
theorem shoots_nothing (hf : s'.adapter.frame = s.adapter.frame)
    (filmed : s.platform.Filmed [] s'.platform)
    (h : s.adapter.hasShot c = false ∨ ∃ e, r = .error e) : s.Shoots f c r s' := by
  refine ⟨hf, [], filmed, ?_⟩
  have nothing : s.takeOf c r = none := by
    rcases h with h | ⟨e, rfl⟩
    · rw [takeOf, h]
      rfl
    · rw [takeOf, Except.isOk, Except.toBool, Bool.and_false]
      rfl
  rw [nothing]
  rfl

/-- After something was prepared a pass is filmed, or its target is missing. -/
theorem shoots_pass {label : String} {load : Load} {draws : List Command}
    (h : (Adapter.pass f label target load draws).Leads t r s') (ht : s.SameTables t)
    (before : s.platform.Filmed [] t.platform) (hd : ∀ c ∈ draws, c.subject? = none)
    (has : s.adapter.hasShot c = true)
    (shot : s.adapter.shot f c = s.adapter.passTo f label target load) :
    s.Shoots f c r s' := by
  obtain ⟨u, l, sh, ha⟩ := ht
  have view : t.adapter.view f target = s.adapter.view f target := by
    rw [ha]
    rfl
  have frame : t.adapter.frame = s.adapter.frame := by rw [ha]
  replace h := leads_get_bind h
  rw [view] at h
  rcases leads_ofExcept_bind h with ⟨e, -, rfl, rfl⟩ | ⟨v, hv, h⟩
  · exact shoots_nothing frame before (.inr ⟨e, rfl⟩)
  obtain ⟨rfl, ha', filmed⟩ := filmed_giveAll h
  -- within a pass only its beginning names a view
  have pass : List.filter (·.subject?.isSome)
      (.beginPass f.encoder label v load :: draws ++ [.endPass]) =
      [.beginPass f.encoder label v load] := by
    have inside : draws.filter (·.subject?.isSome) = [] :=
      List.filter_eq_nil_iff.mpr fun c hm => by simp [hd c hm]
    rw [List.filter_append, List.filter_cons_of_pos rfl, inside]
    rfl
  rw [pass] at filmed
  refine ⟨ha'.symm ▸ frame, _, before.append filmed, ?_⟩
  have taken : s.takeOf c (.ok ()) = some (s.adapter, c) := by
    rw [takeOf, has]
    rfl
  rw [taken]
  simp [shot, Adapter.passTo, hv, Except.toOption]

/-- What is prepared offstage is followed by the next computation. -/
theorem leads_offstage_bind {α β : Type} {m : PlatformM α} {k : α → AdapterM β} {P : α → Prop}
    {r : Except RenderError β} (hm : m.Prepares P) (ho : m.Offstage)
    (h : (onPlatform m >>= k).Leads s r s') :
    ∃ v t, t.adapter = s.adapter ∧ s.platform.Filmed [] t.platform ∧ (k v).Leads t r s' := by
  rcases leads_bind h with ⟨e, -, hp⟩ | ⟨v, t, hp, h⟩
  · obtain ⟨-, hp⟩ := leads_onPlatform hp
    obtain ⟨⟨v, hv, -⟩, -⟩ := hm _ _ _ hp
    cases hv
  · obtain ⟨ha, hp⟩ := leads_onPlatform hp
    exact ⟨v, t, ha, ho _ _ _ hp, h⟩

/-- Clearing is one pass, which is filmed if the target is there. -/
theorem shoots_clear (hf : s.adapter.frame = some f) {color : Color}
    (h : (Adapter.clear target color).Leads s r s') :
    s.Shoots f (.clear target color) r s' :=
  shoots_pass (leads_inFrame hf h) (.refl s) s.platform.filmed_nil (fun _ hc => nomatch hc) rfl rfl

/-- Sprites are one pass if the buffer is known and there are runs to draw. -/
theorem shoots_drawSprites (hf : s.adapter.frame = some f) {mode : SpriteMode} {id : BufferId}
    {calls : List DrawCall} (h : (Adapter.drawSprites target mode id calls).Leads s r s') :
    s.Shoots f (.drawSprites target mode id calls) r s' := by
  replace h := leads_get_bind h
  -- refused, with an unknown buffer or without runs there is no pass
  split at h
  · obtain ⟨rfl, rfl⟩ := leads_throw h
    exact shoots_nothing rfl s'.platform.filmed_nil (.inr ⟨_, rfl⟩)
  split at h
  · rename_i hb
    obtain ⟨hs, filmed⟩ := offstage_say _ _ _ _ _ rfl h
    refine shoots_nothing hs filmed (.inl ?_)
    rw [Adapter.hasShot, hb]
    rfl
  rename_i b hb
  replace h := leads_inFrame hf h
  cases he : calls.isEmpty with
  | true =>
    rw [he] at h
    obtain ⟨-, rfl⟩ := leads_pure h
    refine shoots_nothing rfl s'.platform.filmed_nil (.inl ?_)
    rw [Adapter.hasShot, he, Bool.not_true, Bool.and_false]
  | false =>
    rw [he] at h
    refine shoots_pass h (.refl s) s.platform.filmed_nil (fun c hc => ?_) ?_ rfl
    · rcases List.mem_append.mp hc with hc | hc
      · exact Adapter.subject_bindInstances _ _ _ c hc
      · obtain ⟨run, -, hc⟩ := List.mem_flatMap.mp hc
        exact Adapter.subject_drawRun _ run c hc
    · rw [Adapter.hasShot, hb, he]
      rfl

/-- A light is one pass. The push before it is offstage. -/
theorem shoots_drawLight (hf : s.adapter.frame = some f) {light : LightInstance}
    (h : (Adapter.drawLight target light).Leads s r s') :
    s.Shoots f (.drawLight target light) r s' := by
  obtain ⟨⟨slice, lights⟩, t, ht, filmed, h⟩ :=
    leads_offstage_bind (prepares_push _ _) (offstage_push _ _)
      (leads_get_bind (leads_inFrame hf h))
  refine shoots_pass (leads_set_bind h) ⟨_, lights, _, rfl⟩ filmed (fun c hc => ?_) rfl rfl
  rcases List.mem_append.mp hc with hc | hc
  · exact Adapter.subject_bindInstances _ _ _ c hc
  · obtain rfl := List.mem_singleton.mp hc
    rfl

/-- Shadows are one pass if there are any triangles. -/
theorem shoots_drawShadows (hf : s.adapter.frame = some f) {corners : List Vec2}
    (h : (Adapter.drawShadows target corners).Leads s r s') :
    s.Shoots f (.drawShadows target corners) r s' := by
  replace h := leads_inFrame hf h
  cases he : corners.isEmpty with
  | true =>
    rw [he] at h
    obtain ⟨-, rfl⟩ := leads_pure h
    refine shoots_nothing rfl s'.platform.filmed_nil (.inl ?_)
    rw [Adapter.hasShot, he]
    rfl
  | false =>
    rw [he] at h
    obtain ⟨⟨slice, shadows⟩, t, ht, filmed, h⟩ :=
      leads_offstage_bind (prepares_push _ _) (offstage_push _ _) (leads_get_bind h)
    refine shoots_pass (leads_set_bind h) ⟨_, _, shadows, rfl⟩ filmed
      (by simp [Command.subject?]) ?_ rfl
    rw [Adapter.hasShot, he]
    rfl

/-- The group of the channels of a run is made offstage, and of the adapter nothing is changed. -/
theorem leads_channelGroup {inputs : List Nat} {output : Target}
    {r : Except RenderError (Handle .bindGroup)}
    (h : (Adapter.channelGroup inputs output).Leads s r s') :
    s'.adapter = s.adapter ∧ s.platform.Filmed [] s'.platform := by
  have confined : (Adapter.channelGroup inputs output).Confined Concern.offstage id s.adapter :=
    Adapter.confined_channelGroup (by decide) inputs output
  obtain ⟨same, saw⟩ := confined _ _ _ rfl h
  exact ⟨same, saw.filmed⟩

/-- An effect is one pass, if it is registered and no target is missing. What it pushes and binds
before is offstage. -/
theorem shoots_runProgram (hf : s.adapter.frame = some f) {name : String} {inputs : List Nat}
    {output : Target} {uniforms : List Scalar} {clear : Option Color}
    (h : (Adapter.runProgram name inputs output uniforms clear).Leads s r s') :
    s.Shoots f (.runProgram name inputs output uniforms clear) r s' := by
  replace h := leads_get_bind h
  split at h
  · obtain ⟨rfl, rfl⟩ := leads_throw h
    exact shoots_nothing rfl s'.platform.filmed_nil (.inr ⟨_, rfl⟩)
  rename_i p hp
  obtain ⟨⟨slice, arena⟩, t, ht, pushed, h⟩ :=
    leads_offstage_bind (prepares_push _ _) (offstage_push _ _)
      (leads_get_bind (leads_inFrame hf h))
  obtain ⟨block, u, hu, -, -, made, h⟩ := filmed_make_bind (leads_set_bind h)
  have same : s.SameTables u := ⟨arena, _, _, hu⟩
  rcases leads_bind h with ⟨e, rfl, hg⟩ | ⟨group, w, hg, h⟩
  · obtain ⟨ha, bound⟩ := leads_channelGroup hg
    refine shoots_nothing ?_ ((pushed.append made).append bound) (.inr ⟨e, rfl⟩)
    rw [ha, hu]
  · obtain ⟨ha, bound⟩ := leads_channelGroup hg
    exact shoots_pass h (same.congr ha) ((pushed.append made).append bound)
      (by simp [Command.subject?]) rfl rfl

/-- **While a frame is recorded, each command that neither begins nor ends one films the pass that
it draws, if it draws and succeeds, and nothing else.** -/
theorem shoots_execute (hf : s.adapter.frame = some f) (hc : (Call.issue c).isCut = false)
    (h : (Adapter.execute c).Leads s r s') : s.Shoots f c r s' := by
  cases hd : (Call.issue c).isDrawing with
  | false =>
    obtain ⟨frame, filmed⟩ := Adapter.offstage_execute hc hd _ _ _ rfl h
    exact shoots_nothing frame filmed (.inl (Adapter.hasShot_of_not_drawing hd))
  | true =>
    cases c with
    | clear target color => exact shoots_clear hf h
    | drawSprites target mode id calls => exact shoots_drawSprites hf h
    | drawLight target light => exact shoots_drawLight hf h
    | drawShadows target corners => exact shoots_drawShadows hf h
    | runProgram name inputs output uniforms clear => exact shoots_runProgram hf h
    | _ => cases hd

/-! ## Without a frame -/

/-- Where there is no frame, there is nothing to do. -/
theorem leads_inFrame_none (hf : s.adapter.frame = none) {m : Frame → AdapterM Unit}
    (h : (Adapter.inFrame m).Leads s r s') : r = .ok () ∧ s' = s := by
  replace h := leads_get_bind h
  rw [hf] at h
  exact leads_pure h

/-- **While no frame is recorded, what draws checks the names of textures and effects and does
nothing else.** -/
theorem leads_unseen (hf : s.adapter.frame = none) (hd : (Call.issue c).isDrawing = true)
    (h : (Adapter.execute c).Leads s r s') :
    r = s.adapter.checkNames c ∧ s'.adapter = s.adapter ∧ s.platform.Gave [] s'.platform ∧
      s.platform.Filmed [] s'.platform := by
  -- without a frame a drawing ends where it would begin its pass
  have nothing : ∀ {m : Frame → AdapterM Unit}, (Adapter.inFrame m).Leads s r s' →
      r = .ok () ∧ s'.adapter = s.adapter ∧ s.platform.Gave [] s'.platform ∧
      s.platform.Filmed [] s'.platform := by
    intro m h
    obtain ⟨hr, rfl⟩ := leads_inFrame_none hf h
    exact ⟨hr, rfl, s'.platform.gave_nil, s'.platform.filmed_nil⟩
  cases c with
  | clear target color => exact nothing h
  | drawLight target light => exact nothing h
  | drawShadows target corners => exact nothing h
  | drawSprites target mode id calls =>
    replace h := leads_get_bind h
    cases names : calls.find? (fun c => (s.adapter.atlases.lookup c.texture).isNone) with
    | some c =>
      rw [names] at h
      obtain ⟨rfl, rfl⟩ := leads_throw h
      exact ⟨by rw [Adapter.checkNames, names], rfl, s'.platform.gave_nil, s'.platform.filmed_nil⟩
    | none =>
      rw [names] at h
      rw [Adapter.checkNames, names]
      dsimp only at h
      split at h
      · obtain ⟨hr, ha, gave⟩ := leads_say h
        exact ⟨hr, ha, gave, (offstage_say _ _ _ _ _ rfl h).2⟩
      · exact nothing h
  | runProgram name inputs output uniforms clear =>
    replace h := leads_get_bind h
    dsimp only at h
    cases names : s.adapter.programs.lookup name with
    | none =>
      rw [names] at h
      obtain ⟨rfl, rfl⟩ := leads_throw h
      exact ⟨by rw [Adapter.checkNames, names], rfl, s'.platform.gave_nil, s'.platform.filmed_nil⟩
    | some p =>
      rw [names] at h
      rw [Adapter.checkNames, names]
      exact nothing h
  | _ => cases hd

end Session

end Wgpu

end LitTiles
