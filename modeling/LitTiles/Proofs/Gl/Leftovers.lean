import LitTiles.Proofs.Gl.Lifetimes
import LitTiles.Proofs.Gl.Quiet

/-!
# Nothing is left over on a GL context

A context keeps its state from call to call, and a draw may read any of it. `draws_eq` says that
this does not matter: whatever was asked of an adapter before, with whatever success, the draws of a
call with all that they read follow from the call, the tables of the adapter and the view of the
last frame that was begun. Between calls the state is always idle.
-/

namespace LitTiles.Gl

open Context ContextM Machine

variable {samplers : Handle .program → List Nat}

/-! ## The start -/

namespace Adapter

variable {x x' : Context} {a : Adapter}

/-- What is made properly is sound. -/
theorem sound_of_makes {α : Type} {m : ContextM α} {objects : α → List Object}
    {fails : RenderError → Prop} {leaks : Context → Context → Prop} {r : Except RenderError α}
    (hm : m.Makes objects fails leaks) (hx : x.Sound) (h : m.Leads x r x') : x'.Sound := by
  rcases hm x r x' hx h with ⟨v, -, gains, -⟩ | ⟨e, left, -, -, gains, -⟩
  · exact gains.sound
  · exact gains.sound

/-- All but the programs is made by quiet commands. -/
theorem leads_equip_ok {interface : Interface} {size : SurfaceSize} {c : Capabilities}
    {spriteColor spriteMask light shadow : FixedProgram}
    {vertexArray : Option (Handle .vertexArray)}
    (h : (equip interface size c spriteColor spriteMask light shadow vertexArray).Leads x
      (.ok a) x') :
    x.Wrote Command.Quiet x' ∧ a.light = light ∧ a.shadow = shadow := by
  unfold equip at h
  obtain ⟨corners, z₁, w₁, h⟩ := leads_bind_ok h
  obtain ⟨indices, z₂, w₂, h⟩ := leads_bind_ok h
  obtain ⟨stream, z₃, w₃, h⟩ := leads_bind_ok h
  obtain ⟨empty, z₄, w₄, h⟩ := leads_bind_ok h
  obtain ⟨ha, rfl⟩ := leads_pure h
  obtain rfl := Except.ok.inj ha
  refine ⟨?_, rfl, rfl⟩
  have made := (quiet_filledBuffer _ _ _ _ _ w₁).trans (quiet_filledBuffer _ _ _ _ _ w₂)
  have streamed : z₂.Wrote Command.Quiet z₃ := writes_create (fun _ => trivial) _ _ _ w₃
  exact (made.trans streamed).trans (quiet_createTexture _ _ _ _ _ _ _ _ w₄)

/-- An adapter is made by quiet commands, and its lights and shadows have no samplers. -/
theorem leads_connect_ok {interface : Interface} {size : SurfaceSize} (hx : x.Sound)
    (h : (connect interface size).Leads x (.ok a) x')
    (rule : Throughout (SamplesDeclared samplers) x'.commands.toList) :
    x.Wrote Command.Quiet x' ∧ samplers a.light.program = [] ∧ samplers a.shadow.program = [] := by
  unfold connect at h
  replace h := leads_get_bind h
  dsimp only at h
  split at h
  -- an unsupported host is refused before anything is made
  swap
  · obtain ⟨he, -⟩ := leads_throw h
    cases he
  simp only [pure_bind] at h
  obtain ⟨_, y, hs, h⟩ := leads_bind_ok h
  have said := (leads_say hs).2
  have sound := (hx.use said (List.forall_mem_nil _)).1
  obtain ⟨spriteColor, y₁, h₁, h⟩ := leads_bind_ok h
  have sound₁ := sound_of_makes (FixedProgram.makes_make _ _) sound h₁
  obtain ⟨spriteMask, y₂, h₂, h⟩ := leads_bind_ok h
  have sound₂ := sound_of_makes (FixedProgram.makes_make _ _) sound₁ h₂
  obtain ⟨light, y₃, h₃, h⟩ := leads_bind_ok h
  have sound₃ := sound_of_makes (FixedProgram.makes_make _ _) sound₂ h₃
  obtain ⟨shadow, y₄, h₄, h⟩ := leads_bind_ok h
  -- with or without a vertex array the rest of the start keeps the two programs
  obtain ⟨wrote, hl, hs⟩ : y₄.Wrote Command.Quiet x' ∧ a.light = light ∧ a.shadow = shadow := by
    split at h
    · obtain ⟨v, z, hv, h⟩ := leads_bind_ok h
      obtain ⟨z₁, gave, h⟩ := leads_give_bind h
      obtain ⟨wrote, same⟩ := leads_equip_ok h
      have made : y₄.Wrote Command.Quiet z := writes_create (fun _ => trivial) _ _ _ hv
      exact ⟨(made.trans (gave.wrote (by simp))).trans wrote, same⟩
    · exact leads_equip_ok h
  have wrote₄ := FixedProgram.quiet_make _ _ _ _ _ _ h₄
  have wrote₃ := FixedProgram.quiet_make _ _ _ _ _ _ h₃
  have wrote₂ := FixedProgram.quiet_make _ _ _ _ _ _ h₂
  have wrote₁ := FixedProgram.quiet_make _ _ _ _ _ _ h₁
  -- neither program names a sampler in either dialect, so the driver's rule leaves them none
  have all : ∀ d : Dialect, namesSampler d.lightProgram = false ∧
      namesSampler d.shadowProgram = false := by
    intro d
    simpa using not_namesSampler d (by cases d <;> simp)
  refine ⟨?_, ?_, ?_⟩
  · exact ((((said.wrote (List.forall_mem_nil _)).trans wrote₁).trans wrote₂).trans wrote₃).trans
      (wrote₄.trans wrote)
  · rw [hl]
    exact FixedProgram.samplers_eq_nil sound₂ h₃ ((wrote₄.trans wrote).throughout rule) (all _).1
  · rw [hs]
    exact FixedProgram.samplers_eq_nil sound₃ h₄ (wrote.throughout rule) (all _).2

end Adapter

/-! ## Calls -/

/-- What is visible after a call, if some part of the world was visible before. -/
def viewAfter (view : Rect) : Call → Rect
  | .issue (.beginFrame view') => view'
  | _ => view

/-- What is visible after some calls: the view of the last frame that was begun, and before the
first one the unit square. -/
def lastView (calls : List Call) : Rect := calls.foldl viewAfter ⟨⟨0, 0⟩, ⟨1, 1⟩⟩

namespace Session

variable {s s' : Session} {cs : List Command} {lost : List Object} {y : Context}

/-- A session at rest: nothing is left over on its context, and it draws lights and shadows without
textures. -/
structure Rests (samplers : Handle .program → List Nat) (s : Session) : Prop where
  /-- The state of the context is idle. -/
  idle : (Machine.after {} s.context.commands.toList).Idle s.adapter.places
  /-- Effects have all channels. -/
  channels : ∀ e ∈ s.adapter.effects, e.2.channels.length = maxChannels
  /-- Lights sample nothing. -/
  light : samplers s.adapter.light.program = []
  /-- Shadows sample nothing. -/
  shadow : samplers s.adapter.shadow.program = []

/-- The programs of an adapter are different ones, since it holds them all. -/
theorem Holds.nodup_places (h : s.Holds lost) : (s.adapter.places.map Prod.fst).Nodup := by
  have objects : s.adapter.objects.Nodup := ((h.alive.nodup_iff).mp h.sound.nodup).of_append_left
  have programs : ((s.adapter.places.map Prod.fst).map Handle.object).Nodup := by
    have tail : (s.adapter.effects.map (·.2.program.object) ++ s.adapter.fixedObjects).Nodup := by
      refine objects.sublist ?_
      simp only [Adapter.objects, List.append_assoc]
      exact (List.sublist_append_right ..).trans ((List.sublist_append_right ..).trans
        (List.sublist_append_right ..))
    have first := List.nodup_append_comm.mp (tail.sublist ((List.take_sublist 4 _).append_left _))
    simpa [Adapter.places, Adapter.fixedObjects, Function.comp_def] using first
  exact programs.of_map

theorem Rests.fit (h : s.Rests samplers) (held : s.Holds lost) : s.adapter.Fit samplers :=
  ⟨held.nodup_places, h.channels, h.light, h.shadow⟩

/-- From one session to the other some quiet commands lead. Effects that are new were linked by
them. -/
structure Quietly (s : Session) (cs : List Command) (s' : Session) : Prop where
  /-- The commands follow the earlier ones. -/
  commands : s'.context.commands.toList = s.context.commands.toList ++ cs
  /-- They are quiet. -/
  quiet : ∀ c ∈ cs, c.Quiet
  /-- The fixed programs are the same. -/
  fixed : [s'.adapter.spriteColor, s'.adapter.spriteMask, s'.adapter.light, s'.adapter.shadow] =
    [s.adapter.spriteColor, s.adapter.spriteMask, s.adapter.light, s.adapter.shadow]
  /-- A new effect has all channels, and was linked. -/
  effects : ∀ e ∈ s'.adapter.effects, e ∈ s.adapter.effects ∨
    e.2.channels.length = maxChannels ∧ .linkProgram e.2.program ∈ cs
  /-- The same part of the world is visible. -/
  view : s'.adapter.view = s.adapter.view

/-- Quiet commands draw nothing, and leave a session at rest. -/
theorem Rests.quietly (h : s.Rests samplers) (hq : s.Quietly cs s') :
    (Machine.after {} s.context.commands.toList).draws samplers cs = [] ∧ s'.Rests samplers := by
  obtain ⟨nothing, idle⟩ := h.idle.quiet samplers hq.quiet
  have fixed := hq.fixed
  simp only [List.cons.injEq, and_true] at fixed
  obtain ⟨-, -, light, shadow⟩ := fixed
  refine ⟨nothing, ⟨?_, ?_, fun e he l hl => ?_⟩, fun e he => ?_, ?_, ?_⟩
  · rw [hq.commands, after_append]
    exact idle.unit
  · rw [hq.commands, after_append]
    exact idle.arrays
  · rw [hq.commands, after_append]
    -- an entry is either one of the fixed programs or an effect
    rcases List.mem_append.mp he with he | he
    · rw [hq.fixed] at he
      exact idle.uniforms e (List.mem_append_left _ he) l hl
    · obtain ⟨e', he', rfl⟩ := List.mem_map.mp he
      -- an old effect keeps its uniforms, a new one starts without any when it is linked
      rcases hq.effects e' he' with old | ⟨-, linked⟩
      · exact idle.uniforms _ (List.mem_append_right _ (List.mem_map_of_mem old)) l hl
      · exact congrFun (uniforms_of_link linked hq.quiet) l
  · rcases hq.effects e he with old | ⟨all, -⟩
    · exact h.channels e old
    · exact all
  · rw [light]
    exact h.light
  · rw [shadow]
    exact h.shadow

/-- Quiet commands were given, and the programs stayed as they were. -/
theorem exists_quietly (hw : s.context.Wrote Command.Quiet s'.context)
    (hf : [s'.adapter.spriteColor, s'.adapter.spriteMask, s'.adapter.light, s'.adapter.shadow] =
      [s.adapter.spriteColor, s.adapter.spriteMask, s.adapter.light, s.adapter.shadow])
    (he : s'.adapter.effects = s.adapter.effects) (hv : s'.adapter.view = s.adapter.view) :
    ∃ cs, s.Quietly cs s' := by
  obtain ⟨cs, hcs, quiet⟩ := hw
  exact ⟨cs, hcs, quiet, hf, fun e hm => .inl (he ▸ hm), hv⟩

theorem quietly_loadTexture {t : Texture} {r : Except RenderError Unit}
    (h : (Adapter.loadTexture t).Leads s r s') : ∃ cs, s.Quietly cs s' := by
  rcases Adapter.leads_loadTexture h with ⟨e, -, -, rfl⟩ | ⟨-, made, y, hm, outcome⟩
  · exact exists_quietly (.refl _) rfl rfl rfl
  have made := quiet_createTexture _ _ _ _ _ _ _ _ hm
  rcases outcome with ⟨e, -, -, rfl⟩ | ⟨texture, -, -, ha, gave⟩
  · exact exists_quietly made rfl rfl rfl
  · refine exists_quietly (made.trans (gave.wrote ?_)) (by rw [ha]) (by rw [ha]) (by rw [ha])
    simp

theorem quietly_compileProgram {name : String} {p : EffectProgram} {r : Except RenderError Unit}
    (h : (Adapter.compileProgram name p).Leads s r s') : ∃ cs, s.Quietly cs s' := by
  obtain ⟨linked, y, hlink, outcome⟩ := Adapter.leads_compileProgram h
  have wrote := quiet_linkSource _ _ _ _ _ _ hlink
  rcases outcome with ⟨e, -, -, rfl⟩ | ⟨program, made, z, rfl, hm, outcome⟩
  · exact exists_quietly wrote rfl rfl rfl
  have asked := LinkedEffect.quiet_make _ _ _ _ _ _ hm
  obtain ⟨effect, -, rfl, rfl, -, -, channels, -⟩ := LinkedEffect.leads_make hm
  rcases outcome with ⟨e, he⟩ | ⟨effect', he, -, ha, gave⟩
  · cases he
  obtain rfl := Except.ok.inj he
  -- the link command is among those written, which sets the new program apart from old ones
  obtain ⟨vertex, fragment, -, hlink⟩ := leads_linkSource_ok hlink
  obtain ⟨cs, hcs, isLinked⟩ := mem_of_link hlink
  obtain ⟨cs', hcs', quiet⟩ := wrote
  obtain rfl : cs = cs' := List.append_cancel_left (hcs.symm.trans hcs')
  obtain ⟨ds, hds, quiet'⟩ := asked.trans (gave.wrote (P := Command.Quiet) (by simp))
  refine ⟨cs ++ ds, by rw [hds, hcs, List.append_assoc], ?_, by rw [ha], fun e he => ?_, by rw [ha]⟩
  · exact List.forall_mem_append.mpr ⟨quiet, quiet'⟩
  · rw [ha] at he
    rcases List.mem_cons.mp he with rfl | he
    · exact .inr ⟨channels, List.mem_append_left _ isLinked⟩
    · exact .inl (List.mem_of_mem_filter he)

theorem quiet_built {c : Capabilities} {sizes : List (SurfaceSize × Nat)} {x : Context}
    {ts : List RenderTarget} {r : Except RenderError Unit} (h : Adapter.Built c sizes x ts r y) :
    x.Wrote Command.Quiet y := by
  induction h with
  | done x => exact .refl x
  | failed hm => exact quiet_renderTarget _ _ _ _ _ _ hm
  | next hm _ ih => exact (quiet_renderTarget _ _ _ _ _ _ hm).trans ih

theorem quietly_configureTargets {surface : SurfaceSize} {sizes : List SurfaceSize}
    {r : Except RenderError Unit} (h : (Adapter.configureTargets surface sizes).Leads s r s') :
    ∃ cs, s.Quietly cs s' := by
  obtain ⟨y, ts, z, gave, built, gave', ha⟩ := Adapter.leads_configureTargets h
  have deleted : ∀ c ∈ s.adapter.deleteTargets, c.Quiet := by
    intro c hc
    obtain ⟨t, -, hc⟩ := List.mem_flatMap.mp hc
    rcases List.mem_pair.mp hc with rfl | rfl <;> trivial
  refine exists_quietly (((gave.wrote deleted).trans (quiet_built built)).trans (gave'.wrote ?_))
    (by rw [ha]) (by rw [ha]) (by rw [ha])
  simp

theorem quietly_createBuffer {capacity : Nat} {r : Except RenderError BufferId}
    (h : (Adapter.createBuffer capacity).Leads s r s') : ∃ cs, s.Quietly cs s' := by
  obtain ⟨made, y, hm, outcome⟩ := Adapter.leads_createBuffer h
  have made : s.context.Wrote Command.Quiet y := writes_create (fun _ => trivial) _ _ _ hm
  rcases outcome with ⟨e, -, -, rfl⟩ | ⟨buffer, -, -, ha, gave⟩
  · exact exists_quietly made rfl rfl rfl
  · refine exists_quietly (made.trans (gave.wrote ?_)) (by rw [ha]) (by rw [ha]) (by rw [ha])
    simp

theorem quietly_freeBuffer {id : BufferId} {r : Except RenderError Unit}
    (h : (Adapter.freeBuffer id).Leads s r s') : ∃ cs, s.Quietly cs s' := by
  rcases Adapter.leads_freeBuffer h with ⟨-, ha, gave⟩ | ⟨b, -, ha, gave⟩
  · exact exists_quietly (gave.wrote (by simp)) (by rw [ha]) (by rw [ha]) (by rw [ha])
  · exact exists_quietly (gave.wrote (by simp)) (by rw [ha]) (by rw [ha]) (by rw [ha])

/-- What came of a call: some commands drew what is drawn according to the tables, each drawing as
the adapter shows it, and the session is at rest. -/
def Answered (samplers : Handle .program → List Nat) (s : Session) (c : Call)
    (s' : Session) : Prop :=
  ∃ cs, s'.context.commands.toList = s.context.commands.toList ++ cs ∧
    ((Machine.after {} s.context.commands.toList).draws samplers cs).map some =
      (s.adapter.tables.drawn c).map (s.adapter.shown samplers) ∧
    s'.Rests samplers ∧ s'.adapter.view = viewAfter s.adapter.view c

theorem Rests.answered_quietly (h : s.Rests samplers) {c : Call}
    (hd : s.adapter.tables.drawn c = []) (hv : viewAfter s.adapter.view c = s.adapter.view)
    (hq : ∃ cs, s.Quietly cs s') : s.Answered samplers c s' := by
  obtain ⟨cs, hq⟩ := hq
  obtain ⟨nothing, rests⟩ := h.quietly hq
  refine ⟨cs, hq.commands, ?_, rests, hq.view.trans hv.symm⟩
  rw [nothing, hd]
  rfl

/-- A texture is drawn nowhere when it is loaded. -/
theorem drawn_loadTexture (known : Tables) (t : Texture) :
    known.drawn (.issue (.loadTexture t)) = [] := by
  rw [Tables.drawn, Tables.drawings]
  cases t.validate <;> rfl

theorem Rests.answered_of_spares (h : s.Rests samplers) (held : s.Holds lost) {c : LitTiles.Command}
    {r : Except RenderError Unit} (hc : c.SparesObjects) (hl : (Adapter.execute c).Leads s r s') :
    s.Answered samplers (.issue c) s' := by
  obtain ⟨ha, -, gave⟩ := Adapter.leads_execute_of_spares hc hl
  -- such a command changes the view at most, so the places and the tables stay
  have places : s'.adapter.places = s.adapter.places := by
    rw [ha]
    cases c <;> rfl
  have rests : (Machine.after {} s'.context.commands.toList).Idle s.adapter.places →
      s'.Rests samplers := by
    intro idle
    refine ⟨places ▸ idle, ?_, ?_, ?_⟩ <;> rw [ha] <;> cases c <;>
      first | exact h.channels | exact h.light | exact h.shadow
  have view : s'.adapter.view = viewAfter s.adapter.view (.issue c) := by
    rw [ha]
    cases c <;> rfl
  rw [gave.commands, after_append] at rests
  refine ⟨_, gave.commands, ?_⟩
  rw [Tables.drawn]
  -- refused on both sides, or carried out and shown on both
  rcases (h.fit held).agrees_commands hc with ⟨e, he, hd⟩ | ⟨cs, ds, hcs, hd, shows⟩
  · rw [he] at rests ⊢
    rw [hd]
    exact ⟨rfl, rests h.idle, view⟩
  · obtain ⟨drawn, m', does, hdrawn, idle⟩ := shows _ h.idle
    rw [hcs] at rests ⊢
    rw [hd]
    exact ⟨(congrArg (List.map some) does.1).trans hdrawn, rests (does.2 ▸ idle), view⟩

/-- **Every call** draws what follows from its arguments, the tables and what is visible, and leaves
a session at rest. -/
theorem Rests.answered (h : s.Rests samplers) (held : s.Holds lost) (c : Call) :
    s.Answered samplers c (s.perform c).2 := by
  cases c with
  | createBuffer capacity =>
    exact h.answered_quietly rfl rfl (quietly_createBuffer (s.leads_createBuffer capacity))
  | freeBuffer id =>
    obtain ⟨r, hl⟩ := s.leads_freeBuffer id
    exact h.answered_quietly rfl rfl (quietly_freeBuffer hl)
  | issue c =>
    have hl := s.leads_issue c
    by_cases hc : c.SparesObjects
    · exact h.answered_of_spares held hc hl
    cases c with
    | loadTexture t => exact h.answered_quietly (drawn_loadTexture _ t) rfl (quietly_loadTexture hl)
    | compileProgram name p => exact h.answered_quietly rfl rfl (quietly_compileProgram hl)
    | configureTargets surface sizes =>
      exact h.answered_quietly rfl rfl (quietly_configureTargets hl)
    | _ => exact absurd trivial hc

/-- After an effect was run each unit holds what the effect reads on the channel of this number. -/
theorem Rests.textures_of_effect (h : s.Rests samplers) (held : s.Holds lost)
    {c : Call} {name : String} {channels : List (Option Nat)} {output : Target}
    {uniforms : List Scalar} (hd : .effect name channels output uniforms ∈ s.adapter.tables.drawn c)
    {i : Nat} (hi : i < maxChannels) :
    (Machine.after {} (s.perform c).2.context.commands.toList).textures i =
      channels[i]?.map s.adapter.channelOf := by
  obtain ⟨inputs, clear, rfl, known, hc, hr⟩ := Tables.of_effect_mem_drawn hd
  obtain ⟨-, -, gave⟩ :=
    @Adapter.leads_execute_of_spares _ _ (.runProgram name inputs output uniforms clear) _
    trivial (s.leads_issue _)
  obtain ⟨e, k, he, hk, -, commands⟩ :=
    s.adapter.exists_commands_runProgram uniforms clear known hc hr
  obtain ⟨drawn, m', does, -, -, bound⟩ :=
    (h.fit held).does_effect hk he (Tables.length_channels hc) uniforms clear h.idle
  rw [gave.commands, commands, after_append]
  refine Eq.trans ?_ (bound i hi)
  exact congrFun (congrArg Machine.textures does.2) i

/-! ## From the start -/

variable {interface : Interface} {size : SurfaceSize} {host : Host}

/-- An adapter that was just made is at rest, and sees the unit square. -/
theorem rests_start (h : Session.start interface size { host := host } = .ok s)
    (rule : Throughout (SamplesDeclared samplers) s.context.commands.toList) :
    s.Rests samplers ∧ s.adapter.view = lastView [] := by
  obtain ⟨⟨cs, hcs, quiet⟩, light, shadow⟩ :=
    Adapter.leads_connect_ok (Context.sound_start host) (leads_start h) rule
  have none_before : s.context.commands.toList = cs := by simpa using hcs
  have fresh : (Machine.after {} s.context.commands.toList).Idle s.adapter.places := by
    rw [none_before]
    have idle : ({} : Machine).Idle s.adapter.places :=
      ⟨rfl, fun _ _ _ => ⟨rfl, rfl⟩, fun _ _ _ _ => rfl⟩
    exact (idle.quiet samplers quiet).2
  rcases Adapter.leads_connect (Context.sound_start host) (leads_start h) with
    ⟨a, ha, -, -, -, -, -, -, -, effects, view⟩ | ⟨e, left, he, -⟩
  · obtain rfl := Except.ok.inj ha
    refine ⟨⟨fresh, fun e he => ?_, light, shadow⟩, view⟩
    rw [effects] at he
    cases he
  · cases he

/-- A session is at rest after any calls, and sees what the last frame has set. -/
theorem rests_serve (h : Session.start interface size { host := host } = .ok s)
    (rule : Throughout (SamplesDeclared samplers) s.context.commands.toList) (calls : List Call) :
    (s.serve calls).Rests samplers ∧ (s.serve calls).adapter.view = lastView calls := by
  induction calls using List.reverseRecOn with
  | nil => exact rests_start h rule
  | append_singleton calls c ih =>
    obtain ⟨rests, view⟩ := ih
    obtain ⟨lost, held⟩ := exists_holds h calls
    obtain ⟨cs, -, -, rests', view'⟩ := rests.answered held c
    rw [serve_append, serve_singleton, lastView, List.foldl_append]
    exact ⟨rests', view'.trans (congrArg (viewAfter · c) view)⟩

/-- **Draws do not depend on leftover state.** After any calls, the next call makes one draw for
each drawing that it asks for, and all the state that the draw reads is found from this drawing, the
tables of the adapter and the view of the last frame. Between calls the first unit is active, and no
attribute from location one on is enabled or advances per instance. -/
theorem draws_eq (h : Session.start interface size { host := host } = .ok s)
    (rule : Throughout (SamplesDeclared samplers) s.context.commands.toList)
    (calls : List Call) (c : Call) :
    let t := s.serve calls
    let m := Machine.after {} t.context.commands.toList
    t.adapter.view = lastView calls ∧ m.unit = 0 ∧
      (∀ array l, 1 ≤ l → ((m.arrays array).attributes l).enabled = false ∧
        ((m.arrays array).attributes l).divisor = 0) ∧
      ∃ cs, (t.perform c).2.context.commands.toList = t.context.commands.toList ++ cs ∧
        (m.draws samplers cs).map some = (t.adapter.tables.drawn c).map
        (t.adapter.shown samplers) := by
  intro t m
  obtain ⟨rests, view⟩ := rests_serve h rule calls
  obtain ⟨lost, held⟩ := exists_holds h calls
  obtain ⟨cs, hcs, draws, -⟩ := rests.answered held c
  exact ⟨view, rests.idle.unit, rests.idle.arrays, cs, hcs, draws⟩

/-- A driver on which sprites are the only programs with a sampler, which is the second of their
uniforms. -/
def spriteSamplers (p : Handle .program) : List Nat := if p.name ≤ 2 then [1] else []

/-- Of an adapter that was just made it can be computed whether its samplers are declared. -/
theorem start_of_declared {x : Context} (h : ((Session.start interface size x).toOption.any fun s =>
      decide (Throughout (SamplesDeclared samplers) s.context.commands.toList)) = true) :
    ∃ s, Session.start interface size x = .ok s ∧
      Throughout (SamplesDeclared samplers) s.context.commands.toList := by
  obtain ⟨s, hs, declared⟩ := exists_ok_of_any h
  exact ⟨s, hs, of_decide_eq_true declared⟩

/-- Shadows are drawn after a run of sprites that has no texture. -/
theorem draws_eq_after_failure : ∃ s, Session.start .gles3 ⟨8, 8⟩ { host := {} } = .ok s ∧
    let calls : List Call := [.createBuffer 4, .issue (.beginFrame ⟨⟨0, 0⟩, ⟨2, 2⟩⟩),
      .issue (.drawSprites .surface .color ⟨0⟩ [⟨"atlas", 0, 1⟩])]
    let t := s.serve calls
    let m := Machine.after {} t.context.commands.toList
    t.adapter.view = lastView calls ∧ m.unit = 0 ∧
      (∀ array l, 1 ≤ l → ((m.arrays array).attributes l).enabled = false ∧
        ((m.arrays array).attributes l).divisor = 0) ∧
      ∃ cs, (t.perform
          (.issue (.drawShadows .surface [⟨0, 0⟩, ⟨1, 0⟩, ⟨0, 1⟩]))).2.context.commands.toList =
          t.context.commands.toList ++ cs ∧
        (m.draws spriteSamplers cs).map some =
          (t.adapter.tables.drawn (.issue (.drawShadows .surface [⟨0, 0⟩, ⟨1, 0⟩, ⟨0, 1⟩]))).map
            (t.adapter.shown spriteSamplers) := by
  obtain ⟨s, hs, rule⟩ :=
    @start_of_declared spriteSamplers .gles3 ⟨8, 8⟩ { host := {} } (by decide +kernel)
  exact ⟨s, hs, draws_eq hs rule _ _⟩

end Session

end LitTiles.Gl
