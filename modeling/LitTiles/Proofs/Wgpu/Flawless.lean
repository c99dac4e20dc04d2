import LitTiles.Proofs.Wgpu.Drawing

/-!
# Adapters on devices that refuse nothing

A device is `Flawless` if its surface always has a next texture, and all program texts are valid. On
such a device a call obeys the tables (`Session.obeys_perform`): its answer, the tables after it and
what it draws follow from the tables before. A call that draws has to be made while a frame is under
way.
-/

namespace LitTiles

/-- A host that refuses nothing. -/
structure DeviceHost.Flawless (h : DeviceHost) : Prop where
  /-- There is always a next texture of a surface. -/
  acquires : ∀ n, h.acquireError n = none
  /-- All program texts are valid. -/
  compiles : ∀ n, h.invalidText n = none

namespace Wgpu

open PlatformM AdapterM

/-! ## What makes objects -/

/-- Uploading a texture makes objects and cannot fail. -/
theorem prepares_upload (t : Texture) (format : TextureFormat) (layout : Handle .bindGroupLayout)
    (sampler : Handle .sampler) :
    (Atlas.upload t format layout sampler).Prepares fun _ => True := by
  refine (prepares_make (by intro; trivial)).bind fun texture _ => ?_
  refine (prepares_give (by trivial)).bind fun _ _ =>
    (prepares_make (by intro; trivial)).bind fun view _ => ?_
  exact (prepares_make (by intro; trivial)).bind fun group _ => prepares_pure trivial

/-- Neither can the making of a target. -/
theorem prepares_renderTarget (index : Nat) (size : SurfaceSize) (format : TextureFormat) :
    (RenderTarget.make index size format).Prepares fun _ => True := by
  refine (prepares_make (by intro; trivial)).bind fun texture _ => ?_
  exact (prepares_make (by intro; trivial)).bind fun view _ => prepares_pure trivial

/-- A pipeline is made, if the program is in the language of devices. -/
theorem leads_makePipeline {name text : String} {groups : List (Handle .bindGroupLayout)}
    {input : VertexInput} {blend : BlendMode} {format : TextureFormat} {p p' : Platform}
    {r : Except RenderError (Handle .renderPipeline)} (hp : p.host.Flawless)
    (h : (makePipeline name (.wgsl text) groups input blend format).Leads p r p') :
    (∃ pipeline, r = .ok pipeline) ∧ p.GaveAside p' := by
  rcases PlatformM.leads_bind h with ⟨e, -, hm⟩ | ⟨text', p₁, hm, made⟩
  · obtain ⟨he, -⟩ := PlatformM.leads_ofExcept hm
    cases he
  obtain ⟨ht, rfl⟩ := PlatformM.leads_ofExcept hm
  obtain rfl := Except.ok.inj ht
  replace made := PlatformM.leads_ask_bind made
  rw [hp.compiles] at made
  have prepares : PlatformM.Prepares (do
      let shader ← PlatformM.make fun h => Command.createShaderModule h name text'
      let layout ← PlatformM.make fun h => Command.createPipelineLayout h name groups
      PlatformM.make fun h => Command.createRenderPipeline h
        ⟨name, layout, shader, input, blend, format⟩)
      fun _ => True :=
    (prepares_make (by intro; trivial)).bind fun _ _ =>
      (prepares_make (by intro; trivial)).bind fun _ _ =>
      prepares_make (by intro; trivial)
  obtain ⟨⟨pipeline, hr, -⟩, aside⟩ := prepares _ _ _ made
  exact ⟨⟨pipeline, hr⟩, ((p₁.gave_count .text).aside fun _ hm => nomatch hm).trans aside⟩

namespace Session

variable {s s' : Session} {r : Except RenderError Unit}

/-! ## Calls -/

/-- A call was answered and drawn according to the tables, and these are as they should be
afterwards. -/
structure Obeys (s : Session) (c : Call) (o : c.Outcome) (s' : Session) : Prop where
  /-- The answer. -/
  reply : SameReply (c.reply o) (s.adapter.tables.reply c)
  /-- The tables afterwards. -/
  tables : s'.adapter.tables = s.adapter.tables.after c
  /-- Whether there is a frame afterwards. -/
  frame : s'.adapter.frame.isSome = c.inFrame s.adapter.frame.isSome
  /-- The host is the same. -/
  host : s'.platform.host = s.platform.host
  /-- What is drawn. -/
  draws : ∃ cs, s'.platform.commands = s.platform.commands ++ cs ∧
    ∀ rec : Recorder, List.Forall₂ s.adapter.Shows (s.adapter.tables.drawn c) (rec.draws cs)

/-- A call that draws nothing obeys the tables, if its answer and the tables after it are right and
all its commands are beside the drawing. -/
theorem obeys_aside {c : Call} {o : c.Outcome} (hr : c.reply o = s.adapter.tables.reply c)
    (ht : s'.adapter.tables = s.adapter.tables.after c)
    (hf : s'.adapter.frame.isSome = c.inFrame s.adapter.frame.isSome)
    (gave : s.platform.GaveAside s'.platform) (hd : s.adapter.tables.drawn c = []) :
    s.Obeys c o s' := by
  obtain ⟨cs, gave, aside⟩ := gave
  refine ⟨hr ▸ .refl _, ht, hf, gave.host, cs, gave.commands, fun rec => ?_⟩
  rw [hd, Recorder.draws_of_aside aside]
  exact .nil

/-- What was drawn as it should be obeys the tables. -/
theorem Drew.obeys {c : LitTiles.Command} (hd : s.Drew (s.adapter.tables.drawings c) r s')
    (ht : s.adapter.tables.after (.issue c) = s.adapter.tables)
    (hf : (Call.issue c).inFrame s.adapter.frame.isSome = s.adapter.frame.isSome) :
    s.Obeys (.issue c) r s' := by
  obtain ⟨reply, tables, frame, host, draws⟩ := hd
  refine ⟨?_, tables.trans ht.symm, by rw [frame, hf], host, draws⟩
  have := reply.map fun _ => (none : Option BufferId)
  rw [Tables.reply]
  cases hk : s.adapter.tables.drawings c <;> rw [hk] at this <;> exact this

/-- Loading a texture is answered without an error, and the table has the name afterwards. -/
theorem obeys_loadTexture {t : Texture} (h : (Adapter.loadTexture t).Leads s r s') :
    s.Obeys (.issue (.loadTexture t)) r s' := by
  rcases AdapterM.leads_ofExcept_bind h with ⟨e, he, rfl, rfl⟩ | ⟨⟨⟩, hv, h⟩
  · refine obeys_aside ?_ ?_ rfl (.refl _) ?_
    · simp only [Tables.reply, Tables.drawings, he]
      rfl
    · simp only [Tables.after, he]
    · simp only [Tables.drawn, Tables.drawings, he]
      rfl
  replace h := AdapterM.leads_get_bind h
  obtain ⟨atlas, u, -, ha, gave, h⟩ := leads_prepares_bind (prepares_upload _ _ _ _) h
  obtain ⟨rfl, ha', gave'⟩ := leads_giveAll (leads_set_bind h)
  refine obeys_aside ?_ ?_ ?_ (gave.trans (gave'.aside ?_)) ?_
  · simp only [Tables.reply, Tables.drawings, hv]
    rfl
  · simp only [Tables.after, hv, ha', Adapter.tables, map_fst_insert]
  · rw [ha']
    rfl
  · simp
  · simp only [Tables.drawn, Tables.drawings, hv]
    rfl

/-- A WGSL text is valid on a flawless device, and the effect is known from now on. -/
theorem obeys_compileProgram (hx : s.platform.host.Flawless) {name text : String}
    {p : EffectProgram} (hp : p.source = .wgsl text)
    (h : (Adapter.compileProgram name p).Leads s r s') :
    s.Obeys (.issue (.compileProgram name p)) r s' := by
  replace h := AdapterM.leads_get_bind h
  rw [hp] at h
  rcases AdapterM.leads_bind h with ⟨e, -, hm⟩ | ⟨pipeline, u, hm, h⟩
  · obtain ⟨-, hm⟩ := leads_onPlatform hm
    obtain ⟨⟨pipeline, he⟩, -⟩ := leads_makePipeline hx hm
    cases he
  obtain ⟨ha, hm⟩ := leads_onPlatform hm
  obtain ⟨-, gave⟩ := leads_makePipeline hx hm
  obtain ⟨rfl, rfl⟩ := AdapterM.leads_set h
  refine obeys_aside rfl ?_ rfl gave rfl
  simp only [Tables.after, Adapter.tables, map_fst_insert]

/-- The surface and the targets are configured, and as many targets are there as sizes were
given. -/
theorem obeys_configureTargets {surface : SurfaceSize} {sizes : List SurfaceSize}
    (h : (Adapter.configureTargets surface sizes).Leads s r s') :
    s.Obeys (.issue (.configureTargets surface sizes)) r s' := by
  -- the surface is configured, or is left alone
  have first : ∃ config t, t.adapter = { s.adapter with config := config } ∧
      s.platform.GaveAside t.platform ∧ (Adapter.remakeTargets surface sizes).Leads t r s' := by
    have configured : ∀ {o t}, (Adapter.configureSurface surface).Leads s o t →
        o = .ok () ∧ (∃ config, t.adapter = { s.adapter with config := config }) ∧
          s.platform.GaveAside t.platform := by
      intro o t hc
      unfold Adapter.configureSurface at hc
      split at hc
      · obtain ⟨rfl, rfl⟩ := AdapterM.leads_pure hc
        exact ⟨rfl, ⟨_, rfl⟩, .refl _⟩
      · obtain ⟨rfl, ha, gave⟩ := leads_giveAll (leads_set_bind (AdapterM.leads_get_bind hc))
        exact ⟨rfl, ⟨_, ha⟩, gave.aside (by simp)⟩
    rcases AdapterM.leads_bind h with ⟨e, -, hc⟩ | ⟨⟨⟩, t, hc, h⟩
    · cases (configured hc).1
    · obtain ⟨-, ⟨config, ha⟩, gave⟩ := configured hc
      exact ⟨config, t, ha, gave, h⟩
  obtain ⟨config, t, ht, gave, h⟩ := first
  have h := AdapterM.leads_get_bind h
  obtain ⟨targets, u, length, hu, made, h⟩ :=
    leads_prepares_bind (Prepares.mapM (fun _ => prepares_renderTarget _ _ _) _) h
  obtain ⟨w, hw, dropped, h⟩ := leads_giveAll_bind (leads_set_bind h)
  obtain ⟨rfl, ha, said⟩ := leads_say h
  rw [List.length_zipIdx] at length
  refine obeys_aside rfl ?_ ?_
    (((gave.trans made).trans (dropped.aside ?_)).trans (said.aside ?_)) rfl
  · simp only [Tables.after, ha, hw, ht, Adapter.tables, length]
  · rw [ha, hw, ht]
    rfl
  · simp
  · exact fun _ hc => nomatch hc

/-- A buffer gets the next number, and the number is in the table. -/
theorem obeys_createBuffer {capacity : Nat} {r : Except RenderError BufferId}
    (h : (Adapter.createBuffer capacity).Leads s r s') : s.Obeys (.createBuffer capacity) r s' := by
  obtain ⟨buffer, t, ht, gave, h⟩ := leads_make_bind h
  obtain ⟨u, hu, dropped, h⟩ := leads_giveAll_bind (leads_set_bind (AdapterM.leads_get_bind h))
  obtain ⟨rfl, rfl⟩ := AdapterM.leads_pure h
  refine obeys_aside ?_ ?_ ?_ ((gave.aside ?_).trans (dropped.aside ?_)) rfl
  · rw [ht]
    rfl
  · simp only [Tables.after, hu, ht, Adapter.tables, map_fst_insert]
  · rw [hu, ht]
    rfl
  · simp
  · simp

/-- Freeing takes a number out of the table and has no answer. -/
theorem obeys_freeBuffer {id : BufferId} {r : Except RenderError Unit}
    (h : (Adapter.freeBuffer id).Leads s r s') :
    s.Obeys (.freeBuffer id) () s' := by
  have h := AdapterM.leads_get_bind h
  cases hb : s.adapter.buffers.lookup id with
  | none =>
    rw [hb] at h
    obtain ⟨rfl, ha, gave⟩ := leads_say h
    refine obeys_aside rfl ?_ (by rw [ha]; rfl) (gave.aside fun _ hc => nomatch hc) rfl
    simp only [Tables.after, ha, Adapter.tables, filter_of_lookup hb]
  | some b =>
    rw [hb] at h
    obtain ⟨rfl, ha, gave⟩ := leads_giveAll (leads_set_bind h)
    refine obeys_aside rfl ?_ (by rw [ha]; rfl) (gave.aside (by simp)) rfl
    simp only [Tables.after, ha, Adapter.tables, map_fst_erase]

/-- Writing is refused for a buffer that is not known, and changes no table. -/
theorem obeys_writeInstances {id : BufferId} {instances : List SpriteInstance}
    (h : (Adapter.writeInstances id instances).Leads s r s') :
    s.Obeys (.issue (.writeInstances id instances)) r s' := by
  have written : r = .ok () ∧ s'.adapter = s.adapter ∧ s.platform.GaveAside s'.platform := by
    have h := AdapterM.leads_get_bind h
    cases hb : s.adapter.buffers.lookup id with
    | none =>
      rw [hb] at h
      obtain ⟨rfl, ha, gave⟩ := leads_say h
      exact ⟨rfl, ha, gave.aside fun _ hc => nomatch hc⟩
    | some b =>
      rw [hb] at h
      dsimp only at h
      split at h
      · obtain ⟨rfl, rfl⟩ := AdapterM.leads_pure h
        exact ⟨rfl, rfl, .refl _⟩
      · obtain ⟨rfl, ha, gave⟩ := leads_giveAll h
        exact ⟨rfl, ha, gave.aside (by simp)⟩
  obtain ⟨rfl, ha, gave⟩ := written
  exact obeys_aside rfl (by rw [ha]; rfl) (by rw [ha]; rfl) gave rfl

/-! ### Frames -/

/-- Taking a texture makes a view and an encoder, and draws nothing. -/
theorem leads_takeTexture {o : Except RenderError Adapter.Acquired}
    (h : Adapter.takeTexture.Leads s o s') :
    ∃ f, o = .ok (.frame f) ∧ s'.adapter = s.adapter ∧ s.platform.GaveAside s'.platform := by
  obtain ⟨texture, t, ht, acquired, h⟩ := leads_make_bind h
  obtain ⟨view, u, hu, viewed, h⟩ := leads_make_bind h
  obtain ⟨encoder, v, hv, encoded, h⟩ := leads_make_bind h
  obtain ⟨rfl, rfl⟩ := AdapterM.leads_pure h
  exact ⟨_, rfl, (hv.trans hu).trans ht, ((acquired.append viewed).append encoded).aside (by simp)⟩

/-- The first attempt gets a texture. -/
theorem leads_acquire {n : Nat} {o : Except RenderError (Option Frame)}
    (h : (Adapter.acquire (n + 1)).Leads s o s') (hx : s.platform.host.Flawless) :
    ∃ f, o = .ok (some f) ∧ s'.adapter = s.adapter ∧ s.platform.GaveAside s'.platform := by
  have once : ∀ {o : Except RenderError Adapter.Acquired} {t : Session},
      Adapter.acquireOnce.Leads s o t →
      ∃ f, o = .ok (.frame f) ∧ t.adapter = s.adapter ∧ s.platform.GaveAside t.platform := by
    intro o t h
    obtain ⟨u, rfl, ⟨-, taken⟩ | ⟨e, he, -⟩⟩ := AdapterM.leads_acquireOnce h
    · obtain ⟨f, ho, ha, cs, gave, aside⟩ := leads_takeTexture taken
      exact ⟨f, ho, ha, cs, ⟨gave.commands, gave.host⟩, aside⟩
    · rw [hx.acquires] at he
      cases he
  rcases AdapterM.leads_bind h with ⟨e, -, ho⟩ | ⟨acquired, t, ho, h⟩
  · obtain ⟨f, hf, -⟩ := once ho
    cases hf
  · obtain ⟨f, hf, ht, gave⟩ := once ho
    obtain rfl := Except.ok.inj hf
    obtain ⟨rfl, rfl⟩ := AdapterM.leads_pure h
    exact ⟨f, rfl, ht, gave⟩

/-- There is a next texture, so the frame begins; what was recorded before is given up. -/
theorem obeys_beginFrame (hx : s.platform.host.Flawless) {visible : Rect}
    (h : (Adapter.beginFrame visible).Leads s r s') :
    s.Obeys (.issue (.beginFrame visible)) r s' := by
  obtain ⟨t, ht, abandoned, h⟩ := leads_giveAll_bind (AdapterM.leads_get_bind h)
  replace h := leads_modify_bind h
  have hx' : t.platform.host.Flawless := abandoned.host ▸ hx
  rcases AdapterM.leads_bind h with ⟨e, -, ho⟩ | ⟨acquired, u, ho, h⟩
  · obtain ⟨f, hf, -⟩ := leads_acquire ho hx'
    cases hf
  obtain ⟨f, hf, hu, acquired⟩ := leads_acquire ho hx'
  obtain rfl := Except.ok.inj hf
  obtain ⟨v, hv, written, h⟩ := leads_giveAll_bind (AdapterM.leads_get_bind h)
  obtain ⟨rfl, rfl⟩ := AdapterM.leads_set h
  refine obeys_aside rfl ?_ rfl (((abandoned.aside ?_).trans acquired).trans (written.aside ?_)) rfl
  · simp only [Tables.after, hu, ht, Adapter.tables]
  · simp [Adapter.abandon]
  · simp

/-- The frame is submitted and presented, and none is under way afterwards. -/
theorem obeys_endFrame (h : Adapter.endFrame.Leads s r s') : s.Obeys (.issue .endFrame) r s' := by
  replace h := AdapterM.leads_get_bind h
  cases hf : s.adapter.frame with
  | none =>
    rw [hf] at h
    obtain ⟨rfl, rfl⟩ := AdapterM.leads_pure h
    exact obeys_aside rfl rfl (by rw [hf]; rfl) (.refl _) rfl
  | some f =>
    rw [hf] at h
    obtain ⟨rfl, ha, gave⟩ := leads_giveAll (leads_modify_bind h)
    exact obeys_aside rfl (by rw [ha]; rfl) (by rw [ha]; rfl) (gave.aside (by simp)) rfl

/-- **On a host that refuses nothing, each call obeys the tables**, if programs come in the language
of devices, and what draws comes while a frame is under way. -/
theorem obeys_perform (hx : s.platform.host.Flawless) (c : Call)
    (hc : ∀ name p, c = .issue (.compileProgram name p) → ∃ text, p.source = .wgsl text)
    (framed : c.isDrawing = true → s.adapter.frame.isSome = true) :
    s.Obeys c (s.perform c).1 (s.perform c).2 := by
  cases c with
  | createBuffer capacity => exact obeys_createBuffer (s.leads_createBuffer capacity)
  | freeBuffer id =>
    obtain ⟨r, hl⟩ := s.leads_freeBuffer id
    exact obeys_freeBuffer hl
  | issue c =>
    have hl := s.leads_issue c
    cases c with
    | loadTexture t => exact obeys_loadTexture hl
    | compileProgram name p =>
      obtain ⟨text, hp⟩ := hc name p rfl
      exact obeys_compileProgram hx hp hl
    | configureTargets surface sizes => exact obeys_configureTargets hl
    | writeInstances id instances => exact obeys_writeInstances hl
    | beginFrame visible => exact obeys_beginFrame hx hl
    | endFrame => exact obeys_endFrame hl
    -- the drawings need an open frame
    | clear target color =>
      obtain ⟨f, hf⟩ := Option.isSome_iff_exists.mp (framed rfl)
      exact (drew_clear hf hl).obeys rfl rfl
    | drawSprites target mode id calls =>
      obtain ⟨f, hf⟩ := Option.isSome_iff_exists.mp (framed rfl)
      exact (drew_drawSprites hf hl).obeys rfl rfl
    | drawLight target light =>
      obtain ⟨f, hf⟩ := Option.isSome_iff_exists.mp (framed rfl)
      exact (drew_drawLight hf hl).obeys rfl rfl
    | drawShadows target corners =>
      obtain ⟨f, hf⟩ := Option.isSome_iff_exists.mp (framed rfl)
      exact (drew_drawShadows hf hl).obeys rfl rfl
    | runProgram name inputs output uniforms clear =>
      obtain ⟨f, hf⟩ := Option.isSome_iff_exists.mp (framed rfl)
      exact (drew_runProgram hf hl).obeys rfl rfl

end Session

/-! ## The start -/

/-- A pipeline may be refused for its text. It draws nothing in either case. -/
theorem keeps_makePipeline (name : String) (source : ProgramSource)
    (groups : List (Handle .bindGroupLayout)) (input : VertexInput) (blend : BlendMode)
    (format : TextureFormat) :
    (makePipeline name source groups input blend format).Keeps fun _ => True := by
  refine (keeps_ofExcept _).bind fun text _ => (prepares_ask _ _).keeps.bind fun refusal _ => ?_
  cases refusal with
  | some log => exact keeps_throw _
  | none =>
    refine (prepares_make (by intro; trivial)).keeps.bind fun _ _ => ?_
    refine (prepares_make (by intro; trivial)).keeps.bind fun _ _ => ?_
    exact (prepares_make (by intro; trivial)).keeps

theorem prepares_layouts : Layouts.make.Prepares fun _ => True := by
  refine (prepares_make (by intro; trivial)).bind fun _ _ =>
    (prepares_make (by intro; trivial)).bind fun _ _ => ?_
  refine (prepares_make (by intro; trivial)).bind fun _ _ =>
    (prepares_make (by intro; trivial)).bind fun _ _ => ?_
  exact prepares_pure trivial

theorem prepares_makeEmptyView : makeEmptyView.Prepares fun _ => True := by
  refine (prepares_make (by intro; trivial)).bind fun _ _ =>
    (prepares_give (by trivial)).bind fun _ _ => ?_
  refine (prepares_make (by intro; trivial)).bind fun _ _ =>
    (prepares_give (by trivial)).bind fun _ _ => ?_
  exact prepares_pure trivial

theorem prepares_arena (label : String) (use : BufferUse) (capacity alignment : Nat) :
    (FrameArena.make label use capacity alignment).Prepares fun _ => True :=
  (prepares_make (by intro; trivial)).bind fun _ _ => prepares_pure trivial

namespace Adapter

theorem prepares_filledBuffer (label : String) (bytes : List UInt8) (use : BufferUse) :
    (filledBuffer label bytes use).Prepares fun _ => True :=
  (prepares_make (by intro; trivial)).bind fun _ _ => prepares_pure trivial

/-- A request that the host may refuse draws nothing. -/
theorem keeps_attempt {c : Command} (hc : c.IsAside) (what : String) (refusal : Option String) :
    (attempt c what refusal).Keeps fun _ => True := by
  refine (prepares_give hc).keeps.bind fun _ _ => ?_
  cases refusal with
  | none => exact (prepares_pure trivial).keeps
  | some reason => exact keeps_throw _

/-- Opening asks for a surface, an adapter and a device, any of which may be refused. -/
theorem keeps_openDevice (size : SurfaceSize) (o : DeviceOptions) :
    (openDevice size o).Keeps fun _ => True := by
  refine keeps_get_bind fun p => (prepares_give (by trivial)).keeps.bind fun _ _ => ?_
  -- a surface, an adapter and a device, each of which may be refused
  refine (prepares_ask _ _).keeps.bind fun _ _ =>
    (keeps_attempt (by trivial) _ _).bind fun _ _ => ?_
  refine (prepares_ask _ _).keeps.bind fun _ _ =>
    (keeps_attempt (by trivial) _ _).bind fun _ _ => ?_
  refine (prepares_ask _ _).keeps.bind fun _ _ =>
    (keeps_attempt (by trivial) _ _).bind fun _ _ => ?_
  refine (prepares_ask _ _).keeps.bind fun capabilities _ => ?_
  cases SurfaceConfig.choose? capabilities size o with
  | none => exact keeps_throw _
  | some config =>
    refine (prepares_give (by trivial)).keeps.bind fun _ _ => ?_
    exact ((prepares_say _ _ _).bind fun _ _ => prepares_pure trivial).keeps

/-- An adapter starts without a frame, and with nothing in its tables. -/
theorem keeps_connect (size : SurfaceSize) (o : DeviceOptions) :
    (connect size o).Keeps fun a => a.frame = none ∧ a.tables = ⟨[], [], [], 0, 0⟩ := by
  refine (keeps_openDevice size o).bind fun config _ =>
    prepares_layouts.keeps.bind fun layouts _ => ?_
  refine (keeps_makePipeline _ _ _ _ _ _).bind fun _ _ =>
    (keeps_makePipeline _ _ _ _ _ _).bind fun _ _ => ?_
  refine (keeps_makePipeline _ _ _ _ _ _).bind fun _ _ =>
    (keeps_makePipeline _ _ _ _ _ _).bind fun _ _ => ?_
  -- what is left cannot fail
  refine (prepares_filledBuffer _ _ _).keeps.bind fun _ _ =>
    (prepares_filledBuffer _ _ _).keeps.bind fun _ _ => ?_
  refine (prepares_make (by intro; trivial)).keeps.bind fun _ _ => ?_
  refine (prepares_make (by intro; trivial)).keeps.bind fun _ _ => keeps_get_bind fun _ => ?_
  refine (prepares_arena _ _ _ _).keeps.bind fun _ _ =>
    (prepares_arena _ _ _ _).keeps.bind fun _ _ => ?_
  refine (prepares_arena _ _ _ _).keeps.bind fun _ _ =>
    (prepares_make (by intro; trivial)).keeps.bind fun _ _ => ?_
  refine (prepares_make (by intro; trivial)).keeps.bind fun _ _ =>
    prepares_makeEmptyView.keeps.bind fun _ _ => ?_
  exact (prepares_pure ⟨rfl, rfl⟩).keeps

end Adapter

/-- A session starts without a frame, with nothing in its tables, and on the host of its
platform. -/
theorem Session.of_start {size : SurfaceSize} {o : DeviceOptions} {window : WindowId}
    {p : Platform} {s : Session} (h : Session.start size o window p = .ok s) :
    s.platform.host = p.host ∧ s.adapter.frame = none ∧ s.adapter.tables = ⟨[], [], [], 0, 0⟩ := by
  obtain ⟨same, empty⟩ := Adapter.keeps_connect size o p (.ok s.adapter) s.platform (leads_start h)
  exact ⟨same, empty s.adapter rfl⟩

end Wgpu

end LitTiles
