import LitTiles.Proofs.Gl.Leftovers

/-!
# Adapters on drivers that refuse nothing

A driver is `Flawless` if it makes all objects, compiles and links all programs, and completes all
framebuffers. On such a driver a call fails only if there is something wrong with the call itself:
its answer and the tables after it follow from the tables before (`Session.obeys_perform`).
-/

namespace LitTiles.Gl

open ContextM

/-- A host that refuses nothing. -/
structure Host.Flawless (h : Host) : Prop where
  /-- All objects can be made. -/
  creates : ∀ k n, h.creationError k n = none
  /-- All shaders compile. -/
  compiles : ∀ n, h.compileLog n = none
  /-- All programs link. -/
  links : ∀ n, h.linkLog n = none
  /-- All framebuffers can be drawn to. -/
  completes : ∀ n, h.framebufferStatus n = framebufferComplete

/-! ## What makes objects -/

namespace ContextM

variable {α β : Type} {m : ContextM α} {f : α → ContextM β} {cs : List Command} {x x' : Context}

/-- On a host that refuses nothing a computation has an answer. -/
def Succeeds (m : ContextM α) : Prop :=
  ∀ x r x', x.host.Flawless → m.Leads x r x' → (∃ v, r = .ok v) ∧ x'.host = x.host

theorem succeeds_pure {v : α} : (pure v : ContextM α).Succeeds := by
  intro x r x' _ h
  obtain ⟨rfl, rfl⟩ := leads_pure h
  exact ⟨⟨v, rfl⟩, rfl⟩

/-- The rule of sequencing. That the host is the same after the first part is what the rest
needs. -/
theorem Succeeds.bind (hm : m.Succeeds) (hf : ∀ v, (f v).Succeeds) : (m >>= f).Succeeds := by
  intro x r x' hx h
  rcases leads_bind h with ⟨e, -, hm'⟩ | ⟨v, y, hm', h⟩
  · obtain ⟨⟨v, hv⟩, -⟩ := hm _ _ _ hx hm'
    cases hv
  · obtain ⟨-, hy⟩ := hm _ _ _ hx hm'
    obtain ⟨hr, hx'⟩ := hf v _ _ _ (hy ▸ hx) h
    exact ⟨hr, hx'.trans hy⟩

/-- Commands in a row are never refused. -/
theorem succeeds_giveAll : (Context.giveAll cs).Succeeds := by
  intro x r x' _ h
  obtain ⟨rfl, gave⟩ := leads_giveAll h
  exact ⟨⟨(), rfl⟩, gave.host⟩

/-- Neither is a single one. -/
theorem succeeds_give {c : Command} : (Context.give c).Succeeds := by
  intro x r x' _ h
  obtain ⟨rfl, gave⟩ := leads_give h
  exact ⟨⟨(), rfl⟩, gave.host⟩

/-- On a flawless driver a request leaves only the case in which it is granted. -/
theorem succeeds_created {k : ObjectKind} {refused : String → RenderError}
    {command : Handle k → Command} {r : Except RenderError (Handle k)} (hx : x.host.Flawless)
    (h : Created x refused command r x') :
    (∃ v, r = .ok v) ∧ x'.host = x.host := by
  rcases h with ⟨-, asked, refusal⟩ | ⟨o, rfl, -, asked, -⟩
  · exact absurd (fun k n _ _ => hx.creates k n) refusal
  · exact ⟨⟨o, rfl⟩, asked.host⟩

theorem succeeds_create {k : ObjectKind} {refused : String → RenderError} :
    (Context.create k refused).Succeeds :=
  fun _ _ _ hx h => succeeds_created hx (leads_create h)

theorem succeeds_createShader {stage : ShaderStage} {refused : String → RenderError} :
    (Context.createShader stage refused).Succeeds :=
  fun _ _ _ hx h => succeeds_created hx (leads_createShader h)

/-- Compiling at the front of a `do` block: there is no log, so only this continuation is looked
at. -/
theorem succeeds_compileShader_bind {s : Handle .shader} {f : Option String → ContextM α}
    (hf : (f none).Succeeds) : (Context.compileShader s >>= f).Succeeds := by
  intro x r x' hx h
  obtain ⟨n, y, gave, h⟩ := leads_compileShader_bind h
  rw [hx.compiles] at h
  obtain ⟨hr, hx'⟩ := hf _ _ _ (gave.host ▸ hx) h
  exact ⟨hr, hx'.trans gave.host⟩

/-- Linking at the front of a `do` block, likewise without a log. -/
theorem succeeds_linkProgram_bind {p : Handle .program} {f : Option String → ContextM α}
    (hf : (f none).Succeeds) : (Context.linkProgram p >>= f).Succeeds := by
  intro x r x' hx h
  obtain ⟨n, y, gave, h⟩ := leads_linkProgram_bind h
  rw [hx.links] at h
  obtain ⟨hr, hx'⟩ := hf _ _ _ (gave.host ▸ hx) h
  exact ⟨hr, hx'.trans gave.host⟩

/-- The status of a framebuffer is the one of a complete framebuffer. -/
theorem succeeds_checkFramebuffer_bind {f : Nat → ContextM α}
    (hf : (f framebufferComplete).Succeeds) :
    (Context.checkFramebuffer >>= f).Succeeds := by
  intro x r x' hx h
  obtain ⟨n, y, gave, h⟩ := leads_checkFramebuffer_bind h
  rw [hx.completes] at h
  obtain ⟨hr, hx'⟩ := hf _ _ _ (gave.host ▸ hx) h
  exact ⟨hr, hx'.trans gave.host⟩

end ContextM

/-- Both stages of a program compile. -/
theorem succeeds_compileStage (name : String) (earlier : List (Handle .shader))
    (stage : ShaderStage) (text : String) : (compileStage name earlier stage text).Succeeds :=
  succeeds_createShader.bind fun _ => succeeds_give.bind fun _ =>
    succeeds_compileShader_bind succeeds_pure

/-- A program is made from its stages, and linking it works. -/
theorem succeeds_link (name vertex fragment : String) (attributes : List String) :
    (link name vertex fragment attributes).Succeeds := by
  refine (succeeds_compileStage _ _ _ _).bind fun v =>
    (succeeds_compileStage _ _ _ _).bind fun f => ?_
  refine succeeds_create.bind fun p => succeeds_giveAll.bind fun _ =>
    succeeds_giveAll.bind fun _ => ?_
  exact succeeds_linkProgram_bind (succeeds_giveAll.bind fun _ => succeeds_pure)

theorem succeeds_linkSource (name vertex fragment : String) (attributes : List GlslVariable) :
    (linkSource name (.glsl vertex fragment) attributes).Succeeds :=
  succeeds_pure.bind fun _ => succeeds_link _ _ _ _

theorem succeeds_createTexture (c : Capabilities) (width height : UInt32)
    (pixels : Option (List UInt8)) (filter : Filter) :
    (createTexture c width height pixels filter).Succeeds :=
  succeeds_create.bind fun _ => succeeds_giveAll.bind fun _ => succeeds_pure

/-- A target is a texture and a framebuffer that is complete. -/
theorem succeeds_renderTarget (c : Capabilities) (index : Nat) (size : SurfaceSize) :
    (RenderTarget.make c index size).Succeeds := by
  refine (succeeds_createTexture _ _ _ _ _).bind fun t => succeeds_create.bind fun f => ?_
  refine succeeds_giveAll.bind fun _ =>
    succeeds_checkFramebuffer_bind (succeeds_give.bind fun _ => ?_)
  dsimp only
  rw [if_pos rfl]
  exact succeeds_pure

/-! ## Calls -/

namespace Session

variable {s s' : Session} {lost : List Object} {samplers : Handle .program → List Nat}

/-- A call was answered according to the tables, and these are as they should be afterwards. -/
structure Obeys (s : Session) (c : Call) (o : c.Outcome) (s' : Session) : Prop where
  /-- The answer. -/
  reply : c.reply o = s.adapter.tables.reply c
  /-- The tables afterwards. -/
  tables : s'.adapter.tables = s.adapter.tables.after c
  /-- The host is the same. -/
  host : s'.context.host = s.context.host

/-- Loading a texture is answered without an error, and the table has the name afterwards. -/
theorem obeys_loadTexture (hx : s.context.host.Flawless) {t : Texture} {r : Except RenderError Unit}
    (h : (Adapter.loadTexture t).Leads s r s') : s.Obeys (.issue (.loadTexture t)) r s' := by
  rcases Adapter.leads_loadTexture h with ⟨e, he, rfl, rfl⟩ | ⟨hv, made, y, hm, outcome⟩
  · refine ⟨?_, ?_, rfl⟩
    · simp only [Tables.reply, Tables.drawings, he]
      rfl
    · simp only [Tables.after, he]
  obtain ⟨⟨texture, rfl⟩, hy⟩ := succeeds_createTexture _ _ _ _ _ _ _ _ hx hm
  rcases outcome with ⟨e, he, -⟩ | ⟨texture', -, rfl, ha, gave⟩
  · cases he
  refine ⟨?_, ?_, gave.host.trans hy⟩
  · simp only [Tables.reply, Tables.drawings, hv]
    rfl
  · simp only [Tables.after, hv, ha, Adapter.tables, map_fst_insert]

/-- A pair of GLSL texts is linked, and the effect is known from now on. -/
theorem obeys_compileProgram (hx : s.context.host.Flawless) {name vertex fragment : String}
    {p : EffectProgram} (hp : p.source = .glsl vertex fragment) {r : Except RenderError Unit}
    (h : (Adapter.compileProgram name p).Leads s r s') :
    s.Obeys (.issue (.compileProgram name p)) r s' := by
  obtain ⟨linked, y, hl, outcome⟩ := Adapter.leads_compileProgram h
  rw [hp] at hl
  obtain ⟨⟨program, rfl⟩, hy⟩ := succeeds_linkSource _ _ _ _ _ _ _ hx hl
  rcases outcome with ⟨e, he, -⟩ | ⟨program', made, z, -, hm, outcome⟩
  · cases he
  obtain ⟨effect, cs, rfl, -, -, -, -, asked, -⟩ := LinkedEffect.leads_make hm
  rcases outcome with ⟨e, he⟩ | ⟨effect', -, rfl, ha, gave⟩
  · cases he
  refine ⟨rfl, ?_, (gave.host.trans asked.host).trans hy⟩
  simp only [Tables.after, ha, Adapter.tables, map_fst_insert]

/-- All targets are made. -/
theorem built_of_flawless {c : Capabilities} {sizes : List (SurfaceSize × Nat)} {x y : Context}
    {ts : List RenderTarget} {r : Except RenderError Unit} (h : Adapter.Built c sizes x ts r y)
    (hx : x.host.Flawless) : r = .ok () ∧ ts.length = sizes.length ∧ y.host = x.host := by
  induction h with
  | done x => exact ⟨rfl, rfl, rfl⟩
  | failed hm =>
    obtain ⟨⟨t, ht⟩, -⟩ := succeeds_renderTarget _ _ _ _ _ _ hx hm
    cases ht
  | next hm _ ih =>
    obtain ⟨-, hy⟩ := succeeds_renderTarget _ _ _ _ _ _ hx hm
    obtain ⟨hr, length, hz⟩ := ih (hy ▸ hx)
    exact ⟨hr, congrArg (· + 1) length, hz.trans hy⟩

/-- As many targets as sizes are there afterwards, whatever was there before. -/
theorem obeys_configureTargets (hx : s.context.host.Flawless) {surface : SurfaceSize}
    {sizes : List SurfaceSize} {r : Except RenderError Unit}
    (h : (Adapter.configureTargets surface sizes).Leads s r s') :
    s.Obeys (.issue (.configureTargets surface sizes)) r s' := by
  obtain ⟨y, ts, z, gave, built, gave', ha⟩ := Adapter.leads_configureTargets h
  obtain ⟨rfl, length, hz⟩ := built_of_flawless built (gave.host ▸ hx)
  rw [List.length_zipIdx] at length
  refine ⟨rfl, ?_, (gave'.host.trans hz).trans gave.host⟩
  simp only [Tables.after, ha, Adapter.tables, length]

/-- A buffer gets the next number, and the number is in the table. -/
theorem obeys_createBuffer (hx : s.context.host.Flawless) {capacity : Nat}
    {r : Except RenderError BufferId} (h : (Adapter.createBuffer capacity).Leads s r s') :
    s.Obeys (.createBuffer capacity) r s' := by
  obtain ⟨made, y, hm, outcome⟩ := Adapter.leads_createBuffer h
  obtain ⟨⟨buffer, rfl⟩, hy⟩ := succeeds_create _ _ _ hx hm
  rcases outcome with ⟨e, he, -⟩ | ⟨buffer', -, rfl, ha, gave⟩
  · cases he
  refine ⟨rfl, ?_, gave.host.trans hy⟩
  simp only [Tables.after, ha, Adapter.tables, map_fst_insert]

/-- Freeing takes a number out of the table and has no answer. -/
theorem obeys_freeBuffer {id : BufferId} {r : Except RenderError Unit}
    (h : (Adapter.freeBuffer id).Leads s r s') :
    s.Obeys (.freeBuffer id) () s' := by
  rcases Adapter.leads_freeBuffer h with ⟨hn, ha, gave⟩ | ⟨b, -, ha, gave⟩
  · refine ⟨rfl, ?_, gave.host⟩
    simp only [Tables.after, ha, Adapter.tables, filter_of_lookup hn]
  · refine ⟨rfl, ?_, gave.host⟩
    simp only [Tables.after, ha, Adapter.tables, map_fst_erase]

/-- Calls that make no objects obey the tables on every driver. What they draw is known from
`Fit.agrees_commands`. -/
theorem obeys_of_spares (fit : s.adapter.Fit samplers) {c : LitTiles.Command} (hc : c.SparesObjects)
    {r : Except RenderError Unit} (h : (Adapter.execute c).Leads s r s') :
    s.Obeys (.issue c) r s' := by
  obtain ⟨ha, hr, gave⟩ := Adapter.leads_execute_of_spares hc h
  refine ⟨?_, ?_, gave.host⟩
  · rw [hr, Tables.reply]
    rcases fit.agrees_commands hc with ⟨e, he, hd⟩ | ⟨cs, ds, hcs, hd, -⟩
    · rw [he, hd]
      rfl
    · rw [hcs, hd]
      rfl
  · rw [ha]
    cases c <;> first | rfl | exact hc.elim

/-- **On a host that refuses nothing, each call obeys the tables**, if programs come in the language
of the driver. -/
theorem obeys_perform (hx : s.context.host.Flawless) (fit : s.adapter.Fit samplers) (c : Call)
    (hc : ∀ name p, c = .issue (.compileProgram name p) → ∃ vertex fragment,
      p.source = .glsl vertex fragment) :
    s.Obeys c (s.perform c).1 (s.perform c).2 := by
  cases c with
  | createBuffer capacity => exact obeys_createBuffer hx (s.leads_createBuffer capacity)
  | freeBuffer id =>
    obtain ⟨r, hl⟩ := s.leads_freeBuffer id
    exact obeys_freeBuffer hl
  | issue c =>
    have hl := s.leads_issue c
    by_cases spares : c.SparesObjects
    · exact obeys_of_spares fit spares hl
    cases c with
    | loadTexture t => exact obeys_loadTexture hx hl
    | compileProgram name p =>
      obtain ⟨vertex, fragment, hp⟩ := hc name p rfl
      exact obeys_compileProgram hx hp hl
    | configureTargets surface sizes => exact obeys_configureTargets hx hl
    | _ => exact absurd trivial spares

/-- A session starts with nothing in its tables. -/
theorem tables_start {interface : Interface} {size : SurfaceSize} {host : Host}
    (h : Session.start interface size { host := host } = .ok s) :
    s.adapter.tables = ⟨[], [], [], 0, 0⟩ := by
  rcases Adapter.leads_connect (Context.sound_start host) (leads_start h) with
    ⟨a, ha, -, -, -, targets, atlases, buffers, next, effects, -⟩ | ⟨e, left, he, -⟩
  · obtain rfl := Except.ok.inj ha
    rw [Adapter.tables, targets, atlases, buffers, next, effects]
    rfl
  · cases he

end Session

end LitTiles.Gl
