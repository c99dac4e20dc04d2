import LitTiles.Proofs.Effect.Resolution
import LitTiles.Proofs.Renderer.FrameLaw

/-!
# Targets follow the size of the surface

The size of the surface is known in four places: to the renderer, which may have noted a new one; to
the backend, which made targets for it; to each frame, which tells stages how large their outputs
are; and to programs, as their resolution. They agree whenever something is drawn
(`targets_follow_size`), whatever sizes were noted and whichever calls failed, and targets are not
made again for a size they have. The size itself is the one that was noted last (`Course.size_eq`).
-/

namespace LitTiles

/-- The size of a target, if targets of some sizes were made for a surface. -/
def Target.sizeIn (surface : SurfaceSize) (targets : List SurfaceSize) : Target → Option SurfaceSize
  | .surface => some surface
  | .offscreen i => targets[i]?

/-- What a frame takes for the size of a target is its size, if targets were made for the surface of
the frame. -/
theorem FrameContext.sizeOf_eq_ok_iff {frame : FrameContext} {target : Target}
    {size : SurfaceSize} :
    frame.sizeOf target = .ok size ↔
      target.sizeIn frame.surface (slotSizes frame.surface) = some size := by
  cases target with
  | surface => simp [sizeOf, Target.sizeIn]
  | offscreen i => cases hs : (slotSizes frame.surface)[i]? <;> simp [sizeOf, Target.sizeIn, hs]

/-- Where the command of a stage comes from, and what its uniforms start with. -/
theorem Stage.take_uniforms {registry : Registry} {frame : FrameContext} {s : Stage} {name : String}
    {inputs : List Nat} {output : Target} {uniforms : List Scalar} {clear : Option Color}
    (hb : registry.Built)
    (hc : s.command registry frame = .ok (.runProgram name inputs output uniforms clear))
    (ho : ∀ o ∈ s.overrides, o.name ≠ Effect.resolutionName) :
    ∃ size, output.sizeIn frame.surface (slotSizes frame.surface) = some size ∧
      uniforms.take 2 = size.toList := by
  obtain ⟨e, size, hcheck, hrun⟩ := command_eq_ok_iff.mp hc
  obtain ⟨hfind, -, -, hsize⟩ := check_eq_ok_iff.mp hcheck
  obtain ⟨-, -, rfl, rfl, -⟩ := Command.runProgram.inj hrun
  refine ⟨size, FrameContext.sizeOf_eq_ok_iff.mp hsize, ?_⟩
  have start := (hb s.effect e hfind).laid.prefix_pack size frame.time ho
  exact (List.prefix_iff_eq_take.mp start).symm

namespace Renderer

variable {interface : Interface} {size : SurfaceSize} {config : RendererConfig}
  {textures : List Texture} {steps later : List Step} {es : List Entry} {r s t : Renderer}
  {scene : Scene} {camera : Camera} {time : Scalar} {before h h₁ h₂ : List Exchange} {e : Exchange}
  {x : Except RenderError Unit}

/-! ## Registered effects were built -/

theorem built_of_register {name : String} {effect : Effect} {blend : BlendMode} {g g' : Registry}
    (hg : g.Built) (he : effect.Built) (hl : (Registry.register name effect blend).Leads g h x g') :
    g'.Built := by
  obtain ⟨-, ⟨-, rfl⟩ | ⟨e, -, rfl⟩⟩ := Registry.leads_register hl
  · exact hg.insert he
  · exact hg

theorem built_of_registerAll {bs : List (String × Effect × BlendMode)} {g g' : Registry}
    (hb : ∀ b ∈ bs, b.2.1.Built) (hg : g.Built)
    (hl : (bs.forM fun b => Registry.register b.1 b.2.1 b.2.2).Leads g h (.ok ()) g') :
    g'.Built := by
  induction bs generalizing g h with
  | nil =>
    obtain ⟨-, -, rfl⟩ := Action.leads_forM_nil.mp hl
    exact hg
  | cons b bs ih =>
    obtain ⟨h₁, h₂, g₁, rfl, hfirst, hrest⟩ := Action.leads_forM_cons_ok.mp hl
    have hg₁ := built_of_register hg (hb b List.mem_cons_self) hfirst
    exact ih (fun b' hb' => hb b' (List.mem_cons_of_mem b hb')) hg₁ hrest

theorem built_of_prepare
    (hl : (prepare textures).Leads (blank interface size config) h (.ok ()) r) :
    r.registry.Built := by
  obtain ⟨_, registry, hregister, rfl⟩ := leads_prepare_ok hl
  exact built_of_registerAll Registry.built_builtIns (fun _ _ hf => by cases hf) hregister

/-- Drawing leaves the size and the registry as they are. -/
theorem same_of_render (hs : Settled r before) (hl : (render scene camera time).Leads r h x t) :
    t.registry = r.registry ∧ t.size = r.size := by
  rcases render_cases hs.tuned hl with ⟨-, -, -, rfl⟩ | ⟨-, -, e, -, -, rfl⟩ | ⟨-,
    rest, -, -, honoured⟩
  · exact ⟨rfl, rfl⟩
  · exact ⟨rfl, rfl⟩
  · exact ⟨honoured.keeps.registry, honoured.keeps.size⟩

theorem built_of_step {step : Step} (hs : Settled r before) (hg : r.registry.Built)
    (hb : ∀ name effect blend, step = .register name effect blend → effect.Built)
    (hl : step.action.Leads r h x t) : t.registry.Built := by
  rcases Step.cases_of_leads hl with ⟨scene, camera, time, rfl⟩ | ⟨size, rfl, -, rfl⟩ |
    ⟨name, effect, blend, registry, rfl, hregister, rfl⟩ | ha
  · exact (same_of_render hs hl).1 ▸ hg
  · unfold setSize
    split <;> exact hg
  · exact built_of_register hg (hb name effect blend rfl) hregister
  · exact ha.registry ▸ hg

/-- All registered effects were built, if those were that a course registers. -/
theorem Course.built (hc : Course interface size config textures steps es r)
    (hb : ∀ name effect blend, .register name effect blend ∈ steps → effect.Built) :
    r.registry.Built := by
  refine (hc.law (fun r h => Settled r h ∧ r.registry.Built) (fun h r hl => ?_) ?_).2
  · exact ⟨settled_of_prepare hl, built_of_prepare hl⟩
  · rintro step hmem r before h x t ⟨hs, hg⟩ hl
    refine ⟨hs.step hl, built_of_step hs hg (fun name effect blend he => ?_) hl⟩
    exact hb name effect blend (he ▸ hmem)

/-! ## The size of the surface -/

/-- The size after a step: the one that the step notes, or else the one before it. -/
def Step.sizeAfter (size : SurfaceSize) : Step → SurfaceSize
  | .setSize size' => size'
  | _ => size

/-- A renderer has the size that it notes, be it a new one or not. -/
theorem size_setSize (r : Renderer) (size : SurfaceSize) : (r.setSize size).size = size := by
  unfold setSize
  split
  next he => exact he.symm
  next => rfl

theorem size_of_step {step : Step} (hs : Settled r before) (hl : step.action.Leads r h x t) :
    t.size = step.sizeAfter r.size := by
  cases step with
  | render scene camera time => exact (same_of_render hs hl).2
  | setSize size =>
    obtain ⟨-, -, rfl⟩ := Action.leads_modify.mp hl
    exact size_setSize r size
  | loadTexture texture =>
    obtain ⟨-, rfl⟩ := Action.leads_issue.mp hl
    rfl
  | register name effect blend =>
    have hl : (onRegistry (Registry.register name effect blend)).Leads r h x t := hl
    obtain ⟨registry, -, rfl⟩ := Action.leads_within.mp hl
    rfl
  | _ =>
    obtain ⟨-, -, rfl⟩ := Action.leads_modify.mp hl
    rfl

theorem size_of_attempts (hs : Settled r before)
    (ha : Action.Attempts (steps.map Step.action) r h s) :
    s.size = steps.foldl Step.sizeAfter r.size := by
  induction steps generalizing r before h with
  | nil =>
    obtain ⟨-, rfl⟩ := ha
    rfl
  | cons step steps ih =>
    obtain ⟨h₁, h₂, x, r', -, hstep, hrest⟩ := ha
    rw [ih (hs.step hstep) hrest, size_of_step hs hstep, List.foldl_cons]

/-- After a course a renderer has the size that was noted last, or else the one it was made with. So
this is the size that everything goes by in the next frame, whichever calls failed on the way. -/
theorem Course.size_eq (hc : Course interface size config textures steps es r) :
    r.size = steps.foldl Step.sizeAfter size := by
  obtain ⟨made, taken, r₀, rfl, ⟨h, rfl, hprepare⟩, htaken⟩ := hc
  have attempts := (Trail.attempts_erases Step.trail_erases).mpr ⟨taken, rfl, htaken⟩
  have start : r₀.size = size := by
    obtain ⟨-, registry, -, rfl⟩ := leads_prepare_ok hprepare
    rfl
  rw [size_of_attempts (settled_of_prepare hprepare) attempts, start]

/-! ## The size of what is drawn on -/

/-- Whenever anything but the making of targets is called in a frame, the targets fit the
surface. -/
theorem configuredAfter_of_split (hs : Settled r before)
    (hl : (render scene camera time).Leads r h x t) (he : h = h₁ ++ e :: h₂)
    (hn : ¬ e.call.Configures) :
    configuredAfter (before ++ h₁) = some (r.size, slotSizes r.size) := by
  rcases render_cases hs.tuned hl with
    ⟨-, rfl, -⟩ | ⟨-, -, err, rfl, -⟩ | ⟨-, rest, rfl, -, honoured⟩
  · cases h₁ <;> cases he
  · have hmem : e ∈ [⟨.issue r.resizing, .error err⟩] :=
      he ▸ List.mem_append_right _ List.mem_cons_self
    obtain rfl := List.mem_singleton.mp hmem
    exact absurd trivial hn
  · rcases List.append_eq_append_iff.mp he with ⟨mid, rfl, rfl⟩ | ⟨mid, hresize, hmid⟩
    · -- the call comes after the start of the frame
      rw [← List.append_assoc, configuredAfter_append_of_steady fun e' he' =>
        (honoured.calls e' (List.mem_append_left _ he')).1]
      exact configuredAfter_resizeCalls hs.configured
    · cases mid with
      | nil =>
        rw [List.append_nil] at hresize
        rw [← hresize]
        exact configuredAfter_resizeCalls hs.configured
      | cons e' mid =>
        -- the call would be the one that makes targets
        obtain ⟨rfl, -⟩ := List.cons.inj hmid
        have hmem : e ∈ r.resizeCalls := hresize ▸ List.mem_append_right _ List.mem_cons_self
        obtain rfl := eq_done_of_mem_resizeCalls hmem
        exact absurd trivial hn

/-- A program is run in a frame for one of its stages. -/
theorem runsFor_of_render (hs : Settled r before) (hl : (render scene camera time).Leads r h x t)
    (he : e ∈ h) : Stage.RunsFor r.registry ⟨r.size, time⟩ r.frameStages e.call := by
  rcases render_cases hs.tuned hl with
    ⟨-, rfl, -⟩ | ⟨-, -, err, rfl, -⟩ | ⟨-, rest, rfl, -, honoured⟩
  · cases he
  · obtain rfl := List.mem_singleton.mp he
    exact nofun
  · rcases List.mem_append.mp he with he | he
    · obtain rfl := eq_done_of_mem_resizeCalls he
      exact nofun
    · exact (honoured.calls e he).2

/-! ## Targets that fit -/

/-- Targets are not made unless that is pending. -/
theorem not_configures_of_render (hs : Settled r before) (hp : r.resizePending = false)
    (hl : (render scene camera time).Leads r h x t) : ∀ e ∈ h, ¬ e.call.Configures := by
  rcases render_cases hs.tuned hl with
    ⟨-, rfl, -⟩ | ⟨-, hp', -⟩ | ⟨-, rest, rfl, -, honoured⟩
  · exact fun _ he => absurd he List.not_mem_nil
  · rw [hp] at hp'
    cases hp'
  · rw [resizeCalls, hp, if_neg Bool.false_ne_true, List.nil_append]
    exact fun e he => (honoured.calls e he).1

/-- If nothing is pending, nothing is after a step that does not change the size. -/
theorem resizePending_of_step {step : Step} (hs : Settled r before) (hp : r.resizePending = false)
    (hsize : ∀ size, step = .setSize size → size = r.size) (hl : step.action.Leads r h x t) :
    t.resizePending = false ∧ t.size = r.size := by
  rcases Step.cases_of_leads hl with ⟨scene, camera, time, rfl⟩ | ⟨size, rfl, -, rfl⟩ |
    ⟨name, effect, blend, registry, rfl, -, rfl⟩ | ha
  · refine ⟨eq_false_of_ne_true fun ht => ?_, (same_of_render hs hl).2⟩
    obtain ⟨hr, -⟩ := (resizePending_of_render hs.tuned hl).mp ht
    rw [hp] at hr
    cases hr
  · rw [setSize, if_pos (hsize size rfl)]
    exact ⟨hp, rfl⟩
  · exact ⟨hp, rfl⟩
  · exact ⟨ha.resizePending.trans hp, ha.size⟩

/-- Nothing is pending as long as the size stays the same. -/
theorem resizePending_of_attempts (hs : Settled r before) (hp : r.resizePending = false)
    (hsize : ∀ size, .setSize size ∈ later → size = r.size)
    (ha : Action.Attempts (later.map Step.action) r h s) :
    Settled s (before ++ h) ∧ s.resizePending = false := by
  let law (s : Renderer) (h : List Exchange) : Prop :=
    Settled s h ∧ s.resizePending = false ∧ s.size = r.size
  have keeps : ∀ a ∈ later.map Step.action, ∀ s before h x t, law s before → a.Leads s h x t →
      law t (before ++ h) := by
    rintro a hmem s before h x t ⟨hs, hp, hr⟩ hl
    obtain ⟨step, hstep, rfl⟩ := List.mem_map.mp hmem
    have hkeep : ∀ size, step = .setSize size → size = s.size := by
      rintro size rfl
      exact (hsize size hstep).trans hr.symm
    obtain ⟨hp', hr'⟩ := resizePending_of_step hs hp hkeep hl
    exact ⟨hs.step hl, hp', hr'.trans hr⟩
  obtain ⟨hs', hp', -⟩ := ha.keeps law keeps ⟨hs, hp, rfl⟩
  exact ⟨hs', hp'⟩

/-! ## All sizes agree -/

/-- Uniforms start with the size of an output, of those targets that were made last. -/
def StartsWithSize (before : List Exchange) (output : Target) (uniforms : List Scalar) : Prop :=
  ∃ surface targets size, configuredAfter before = some (surface, targets) ∧
    output.sizeIn surface targets = some size ∧ uniforms.take 2 = size.toList

/-- A call of `render` goes by the size of the surface. -/
structure FollowsSize (before : List Exchange) (r : Renderer) (time : Scalar) (h : List Exchange)
    (t : Renderer) : Prop where
  /-- Where there is nothing to draw on nothing is called, and what was noted stays noted. -/
  skipped : r.size.isEmpty = true → h = [] ∧ t = r
  /-- When a frame begins, the targets that were made last fit the surface. -/
  begins : ∀ h₁ view a h₂, h = h₁ ++ ⟨.issue (.beginFrame view), a⟩ :: h₂ →
    configuredAfter (before ++ h₁) = some (r.size, slotSizes r.size)
  /-- A program is run for a stage of the frame, and unless the stage overrides the resolution it is
  that of its output. -/
  runs : ∀ h₁ name inputs output uniforms clear a h₂,
    h = h₁ ++ ⟨.issue (.runProgram name inputs output uniforms clear), a⟩ :: h₂ →
      (∃ stage ∈ r.frameStages, stage.command r.registry ⟨r.size, time⟩ =
        .ok (.runProgram name inputs output uniforms clear)) ∧
      ∀ stage : Stage, stage.command r.registry ⟨r.size, time⟩ =
        .ok (.runProgram name inputs output uniforms clear) →
        (∀ o ∈ stage.overrides, o.name ≠ Effect.resolutionName) →
          StartsWithSize (before ++ h₁) output uniforms
  /-- Once targets were made with success they are not made again before the size changes. -/
  settled : (∃ surface targets, .done (.configureTargets surface targets) ∈ h) →
    ∀ (later : List Step) (h' : List Exchange) (s : Renderer),
      Action.Attempts (later.map Step.action) t h' s →
      (∀ size, .setSize size ∈ later → size = t.size) →
      ∀ scene camera time' h'' x s', (render scene camera time').Leads s h'' x s' →
        ∀ e ∈ h'', ¬ e.call.Configures

/-- Every call of `render` goes by the size of the surface, whatever was done before, if the effects
that are registered for passes were built. -/
theorem targets_follow_size (hc : Course interface size config textures steps es r)
    (hb : ∀ name effect blend, .register name effect blend ∈ steps → effect.Built)
    (hl : (render scene camera time).Leads r h x t) :
    FollowsSize (exchanges es) r time h t where
  skipped he := by
    rcases leads_render.mp hl with ⟨-, hh, -, ht⟩ | ⟨hn, -⟩
    · exact ⟨hh, ht⟩
    · rw [he] at hn
      cases hn
  begins h₁ view a h₂ he := configuredAfter_of_split hc.settled hl he id
  runs h₁ name inputs output uniforms clear a h₂ he := by
    have made := configuredAfter_of_split hc.settled hl he id
    have hmem : ⟨.issue (.runProgram name inputs output uniforms clear), a⟩ ∈ h :=
      he ▸ List.mem_append_right _ List.mem_cons_self
    refine ⟨runsFor_of_render hc.settled hl hmem _ _ _ _ _ rfl, fun stage hstage ho => ?_⟩
    obtain ⟨size, hsize, hu⟩ := Stage.take_uniforms (hc.built hb) hstage ho
    exact ⟨_, _, size, made, hsize, hu⟩
  settled hmade later h' s ha hsize scene camera time' h'' x' s' hl' := by
    have done : t.resizePending = false := eq_false_of_ne_true fun hp => by
      obtain ⟨surface, targets, hmem⟩ := hmade
      exact ((resizePending_of_render hc.settled.tuned hl).mp hp).2 surface targets hmem
    obtain ⟨hs, hp⟩ := resizePending_of_attempts (hc.settled.render hl) done hsize ha
    exact not_configures_of_render hs hp hl'

/-- A frame of a new size, and then the old size again. -/
def thereAndBack : List Step :=
  [.register "tint" .copy .replace, .setSize ⟨16, 8⟩, .render square default 0, .setSize ⟨8, 8⟩]

/-- These steps on a backend that refuses the targets of the new size. -/
def afterThereAndBack : List Exchange × Renderer × Recorder :=
  courseOn Recorder.backend { refusals := [(.configureTargets, 0)] } .wgpu ⟨8, 8⟩ {} [] thereAndBack

/-- The size has changed twice, and the targets of the size between were refused, so that the next
frame configures them although its size is the first one again. -/
theorem targets_follow_size_thereAndBack :
    ∃ es r h t, Course .wgpu ⟨8, 8⟩ {} [] thereAndBack es r ∧
      (∀ name effect blend, .register name effect blend ∈ thereAndBack → effect.Built) ∧
      (render square default 1).Leads r h (.ok ()) t ∧ Complete r square default 1 h ∧
      FollowsSize (exchanges es) r 1 h t := by
  obtain ⟨es, -, hc⟩ := exists_courseOn Recorder.backend { refusals := [(.configureTargets, 0)] }
    .wgpu ⟨8, 8⟩ {} [] thereAndBack (by decide +kernel)
  have hsize : afterThereAndBack.2.1.size.isEmpty = false := by decide +kernel
  have hp : ∀ stage ∈ afterThereAndBack.2.1.passes, stage.Sound afterThereAndBack.2.1.registry := by
    decide +kernel
  have built : ∀ name effect blend, .register name effect blend ∈ thereAndBack → effect.Built := by
    intro name effect blend hmem
    simp only [thereAndBack, List.mem_cons, reduceCtorEq, Step.register.injEq, List.not_mem_nil,
      or_false] at hmem
    obtain ⟨-, rfl, -⟩ := hmem
    exact Effect.built_withUv.set _ _
  have hl := Action.leads_heard numbering (render square default 1) afterThereAndBack.2.1 0
  have hg := granted_heard_numbering (render square default 1) afterThereAndBack.2.1 0
  rw [ok_of_granted hc.settled hp hl hg] at hl
  obtain ⟨updates, table, p, hf, -⟩ := exists_frameOf hc.settled hc.kept hsize hl
  exact ⟨es, _, _, _, hc, built, hl, ⟨exchanges updates, table, p, hf⟩,
    targets_follow_size hc built hl⟩

end Renderer

end LitTiles
