import LitTiles.Proofs.Renderer.Course
import LitTiles.Proofs.Renderer.Frame

/-!
# What holds between frames

Along a course of a renderer three things stay true of it besides the invariant of its mirrors
(`Renderer.Settled`): the built-in effects are registered, the lighting chain goes by the settings,
and unless targets have to be made anew, those that were made last fit the size of the surface.

The last of these is the reason why frames are drawn on targets of the right size: a new size is
noted, and the note is kept until targets were made with success (`resizePending_of_render`).
-/

namespace LitTiles

/-! ## Laws along a course -/

/-- A law of a state and of what was called so far lives on in attempts at actions, if it does in
each of them. -/
theorem Action.Attempts.keeps {σ : Type} (law : σ → List Exchange → Prop)
    {as : List (Action σ Unit)}
    (ha : ∀ a ∈ as, ∀ s before h x t, law s before → a.Leads s h x t → law t (before ++ h))
    {s t : σ} {before h : List Exchange} (hs : law s before) (hl : Action.Attempts as s h t) :
    law t (before ++ h) := by
  induction as generalizing s before h with
  | nil =>
    obtain ⟨rfl, rfl⟩ := hl
    rwa [List.append_nil]
  | cons a as ih =>
    obtain ⟨h₁, h₂, x, r, rfl, hfirst, hrest⟩ := hl
    rw [← List.append_assoc]
    refine ih (fun a' ha' => ha a' (List.mem_cons_of_mem a ha')) ?_ hrest
    exact ha a List.mem_cons_self s before h₁ x r hs hfirst

/-! ## The targets that were made last -/

/-- The size of the surface and the targets that were made for it, after a call. -/
def Exchange.configure (c : Option (SurfaceSize × List SurfaceSize)) :
    Exchange → Option (SurfaceSize × List SurfaceSize)
  | ⟨.issue (.configureTargets surface targets), .ok ()⟩ => some (surface, targets)
  | _ => c

/-- The size of the surface for which targets were made last, and the targets. -/
def configuredAfter (h : List Exchange) : Option (SurfaceSize × List SurfaceSize) :=
  h.foldl Exchange.configure none

@[simp] theorem configuredAfter_concat (h : List Exchange) (e : Exchange) :
    configuredAfter (h ++ [e]) = e.configure (configuredAfter h) := by
  simp [configuredAfter]

theorem Exchange.configure_eq_self {e : Exchange} (he : ¬ e.call.Configures)
    (c : Option (SurfaceSize × List SurfaceSize)) : e.configure c = c := by
  obtain ⟨call, a⟩ := e
  cases call with
  | issue command =>
    cases command with
    | configureTargets surface targets => exact absurd trivial he
    | _ => rfl
  | _ => rfl

/-- Other calls leave the targets as they are. -/
theorem configuredAfter_append_of_steady {h h' : List Exchange}
    (hs : ∀ e ∈ h', ¬ e.call.Configures) : configuredAfter (h ++ h') = configuredAfter h := by
  induction h' generalizing h with
  | nil => rw [List.append_nil]
  | cons e h' ih =>
    have step := ih (h := h ++ [e]) fun e' he' => hs e' (List.mem_cons_of_mem e he')
    rw [configuredAfter_concat, Exchange.configure_eq_self (hs e List.mem_cons_self)] at step
    rwa [List.append_assoc] at step

namespace Renderer

variable {interface : Interface} {size : SurfaceSize} {config : RendererConfig}
  {textures : List Texture} {steps : List Step} {es : List Entry} {r t : Renderer}
  {scene : Scene} {camera : Camera} {time : Scalar} {before h : List Exchange}
  {x : Except RenderError Unit}

/-- What holds of a renderer that was just made, and lives on in every step, holds along a
course. -/
theorem Course.law (law : Renderer → List Exchange → Prop)
    (hmade : ∀ h r, (prepare textures).Leads (blank interface size config) h (.ok ()) r → law r h)
    (hstep : ∀ s ∈ steps, ∀ r before h x t, law r before → s.action.Leads r h x t →
      law t (before ++ h)) (hc : Course interface size config textures steps es r) :
    law r (exchanges es) := by
  obtain ⟨made, taken, r₀, rfl, ⟨h, rfl, hprepare⟩, htaken⟩ := hc
  have attempts := (Trail.attempts_erases Step.trail_erases).mpr ⟨taken, rfl, htaken⟩
  rw [exchanges_append, exchanges_entries]
  refine attempts.keeps law (fun a ha => ?_) (hmade h r₀ hprepare)
  obtain ⟨s, hs, rfl⟩ := List.mem_map.mp ha
  exact hstep s hs

/-! ## The registry -/

/-- Programs that were registered with success are known, and none is forgotten. -/
theorem isSome_find?_of_registerAll {bs : List (String × Effect × BlendMode)} {g g' : Registry}
    (hl : (bs.forM fun b => Registry.register b.1 b.2.1 b.2.2).Leads g h (.ok ()) g')
    {name : String} (hn : name ∈ bs.map (·.1) ∨ (g.find? name).isSome) :
    (g'.find? name).isSome := by
  induction bs generalizing g h with
  | nil =>
    obtain ⟨-, -, rfl⟩ := Action.leads_forM_nil.mp hl
    exact hn.resolve_left List.not_mem_nil
  | cons b bs ih =>
    obtain ⟨h₁, h₂, g₁, rfl, hfirst, hrest⟩ := Action.leads_forM_cons_ok.mp hl
    obtain ⟨-, ⟨-, rfl⟩ | ⟨e, he, -⟩⟩ := Registry.leads_register hfirst
    case inr => cases he
    refine ih hrest ?_
    by_cases hb : name = b.1
    · rw [hb, Registry.find?_insert_self]
      exact .inr rfl
    · rw [Registry.find?_insert_of_ne _ hb]
      exact hn.imp_left fun hmem => (List.mem_cons.mp hmem).resolve_left hb

theorem equipped_of_registerBuiltIns {g g' : Registry}
    (hl : Registry.registerBuiltIns.Leads g h (.ok ()) g') : g'.Equipped :=
  fun b hb => isSome_find?_of_registerAll hl (.inl (List.mem_map.mpr ⟨b, hb, rfl⟩))

/-- A renderer that was just made has its size and its settings, and the built-in effects were
registered. -/
theorem leads_prepare_ok
    (hl : (prepare textures).Leads (blank interface size config) h (.ok ()) r) :
    ∃ h' registry, Registry.registerBuiltIns.Leads { interface := interface } h' (.ok ()) registry ∧
      r = { blank interface size config with registry := registry } := by
  obtain ⟨_, h₁, h₂, r₁, -, htextures, hbuiltIns⟩ := Action.leads_bind_ok.mp hl
  obtain ⟨registry, hregister, rfl⟩ := Action.leads_within.mp hbuiltIns
  have same : r₁ = blank interface size config := by
    -- loading textures changes nothing
    have loads : ∀ t : Texture, (do
        Action.issue (.loadTexture t)
        Action.say .debug .renderer ("loaded atlas `" ++ t.name ++ "` (" ++
          toString t.width.toNat ++ "x" ++ toString t.height.toNat ++ ")") :
        Action Renderer Unit).Spares (fun _ => True) id := fun t =>
      (Action.spares_issue trivial).bind fun _ => Action.spares_say _ _ _
    exact (Action.Spares.forM (fun t _ => loads t) _ _ _ _ htextures).1
  subst same
  exact ⟨h₂, registry, hregister, rfl⟩

/-! ## Targets -/

/-- Once targets were made with success, they fit the surface. -/
theorem configuredAfter_resizeCalls
    (hc : r.resizePending = false → configuredAfter before = some (r.size, slotSizes r.size)) :
    configuredAfter (before ++ r.resizeCalls) = some (r.size, slotSizes r.size) := by
  unfold resizeCalls
  cases hp : r.resizePending with
  | true =>
    rw [if_pos rfl, configuredAfter_concat]
    rfl
  | false =>
    rw [if_neg Bool.false_ne_true, List.append_nil]
    exact hc hp

/-- What stays true of a renderer, beside the invariant of its mirrors. -/
structure Settled (r : Renderer) (h : List Exchange) : Prop where
  /-- The built-in effects are registered. -/
  equipped : r.registry.Equipped
  /-- The lighting chain goes by the settings. -/
  tuned : r.lighting.Tuned r.config.blurRadius r.config.lightCellSize
  /-- Unless targets have to be made anew, those that were made last fit the surface. -/
  configured : r.resizePending = false → configuredAfter h = some (r.size, slotSizes r.size)

theorem settled_of_prepare
    (hl : (prepare textures).Leads (blank interface size config) h (.ok ()) r) : Settled r h := by
  obtain ⟨_, registry, hregister, rfl⟩ := leads_prepare_ok hl
  exact ⟨equipped_of_registerBuiltIns hregister, Lighting.tuned_start _ _, fun hp => by cases hp⟩

/-- How a call of `render` goes: there is nothing to draw on, or targets could not be made, or a
frame is drawn on targets of the right size. -/
theorem render_cases (ht : r.lighting.Tuned r.config.blurRadius r.config.lightCellSize)
    (hl : (render scene camera time).Leads r h x t) :
    (r.size.isEmpty = true ∧ h = [] ∧ x = .ok () ∧ t = r) ∨
      (r.size.isEmpty = false ∧ r.resizePending = true ∧
        ∃ e, h = [⟨.issue r.resizing, .error e⟩] ∧ x = .error e ∧ t = r) ∨
      (r.size.isEmpty = false ∧ ∃ rest, h = r.resizeCalls ++ rest ∧
        (drawFrame scene camera time).Leads r.resized rest x t ∧
        (contract r.resized time).Honoured rest x t) := by
  rcases leads_render.mp hl with hempty | ⟨he, hl⟩
  · exact .inl hempty
  rcases leads_frame.mp hl with hrefused | ⟨rest, rfl, hd⟩
  · exact .inr (.inl ⟨he, hrefused⟩)
  · have honoured :=
      meets_drawFrame r.resized scene camera time r.resized rest x t (same_self ht) hd
    exact .inr (.inr ⟨he, rest, rfl, hd, honoured⟩)

theorem Settled.render (hs : Settled r before) (hl : (render scene camera time).Leads r h x t) :
    Settled t (before ++ h) := by
  rcases render_cases hs.tuned hl with
    ⟨-, rfl, -, rfl⟩ | ⟨-, hp, e, rfl, -, rfl⟩ | ⟨-, rest, rfl, -, honoured⟩
  · rwa [List.append_nil]
  · refine ⟨hs.equipped, hs.tuned, fun hp' => ?_⟩
    rw [hp] at hp'
    cases hp'
  · have same := honoured.keeps
    refine ⟨same.registry ▸ hs.equipped, ?_, fun _ => ?_⟩
    · rw [same.config]
      exact same.tuned
    · rw [← List.append_assoc, configuredAfter_append_of_steady fun e he => (honoured.calls e he).1,
        same.size]
      exact configuredAfter_resizeCalls hs.configured

/-- A step that leaves the registry, the lighting chain and the size as they are. -/
structure Aside (r : Renderer) (h : List Exchange) (t : Renderer) : Prop where
  /-- The effects are the same. -/
  registry : t.registry = r.registry
  /-- The lighting chain is the same. -/
  lighting : t.lighting = r.lighting
  /-- The blur is the same. -/
  blurRadius : t.config.blurRadius = r.config.blurRadius
  /-- The cells are the same. -/
  lightCellSize : t.config.lightCellSize = r.config.lightCellSize
  /-- The size is the same. -/
  size : t.size = r.size
  /-- The note of a new size is the same. -/
  resizePending : t.resizePending = r.resizePending
  /-- Targets are not made. -/
  calls : ∀ e ∈ h, ¬ e.call.Configures

/-- What may be done in a step. -/
theorem Step.cases_of_leads {s : Step} (hl : s.action.Leads r h x t) :
    (∃ scene camera time, s = .render scene camera time) ∨
      (∃ size, s = .setSize size ∧ h = [] ∧ t = r.setSize size) ∨
      (∃ name effect blend registry, s = .register name effect blend ∧
        (Registry.register name effect blend).Leads r.registry h x registry ∧
        t = { r with registry := registry }) ∨
      Aside r h t := by
  -- the steps that call nothing configure nothing
  have silent : ∀ e ∈ ([] : List Exchange), ¬ e.call.Configures :=
    fun _ he => absurd he List.not_mem_nil
  cases s with
  | render scene camera time => exact .inl ⟨scene, camera, time, rfl⟩
  | setSize size =>
    obtain ⟨rfl, -, rfl⟩ := Action.leads_modify.mp hl
    exact .inr (.inl ⟨size, rfl, rfl, rfl⟩)
  | register name effect blend =>
    have hl : (onRegistry (Registry.register name effect blend)).Leads r h x t := hl
    obtain ⟨registry, hregister, rfl⟩ := Action.leads_within.mp hl
    exact .inr (.inr (.inl ⟨name, effect, blend, registry, rfl, hregister, rfl⟩))
  | setClearColor color =>
    obtain ⟨rfl, -, rfl⟩ := Action.leads_modify.mp hl
    exact .inr (.inr (.inr ⟨rfl, rfl, rfl, rfl, rfl, rfl, silent⟩))
  | setPasses passes =>
    obtain ⟨rfl, -, rfl⟩ := Action.leads_modify.mp hl
    exact .inr (.inr (.inr ⟨rfl, rfl, rfl, rfl, rfl, rfl, silent⟩))
  | invalidate id =>
    obtain ⟨rfl, -, rfl⟩ := Action.leads_modify.mp hl
    exact .inr (.inr (.inr ⟨rfl, rfl, rfl, rfl, rfl, rfl, silent⟩))
  | loadTexture texture =>
    obtain ⟨rfl, rfl⟩ := Action.leads_issue.mp hl
    exact .inr (.inr (.inr ⟨rfl, rfl, rfl, rfl, rfl, rfl, List.forall_mem_singleton.mpr id⟩))

/-- What holds of a renderer lives on in every step. -/
theorem Settled.step (hs : Settled r before) {s : Step} (hl : s.action.Leads r h x t) :
    Settled t (before ++ h) := by
  rcases Step.cases_of_leads hl with ⟨scene, camera, time, rfl⟩ | ⟨size, rfl, rfl, rfl⟩ |
    ⟨name, effect, blend, registry, rfl, hregister, rfl⟩ | ha
  · exact hs.render hl
  -- another size makes the configuration pending, and then there is nothing to show
  · rw [List.append_nil, setSize]
    by_cases he : size = r.size
    · rw [if_pos he]
      exact hs
    · rw [if_neg he]
      exact ⟨hs.equipped, hs.tuned, fun hp => by cases hp⟩
  · obtain ⟨rfl, hr⟩ := Registry.leads_register hregister
    -- a registered effect is equipped, one that was refused is not there
    refine ⟨?_, hs.tuned, fun hp => ?_⟩
    · rcases hr with ⟨-, rfl⟩ | ⟨e, -, rfl⟩
      · exact hs.equipped.insert name _
      · exact hs.equipped
    · rw [configuredAfter_concat]
      exact hs.configured hp
  · refine ⟨ha.registry ▸ hs.equipped, ?_, fun hp => ?_⟩
    · rw [ha.lighting, ha.blurRadius, ha.lightCellSize]
      exact hs.tuned
    · rw [configuredAfter_append_of_steady ha.calls, ha.size]
      exact hs.configured (ha.resizePending ▸ hp)

/-- What holds of a renderer holds along a course. -/
theorem Course.settled (hc : Course interface size config textures steps es r) :
    Settled r (exchanges es) :=
  hc.law Settled (fun _ _ hl => settled_of_prepare hl) fun _ _ _ _ _ _ _ hs hl => hs.step hl

/-- A new size stays noted until targets were made with success. -/
theorem resizePending_of_render (ht : r.lighting.Tuned r.config.blurRadius r.config.lightCellSize)
    (hl : (Renderer.render scene camera time).Leads r h x t) :
    t.resizePending = true ↔ r.resizePending = true ∧
      ∀ surface targets, Exchange.done (.configureTargets surface targets) ∉ h := by
  rcases render_cases ht hl with
    ⟨-, rfl, -, rfl⟩ | ⟨-, hp, e, rfl, -, rfl⟩ | ⟨-, rest, rfl, -, honoured⟩
  · simp
  · refine ⟨fun _ => ⟨hp, fun surface targets hmem => ?_⟩, fun _ => hp⟩
    -- the only call was refused
    have := List.mem_singleton.mp hmem
    simp [Exchange.done] at this
  · have hf : t.resizePending = false := honoured.keeps.resizePending
    refine iff_of_false (fun hp => by rw [hf] at hp; cases hp) fun ⟨hp, hnone⟩ => ?_
    refine hnone r.size (slotSizes r.size) (List.mem_append_left _ ?_)
    rw [resizeCalls, if_pos hp]
    exact List.mem_singleton_self _

/-- A call that fails ends the frame, and its error is the answer. -/
theorem halted_render (hs : Settled r before)
    (hl : (Renderer.render scene camera time).Leads r h x t) : Halted h x := by
  rcases render_cases hs.tuned hl with
    ⟨-, rfl, -⟩ | ⟨-, -, e, rfl, rfl, -⟩ | ⟨-, rest, rfl, -, honoured⟩
  · exact granted_nil.halted
  · exact halted_singleton fun err he => congrArg Except.error (Option.some.inj he)
  · have granted : Granted r.resizeCalls := fun e he => by
      rw [eq_done_of_mem_resizeCalls he]
      rfl
    exact granted.halted_append honoured.halted

end Renderer

end LitTiles
