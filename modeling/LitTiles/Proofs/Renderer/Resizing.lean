import LitTiles.Proofs.Batch.Syncing
import LitTiles.Proofs.Renderer.Buffers
import LitTiles.Proofs.Wgpu.Holding

/-!
# Resizing with a frame at hand

A renderer on a wgpu session configures targets at one place only, at the start of a frame that
follows a change of size, and this is before the frame begins. If the frame before was aborted its
texture is still held then.

`surface_free_iff` says that this is the one way to break the law of surfaces.
-/

namespace LitTiles

open Wgpu

/-! ## All other calls -/

/-- The action never configures targets. -/
abbrev Action.Steady {σ α : Type} (a : Action σ α) : Prop :=
  a.Spares (fun c => ¬ c.Configures) fun _ => ()

namespace Renderer

theorem spares_onRegistry {α : Type} {ok : Call → Prop} {a : Action Registry α}
    (ha : a.Spares ok fun _ => ()) : (onRegistry a).Spares ok fun _ => () :=
  ha.within (by intros; rfl)

/-- Whatever has to do with neither buffers nor targets is steady. -/
theorem steady_of_plain {σ τ α : Type} {a : Action σ α} {part : σ → τ}
    (ha : a.Spares Call.IsPlain part) : a.Steady :=
  ha.forget.mono fun _ => Call.IsPlain.not_configures

/-- All that is drawn between the start of a frame and its end is steady. -/
theorem steady_drawFrame (scene : Scene) (camera : Camera) (time : Scalar) :
    (drawFrame scene camera time).Steady := by
  have upkeep : ∀ {a : Action MirrorTable Unit}, a.Meets (.upkeep MirrorTable) →
      (onMirrors a).Steady := fun ha =>
    ((ha.spares fun _ => trivial).mono fun _ => Call.IsUpkeep.not_configures).within
      (by intros; rfl)
  have painting : ∀ {view context}, (paint scene view context).Steady :=
    (spares_paint (fun _ => Call.IsPlain.not_configures) (fun _ _ _ _ => id) scene _ _).forget
  refine Action.spares_get.bind fun r => ?_
  refine (Action.spares_issue id).bind fun _ => ?_
  refine (upkeep (MirrorTable.meets_sync _)).bind fun _ => ?_
  refine painting.bind fun _ => ?_
  refine (upkeep MirrorTable.meets_collect).bind fun _ => ?_
  exact Action.spares_issue id

/-! ## One step on a session -/

section OnSession

open Session (backend)

variable {s : Session} {r : Renderer}

theorem follows_play {σ α : Type} {a : Action σ α} (ha : a.Steady) (t : σ) (s : Session) :
    s.Follows (a.play backend t s).2.2 := by
  refine ha.preserves (fun c s' hc hs => ?_) (fun n s' hs => ?_) t (.refl s)
  · exact hs.trans (Session.follows_perform hc s')
  · exact hs.trans (Session.follows_notice n s')

/-- A new size is applied lawfully if and only if there is no frame. -/
theorem applyResize_spec (hr : r.size.isEmpty = false) (h : s.Tidy) :
    let q := applyResize.play backend r s
    q.2.2.Tidy ∧ (q.2.2.platform.Lawful ↔
      s.platform.Lawful ∧ (r.resizePending = true → s.adapter.frame = none)) := by
  unfold applyResize
  rw [Action.play_get_bind]
  by_cases hp : r.resizePending = true
  -- the only command is the resize, and the session judges it
  · rw [if_pos hp, Action.play_bind, imp_iff_right hp]
    obtain ⟨ht, hl⟩ := Session.configure_spec h hr (slotSizes r.size)
    have step : (Action.issue (.configureTargets r.size (slotSizes r.size))).play backend r s =
        ((backend.perform (.issue (.configureTargets r.size (slotSizes r.size))) s).1, r,
          (backend.perform (.issue (.configureTargets r.size (slotSizes r.size))) s).2) := rfl
    rw [step]
    generalize backend.perform (.issue (.configureTargets r.size (slotSizes r.size))) s = q at ht hl
    obtain ⟨x, s'⟩ := q
    cases x with
    | error e => exact ⟨ht, hl⟩
    | ok v =>
      -- what follows a success is bookkeeping, which the session does not see
      have rest : (do
          modify fun r => { r with resizePending := false }
          Action.say .debug .renderer ("offscreen targets sized for " ++ r.size.describe) :
          Action Renderer Unit).Steady :=
        (Action.spares_modify (by intro; rfl)).bind fun _ => Action.spares_say _ _ _
      obtain ⟨ht', hl'⟩ := follows_play rest r s' ht
      exact ⟨ht', hl'.trans hl⟩
  · rw [if_neg hp]
    exact ⟨h, (and_iff_left fun hp' => (hp hp').elim).symm⟩

/-- The step applies a new size. -/
def Step.Resizes (r : Renderer) : Step → Prop
  | render _ _ _ => r.size.isEmpty = false ∧ r.resizePending = true
  | _ => False

theorem play_render (hr : r.size.isEmpty = false) (scene : Scene) (camera : Camera)
    (time : Scalar) :
    (Renderer.render scene camera time).play backend r s =
      (frame scene camera time).play backend r s := by
  unfold Renderer.render
  rw [Action.play_get_bind, hr]
  rfl

/-- A step is lawful if and only if it does not apply a new size while there is a frame. -/
theorem step_spec (step : Step) (h : s.Tidy) :
    let q := step.action.play backend r s
    q.2.2.Tidy ∧ (q.2.2.platform.Lawful ↔
      s.platform.Lawful ∧ (step.Resizes r → s.adapter.frame = none)) := by
  -- only a render configures targets, and only if the surface has pixels
  have steady : ∀ {a : Action Renderer Unit}, a.Steady → ¬ step.Resizes r →
      (a.play backend r s).2.2.Tidy ∧ ((a.play backend r s).2.2.platform.Lawful ↔
        s.platform.Lawful ∧ (step.Resizes r → s.adapter.frame = none)) := by
    intro a ha hn
    obtain ⟨ht, hl⟩ := follows_play ha r s h
    exact ⟨ht, hl.trans (and_iff_left fun hs => (hn hs).elim).symm⟩
  cases step with
  | render scene camera time =>
    cases hr : r.size.isEmpty with
    | true =>
      have hn : ¬ (Step.render scene camera time).Resizes r := by
        rintro ⟨hr', -⟩
        rw [hr] at hr'
        cases hr'
      simp only [Step.action, Renderer.render]
      rw [Action.play_get_bind, if_pos hr]
      exact steady (Action.spares_say _ _ _) hn
    | false =>
      have first := applyResize_spec hr h
      rw [Step.action, play_render hr, frame, Action.play_bind, Step.Resizes, and_iff_right hr]
      -- the new size is applied first, and the rest of the frame is steady
      generalize applyResize.play backend r s = q at first ⊢
      obtain ⟨x, r', s'⟩ := q
      obtain ⟨ht, hl⟩ := first
      cases x with
      | error e => exact ⟨ht, hl⟩
      | ok v =>
        obtain ⟨ht', hl'⟩ := follows_play (steady_drawFrame scene camera time) r' s' ht
        exact ⟨ht', hl'.trans hl⟩
  | setSize size => exact steady (Action.spares_modify (by intro; rfl)) id
  | setClearColor color => exact steady (Action.spares_modify (by intro; rfl)) id
  | setPasses passes => exact steady (Action.spares_modify (by intro; rfl)) id
  | invalidate id' => exact steady (Action.spares_modify (by intro; rfl)) id
  | loadTexture texture => exact steady (Action.spares_issue id) id
  | register name effect blend =>
    have plain := Registry.spares_register name effect blend
    exact steady (spares_onRegistry (steady_of_plain plain)) id

/-! ## Courses -/

theorem tidy_play {σ α : Type} {a : Action σ α} (ha : a.Steady) (t : σ) (s : Session)
    (h : s.Tidy) : (a.play backend t s).2.2.Tidy :=
  (follows_play ha t s h).1

theorem tidy_playAll (h : s.Tidy) (steps : List Step) :
    (Action.playAll backend (steps.map Step.action) r s).2.2.Tidy := by
  induction steps generalizing r s with
  | nil => exact h
  | cons first steps ih => exact ih (step_spec first h).1

/-- The law is kept along steps if and only if none of them applies a new size while there is a
frame. -/
theorem lawful_playAll_iff (h : s.Tidy) (steps : List Step) :
    (Action.playAll backend (steps.map Step.action) r s).2.2.platform.Lawful ↔
      s.platform.Lawful ∧ ∀ before step after, steps = before ++ step :: after →
        step.Resizes (Action.playAll backend (before.map Step.action) r s).2.1 →
          (Action.playAll backend (before.map Step.action) r s).2.2.adapter.frame = none := by
  induction steps generalizing r s with
  | nil =>
    refine (and_iff_left ?_).symm
    rintro before step after he
    cases before <;> cases he
  | cons first steps ih =>
    -- the first step, and the others from where it stopped
    obtain ⟨ht, hl⟩ := step_spec first h
    have rest := ih (r := (first.action.play backend r s).2.1) ht
    refine Iff.trans rest ?_
    rw [hl]
    constructor
    · rintro ⟨⟨hl, hfirst⟩, hrest⟩
      refine ⟨hl, fun before step after he => ?_⟩
      cases before with
      | nil =>
        obtain ⟨rfl, -⟩ := List.cons.inj he
        exact hfirst
      | cons first' before =>
        obtain ⟨rfl, rfl⟩ := List.cons.inj he
        exact hrest before step after rfl
    · rintro ⟨hl, hall⟩
      refine ⟨⟨hl, hall [] first steps rfl⟩, fun before step after he => ?_⟩
      exact hall (first :: before) step after (by rw [he]; rfl)

end OnSession

variable {s₀ : Session} {size : SurfaceSize} {o : DeviceOptions} {window : WindowId}
  {host : DeviceHost} {config : RendererConfig} {textures : List Texture} {steps : List Step}

/-- The law is kept along a course if and only if no step applies a new size while there is a
frame. -/
theorem lawful_courseOn_iff (hs : Session.connect .wgpu size o window { host := host } = .ok s₀) :
    (courseOn Session.backend s₀ .wgpu size config textures steps).2.2.platform.Lawful ↔
      ∀ before step after, steps = before ++ step :: after →
        step.Resizes (courseOn Session.backend s₀ .wgpu size config textures before).2.1 →
          (courseOn Session.backend s₀ .wgpu size config textures before).2.2.adapter.frame =
            none := by
  obtain ⟨ht, hl, -⟩ := Session.connect_spec hs
  have plain := steady_of_plain (spares_prepare textures)
  obtain ⟨ht', hl'⟩ := follows_play plain (blank .wgpu size config) s₀ ht
  refine (lawful_playAll_iff ht' steps).trans ?_
  exact and_iff_right (hl'.mpr hl)

/-- After any course the texture of the frame is held and no other. And whatever the course did, the
surface was configured and textures of it were asked for while none of them was held, but for one
case: a step applied a new size while there was a frame. Then the law was broken. -/
theorem surface_free_iff (hs : Session.connect .wgpu size o window { host := host } = .ok s₀) :
    let s := (courseOn Session.backend s₀ .wgpu size config textures steps).2.2
    heldAfter s.platform.history.toList = (s.adapter.frame.map (·.texture)).toList ∧
      (Throughout SurfaceFree s.platform.history.toList ↔
        ∀ before step after, steps = before ++ step :: after →
          let (_, r, s) := courseOn Session.backend s₀ .wgpu size config textures before
          step.Resizes r → s.adapter.frame = none) := by
  obtain ⟨ht, -, -⟩ := Session.connect_spec hs
  have plain := steady_of_plain (spares_prepare textures)
  have made := tidy_play plain (blank .wgpu size config) s₀ ht
  exact ⟨tidy_playAll made steps, lawful_courseOn_iff hs⟩

/-- A frame is aborted for want of a texture, the size changes, and another frame is drawn. -/
def resizeAfterAbort : List Step :=
  [.render { layers := [lonely] } default 0, .setSize ⟨4, 4⟩, .render {} default 0]

/-- Of the course above both sides are false: the new size is applied in the third step, where the
frame of the first is still held. -/
theorem surface_free_iff_resizeAfterAbort :
    ∃ s₀, Session.connect .wgpu ⟨8, 8⟩ {} default {} = .ok s₀ ∧
      let s := (courseOn Session.backend s₀ .wgpu ⟨8, 8⟩ {} [] resizeAfterAbort).2.2
      heldAfter s.platform.history.toList = (s.adapter.frame.map (·.texture)).toList ∧
        (Throughout SurfaceFree s.platform.history.toList ↔
          ∀ before step after, resizeAfterAbort = before ++ step :: after →
            let (_, r, s) := courseOn Session.backend s₀ .wgpu ⟨8, 8⟩ {} [] before
            step.Resizes r → s.adapter.frame = none) := by
  have connected :
      ((Session.connect .wgpu ⟨8, 8⟩ {} default {}).toOption.any fun _ => true) = true := by
    decide +kernel
  obtain ⟨s₀, hs, -⟩ := exists_ok_of_any connected
  exact ⟨s₀, hs, surface_free_iff hs⟩

/-- The second frame configures the surface while the texture of the first one is held. -/
theorem configured_while_held :
    ∃ s₀, Session.connect .wgpu ⟨8, 8⟩ {} default {} = .ok s₀ ∧
      ¬ Throughout SurfaceFree (courseOn Session.backend s₀ .wgpu ⟨8, 8⟩ {} []
        resizeAfterAbort).2.2.platform.history.toList := by
  have broken : ((Session.connect .wgpu ⟨8, 8⟩ {} default {}).toOption.any fun s₀ =>
      !decide (Throughout SurfaceFree (courseOn Session.backend s₀ .wgpu ⟨8, 8⟩ {} []
        resizeAfterAbort).2.2.platform.history.toList)) = true := by
    decide +kernel
  obtain ⟨s₀, hs, hb⟩ := exists_ok_of_any broken
  refine ⟨s₀, hs, fun ht => ?_⟩
  rw [decide_eq_true ht] at hb
  cases hb

end Renderer

end LitTiles
