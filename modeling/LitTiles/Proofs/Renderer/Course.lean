import LitTiles.Proofs.Batch.Upkeep
import LitTiles.Renderer

/-!
# Courses of a renderer

A course is all that a renderer does from its making on: textures and built-in effects are loaded,
and then any number of steps are taken, frames and everything else a caller may do between frames.
A step that ends with an error is over, and the next one starts from where it stopped.

`Renderer.Step.trail` tells for which layer of a scene each call of a step is made: the calls of a
`sync` are made for its layers, one after the other, and all other calls are made for none. Without
the layers it is `Renderer.Step.action` (`Step.trail_erases`).

Whatever the backend answers, the table of mirrors keeps its invariant along a course
(`Course.kept`).
-/

namespace LitTiles

/-! ## Plain parts of a frame -/

/-- A stage makes no call but to run its effect, so it is plain whatever is done with it. -/
theorem Stage.spares_run {σ τ : Type} (part : σ → τ) (registry : Registry) (frame : FrameContext)
    (s : Stage) : (Stage.run registry frame s : Action σ Unit).Spares Call.IsPlain part := by
  refine (Action.spares_known _).bind fun v => ?_
  obtain ⟨e, resolution⟩ := v
  refine (Action.Spares.forM fun name _ => Action.spares_say _ _ _).bind fun _ => ?_
  exact Action.spares_issue (by trivial)

theorem Stage.spares_runAll {σ τ : Type} (part : σ → τ) (registry : Registry)
    (frame : FrameContext) (stages : List Stage) :
    (Stage.runAll registry frame stages : Action σ Unit).Spares Call.IsPlain part :=
  .forM fun s _ => Stage.spares_run part registry frame s

namespace Lighting

theorem spares_drawLight (registry : Registry) (frame : FrameContext) (colliders : List Collider)
    (l : Light) : (drawLight registry frame colliders l).Spares Call.IsPlain fun _ => () := by
  refine (Action.spares_issue (by trivial)).bind fun _ => ?_
  refine (Action.spares_issue (by trivial)).bind fun _ => ?_
  refine (Action.spares_modify (by intro; rfl)).bind fun _ => ?_
  refine Action.spares_get.bind fun s => ?_
  have after := Stage.spares_runAll (fun _ : Lighting => ()) registry frame (stages s.blurRadius)
  by_cases he : s.triangles.isEmpty = true
  · simp only [he, if_true]
    exact after
  · simp only [he]
    exact (Action.spares_issue (by trivial)).bind fun _ => after

/-- The lighting chain makes plain calls only. This is what keeps it out of the way of all laws
about buffers. -/
theorem spares_render (registry : Registry) (scene : Scene) (view : Rect) (frame : FrameContext) :
    (render registry scene view frame).Spares Call.IsPlain fun _ => () := by
  refine (Action.spares_issue (by trivial)).bind fun _ => ?_
  refine (Action.spares_modify (by intro; rfl)).bind fun _ => ?_
  refine (Action.Spares.forM fun l _ => ?_).bind fun _ => ?_
  · exact spares_drawLight registry frame scene.colliders l
  · exact (Action.spares_say _ _ _).bind fun _ => Action.spares_pure _

end Lighting

theorem Registry.spares_register (name : String) (effect : Effect) (blend : BlendMode) :
    (Registry.register name effect blend).Spares Call.IsPlain fun _ => () := by
  refine Action.spares_get.bind fun r => ?_
  refine (Action.spares_issue (by trivial)).bind fun _ => ?_
  exact (Action.spares_say _ _ _).bind fun _ => Action.spares_modify (by intro; rfl)

namespace Renderer

theorem spares_prepare (textures : List Texture) :
    (prepare textures).Spares Call.IsPlain (·.mirrors) := by
  refine (Action.Spares.forM fun t _ => ?_).bind fun _ => ?_
  · exact (Action.spares_issue (by trivial)).bind fun _ => Action.spares_say _ _ _
  · refine Action.Spares.within ?_ fun _ _ => rfl
    exact Action.Spares.forM fun b _ => Registry.spares_register b.1 b.2.1 b.2.2

/-- A new size is applied without a look at the mirrors. -/
theorem spares_applyResize : applyResize.Spares Call.IsIdle (·.mirrors) := by
  refine Action.spares_get.bind fun r => ?_
  cases r.resizePending with
  | false => exact Action.spares_pure ()
  | true =>
    refine (Action.spares_issue (by trivial)).bind fun _ => ?_
    exact (Action.spares_modify (by intro; rfl)).bind fun _ => Action.spares_say _ _ _

section Drawing

variable {ok : Call → Prop}

/-- Drawing layers is drawing sprites, and changes nothing of the renderer. -/
theorem spares_drawLayers {τ : Type} {part : Renderer → τ} {target : Target} {mode : SpriteMode}
    (hd : ∀ b calls, ok (.issue (.drawSprites target mode b calls))) (table : MirrorTable)
    (layers : List Layer) : (drawLayers table layers target mode).Spares ok part := by
  refine .forM fun l _ => ?_
  cases table.get? l.id with
  | none => exact Action.spares_pure ()
  | some m =>
    by_cases he : m.drawCalls.isEmpty = true
    · simp only [if_pos he]
      exact Action.spares_pure ()
    · simp only [if_neg he]
      exact Action.spares_issue (hd _ _)

/-- The table is left alone while it is drawn, and no call is made but plain ones and those that
draw sprites. -/
theorem spares_paint (hp : ∀ c, c.IsPlain → ok c)
    (hd : ∀ target mode b calls, ok (.issue (.drawSprites target mode b calls))) (scene : Scene)
    (view : Rect) (context : FrameContext) : (paint scene view context).Spares ok (·.mirrors) := by
  refine Action.spares_get.bind fun r => ?_
  have light : (onLighting (Lighting.render r.registry scene view context)).Spares ok (·.mirrors) :=
    .within ((Lighting.spares_render r.registry scene view context).mono hp) fun _ _ => rfl
  refine (Action.spares_issue (hp _ (by trivial))).bind fun _ => ?_
  refine (spares_drawLayers (hd _ _) _ _).bind fun _ => ?_
  refine light.bind fun _ => ?_
  refine ((Stage.spares_run _ _ _ _).mono hp).bind fun _ => ?_
  refine (spares_drawLayers (hd _ _) _ _).bind fun _ => ?_
  refine (Action.spares_issue (hp _ (by trivial))).bind fun _ => ?_
  refine (spares_drawLayers (hd _ _) _ _).bind fun _ => ?_
  exact (Stage.spares_runAll _ _ _ _).mono hp

end Drawing

/-! ## Steps -/

/-- What a caller may do with a renderer. -/
inductive Step where
  /-- Draws a frame. -/
  | render (scene : Scene) (camera : Camera) (time : Scalar)
  /-- Notes a new size. -/
  | setSize (size : SurfaceSize)
  /-- Sets the colour the scene starts from. -/
  | setClearColor (color : Color)
  /-- Replaces the passes. -/
  | setPasses (passes : List Stage)
  /-- Asks for a layer to be uploaded again. -/
  | invalidate (id : LayerId)
  /-- Uploads an atlas. -/
  | loadTexture (texture : Texture)
  /-- Compiles an effect. -/
  | register (name : String) (effect : Effect) (blend : BlendMode)

namespace Step

/-- What a renderer does in a step. -/
def action : Step → Action Renderer Unit
  | render scene camera time => Renderer.render scene camera time
  | setSize size => modify (·.setSize size)
  | setClearColor color => modify (·.setClearColor color)
  | setPasses passes => modify fun r => { r with passes := passes }
  | invalidate id => modify (·.invalidate id)
  | loadTexture texture => Renderer.loadTexture texture
  | register name effect blend => Renderer.register name effect blend

/-- The trail of a frame. -/
def frameTrail (scene : Scene) (camera : Camera) (time : Scalar) : Trail Renderer Unit :=
  (Trail.of none applyResize).bind fun _ =>
  (Trail.of none get).bind fun r =>
  (Trail.of none (Action.issue (.beginFrame (camera.visibleBounds r.size)))).bind fun _ =>
  ((MirrorTable.syncTrail scene.layers).within (·.mirrors)
    fun x r => { r with mirrors := x }).bind fun _ =>
  (Trail.of none (paint scene (camera.visibleBounds r.size) ⟨r.size, time⟩)).bind fun _ =>
  (Trail.of none (onMirrors MirrorTable.collect)).bind fun _ =>
  Trail.of none (Action.issue .endFrame)

/-- The trail of a step. -/
def trail : Step → Trail Renderer Unit
  | render scene camera time =>
    (Trail.of none get).bind fun r =>
      if r.size.isEmpty then
        Trail.of none (Action.say .trace .renderer "skipping frame for empty surface")
      else frameTrail scene camera time
  | s => Trail.of none s.action

/-- The trail of a frame is the frame, with the layers noted for the calls of its `sync`. -/
theorem frameTrail_erases (scene : Scene) (camera : Camera) (time : Scalar) :
    (frameTrail scene camera time).Erases (frame scene camera time) := by
  refine (Trail.erases_of _ _).bind fun _ => ?_
  refine (Trail.erases_of _ _).bind fun r => ?_
  refine (Trail.erases_of _ _).bind fun _ => ?_
  refine (MirrorTable.syncTrail_erases scene.layers).within.bind fun _ => ?_
  refine (Trail.erases_of _ _).bind fun _ => ?_
  exact (Trail.erases_of _ _).bind fun _ => Trail.erases_of _ _

/-- The trail of a step is what a renderer does in it, but for the layers. -/
theorem trail_erases (s : Step) : s.trail.Erases s.action := by
  cases s with
  | render scene camera time =>
    refine (Trail.erases_of _ _).bind fun r => ?_
    by_cases hr : r.size.isEmpty = true
    · rw [if_pos hr, if_pos hr]
      exact Trail.erases_of _ _
    · rw [if_neg hr, if_neg hr]
      exact frameTrail_erases scene camera time
  | _ => exact Trail.erases_of _ _

end Step

/-! ## The invariant along a course -/

/-- The invariant of the table, while the table itself does not change. -/
def Painting (table : MirrorTable) (t : MirrorTable) (h : List Entry) : Prop :=
  t = table ∧ table.Kept h

/-- A call that concerns no buffer may come at any time while a table is painted. -/
theorem painting_idle (table : MirrorTable) (t : MirrorTable) (before : List Entry) (e : Entry)
    (hi : e.exchange.call.IsIdle) (hp : Painting table t before) :
    Painting table t (before ++ [e]) :=
  ⟨hp.1, hp.2.idle hi⟩

/-- Drawing the layers of a table keeps the invariant, because the draw calls of a mirror are those
of its own buffer. -/
theorem keeps_drawLayers (table : MirrorTable) (layers : List Layer) (target : Target)
    (mode : SpriteMode) :
    (Trail.of none (drawLayers table layers target mode)).Keeps
      fun r => Painting table r.mirrors := by
  rw [drawLayers, Trail.of_forM]
  refine .forEach fun l _ => ?_
  rintro r before es x r' ⟨hr, hk⟩ ⟨h, rfl, hl⟩
  -- a layer without mirror or without runs draws nothing
  cases hg : table.get? l.id with
  | none =>
    simp only [hg, Action.leads_pure] at hl
    obtain ⟨rfl, rfl, rfl⟩ := hl
    rw [entries_nil, List.append_nil]
    exact ⟨hr, hk⟩
  | some m =>
    simp only [hg] at hl
    by_cases he : m.drawCalls.isEmpty = true
    · rw [if_pos he] at hl
      obtain ⟨rfl, rfl, rfl⟩ := Action.leads_pure.mp hl
      rw [entries_nil, List.append_nil]
      exact ⟨hr, hk⟩
    · rw [if_neg he] at hl
      obtain ⟨rfl, rfl⟩ := Action.leads_issue.mp hl
      obtain ⟨i, hm, -⟩ := hk.sound.get?_eq_some_iff.mp hg
      have hn : m.drawCalls ≠ [] := fun hn => he (List.isEmpty_iff.mpr hn)
      exact ⟨hr, hk.draw hm hn none target mode x⟩

/-- So does all that is painted. -/
theorem keeps_paint (scene : Scene) (view : Rect) (context : FrameContext) :
    (Trail.of none (paint scene view context)).Keeps fun r => r.mirrors.Kept := by
  rw [paint, Trail.of_bind]
  -- the table does not change while it is drawn
  refine .get (fun r r' => Painting r.mirrors r'.mirrors) (fun r es hk => ⟨rfl, hk⟩)
    (fun r r' es hp => hp.1 ▸ hp.2) fun r => ?_
  have idle : ∀ {α : Type} {a : Action Renderer α}, a.Spares Call.IsIdle (·.mirrors) →
      (Trail.of none a).Keeps fun r' => Painting r.mirrors r'.mirrors :=
    fun ha => ha.keeps (painting_idle r.mirrors) none
  have issue : ∀ {c : Command}, (Call.issue c).IsIdle →
      (Trail.of none (Action.issue c)).Keeps fun r' : Renderer => Painting r.mirrors r'.mirrors :=
    fun hc => idle (Action.spares_issue hc)
  have light : (onLighting (Lighting.render r.registry scene view context)).Spares Call.IsIdle
      (·.mirrors) :=
    .within
      ((Lighting.spares_render r.registry scene view context).mono fun _ => Call.IsPlain.isIdle)
      fun _ _ => rfl
  simp only [Trail.of_bind]
  refine (issue (by trivial)).bind fun _ => ?_
  refine (keeps_drawLayers _ _ _ _).bind fun _ => ?_
  refine (idle light).bind fun _ => ?_
  refine (idle ((Stage.spares_run _ _ _ _).mono fun _ => Call.IsPlain.isIdle)).bind fun _ => ?_
  refine (keeps_drawLayers _ _ _ _).bind fun _ => ?_
  refine (issue (by trivial)).bind fun _ => ?_
  refine (keeps_drawLayers _ _ _ _).bind fun _ => ?_
  exact idle ((Stage.spares_runAll _ _ _ _).mono fun _ => Call.IsPlain.isIdle)

namespace Step

/-- The invariant of the table lives on in an idle action. -/
theorem keeps_idle {α : Type} {a : Action Renderer α} (ha : a.Spares Call.IsIdle (·.mirrors)) :
    (Trail.of none a).Keeps fun r => r.mirrors.Kept :=
  ha.keeps (fun _ _ _ hi hk => hk.idle hi) none

/-- A frame keeps the invariant of the mirrors, wherever it stops. -/
theorem keeps_frameTrail (scene : Scene) (camera : Camera) (time : Scalar) :
    (frameTrail scene camera time).Keeps fun r => r.mirrors.Kept := by
  refine (keeps_idle spares_applyResize).bind fun _ => ?_
  refine (keeps_idle Action.spares_get).bind fun r => ?_
  refine (keeps_idle (Action.spares_issue (by trivial))).bind fun _ => ?_
  refine ((MirrorTable.keeps_sync scene.layers).within fun _ _ => rfl).bind fun _ => ?_
  refine (keeps_paint _ _ _).bind fun _ => ?_
  refine Trail.Keeps.bind ?_ fun _ => keeps_idle (Action.spares_issue (by trivial))
  rw [onMirrors, Trail.of_within]
  exact MirrorTable.keeps_collect.within fun _ _ => rfl

/-- The invariant of the table lives on in every step. -/
theorem keeps_trail (s : Step) : s.trail.Keeps fun r => r.mirrors.Kept := by
  cases s with
  | render scene camera time =>
    -- only a frame with an area to draw reaches the mirrors
    refine (keeps_idle Action.spares_get).bind fun r => ?_
    by_cases hr : r.size.isEmpty = true
    · rw [if_pos hr]
      exact keeps_idle (Action.spares_say _ _ _)
    · rw [if_neg hr]
      exact keeps_frameTrail scene camera time
  | setSize size =>
    refine keeps_idle (Action.spares_modify fun r => ?_)
    unfold Renderer.setSize
    split <;> rfl
  | setClearColor color => exact keeps_idle (Action.spares_modify fun _ => rfl)
  | setPasses passes => exact keeps_idle (Action.spares_modify fun _ => rfl)
  | invalidate id =>
    rintro r before es x r' hk ⟨h, rfl, hl⟩
    obtain ⟨rfl, -, rfl⟩ := Action.leads_modify.mp hl
    rw [entries_nil, List.append_nil]
    exact hk.invalidate id
  | loadTexture texture => exact keeps_idle (Action.spares_issue (by trivial))
  | register name effect blend =>
    refine keeps_idle (a := onRegistry (Registry.register name effect blend)) ?_
    refine Action.Spares.within ?_ fun _ _ => rfl
    exact (Registry.spares_register name effect blend).mono fun _ => Call.IsPlain.isIdle

end Step

/-- A renderer is made, and then takes steps. -/
def Course (interface : Interface) (size : SurfaceSize) (config : RendererConfig)
    (textures : List Texture) (steps : List Step) (es : List Entry) (r : Renderer) : Prop :=
  ∃ made taken r₀, es = made ++ taken ∧
    Trail.of none (prepare textures) (blank interface size config) made (.ok ()) r₀ ∧
    Trail.Attempts (steps.map Step.trail) r₀ taken r

variable {interface : Interface} {size : SurfaceSize} {config : RendererConfig}
  {textures : List Texture} {steps : List Step} {es : List Entry} {r : Renderer}

/-- The table of mirrors keeps its invariant along a course. -/
theorem Course.kept (hc : Course interface size config textures steps es r) :
    r.mirrors.Kept es := by
  obtain ⟨made, taken, r₀, rfl, hmade, htaken⟩ := hc
  have idle := (spares_prepare textures).mono fun _ => Call.IsPlain.isIdle
  have hk := Step.keeps_idle idle _ [] made _ r₀ (MirrorTable.kept_empty config.mirrorLimits) hmade
  have keeps : ∀ m ∈ steps.map Step.trail, m.Keeps fun r : Renderer => r.mirrors.Kept := by
    intro m hm
    obtain ⟨s, -, rfl⟩ := List.mem_map.mp hm
    exact s.keeps_trail
  exact Trail.Keeps.attempts keeps hk htaken

end Renderer

end LitTiles
