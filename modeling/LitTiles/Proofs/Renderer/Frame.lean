import LitTiles.Proofs.Batch.Syncing
import LitTiles.Proofs.Lighting.Chain
import LitTiles.Proofs.Renderer.Stacking

/-!
# Frames, whatever is answered

A call of `render` does nothing on a surface without pixels. Otherwise it makes the targets anew, if
that is pending, and then draws (`leads_render`). What is drawn meets a contract
(`meets_drawFrame`): the settings of the renderer stay as they are, targets are not made anew again,
programs are run for no other stages than those of a frame, and an error that is not that of a call
is the fault of one of these stages.
-/

namespace LitTiles

/-- A call of a frame that is drawn: it does not make targets anew, and a program is run for one of
some stages only. -/
def Call.DrawsFor (registry : Registry) (frame : FrameContext) (stages : List Stage) (c : Call) :
    Prop :=
  ¬ c.Configures ∧ Stage.RunsFor registry frame stages c

/-- Upkeep of mirrors runs no effect and draws nothing, so it is allowed in every frame. -/
theorem Call.IsUpkeep.drawsFor {registry : Registry} {frame : FrameContext} {stages : List Stage}
    {c : Call} (hc : c.IsUpkeep) : c.DrawsFor registry frame stages := by
  refine ⟨fun hcon => ?_, fun name inputs output uniforms clear he => ?_⟩
  · cases c with
    | issue c =>
      cases c with
      | configureTargets surface targets => exact hc
      | _ => exact hcon
    | _ => exact hcon
  · subst he
    exact hc.elim

namespace Renderer

variable {r s t : Renderer} {scene : Scene} {camera : Camera} {view : Rect} {context : FrameContext}
  {time : Scalar} {h : List Exchange} {x : Except RenderError Unit}

/-- The stages of a frame. -/
def frameStages (r : Renderer) : List Stage :=
  Lighting.stages r.config.blurRadius ++ composite :: r.passes

/-- The settings of a renderer are those of another one, and its lighting chain goes by them. -/
structure Same (r s : Renderer) : Prop where
  /-- The effects are the same. -/
  registry : s.registry = r.registry
  /-- The configuration is the same. -/
  config : s.config = r.config
  /-- The passes are the same. -/
  passes : s.passes = r.passes
  /-- The size is the same. -/
  size : s.size = r.size
  /-- Targets have to be made anew for both or for none. -/
  resizePending : s.resizePending = r.resizePending
  /-- The lighting chain has the settings. -/
  tuned : s.lighting.Tuned r.config.blurRadius r.config.lightCellSize

/-- A renderer has the settings that it has. -/
theorem same_self (ht : r.lighting.Tuned r.config.blurRadius r.config.lightCellSize) : Same r r :=
  ⟨rfl, rfl, rfl, rfl, rfl, ht⟩

theorem Same.withMirrors (hs : Same r s) (table : MirrorTable) :
    Same r { s with mirrors := table } :=
  ⟨hs.registry, hs.config, hs.passes, hs.size, hs.resizePending, hs.tuned⟩

/-- The lighting may have gone on, as long as it is tuned by the same configuration. -/
theorem Same.withLighting (hs : Same r s) {l : Lighting}
    (hl : l.Tuned r.config.blurRadius r.config.lightCellSize) : Same r { s with lighting := l } :=
  ⟨hs.registry, hs.config, hs.passes, hs.size, hs.resizePending, hl⟩

/-- What is promised of the drawing of a frame. -/
def contract (r : Renderer) (time : Scalar) : Contract Renderer where
  keeps := Same r
  calls := Call.DrawsFor r.registry ⟨r.size, time⟩ r.frameStages
  errors := Stage.FaultOf r.registry ⟨r.size, time⟩ r.frameStages

/-- A command that configures nothing meets the contract, if it runs an effect only for a stage of
the frame. -/
theorem meets_command {c : Command} (hc : ¬ (Call.issue c).Configures)
    (hr : Stage.RunsFor r.registry ⟨r.size, time⟩ r.frameStages (.issue c)) :
    (Action.issue c : Action Renderer Unit).Meets (contract r time) :=
  Action.meets_issue ⟨hc, hr⟩

theorem meets_draws (table : MirrorTable) (layers : List Layer) (target : Target)
    (mode : SpriteMode) : (drawLayers table layers target mode).Meets (contract r time) :=
  meets_drawLayers fun _ _ => ⟨id, nofun⟩

/-- What is done with the mirrors meets the contract of a frame if it meets that of their upkeep. -/
theorem meets_onMirrors {a : Action MirrorTable Unit} (ha : a.Meets (.upkeep MirrorTable)) :
    (onMirrors a).Meets (contract r time) :=
  ha.within (fun _ _ => trivial) (fun _ table hs _ => Same.withMirrors hs table)
    (fun _ hc => hc.drawsFor) fun _ he => he.elim

/-- The lighting chain meets its own contract, whose stages are among those of the frame. -/
theorem meets_onLighting (r : Renderer) (scene : Scene) (view : Rect) (time : Scalar) :
    (onLighting (Lighting.render r.registry scene view ⟨r.size, time⟩)).Meets
    (contract r time) := by
  have lights : Lighting.stages r.config.blurRadius ⊆ r.frameStages := List.subset_append_left _ _
  refine (Lighting.meets_render r.registry scene view ⟨r.size, time⟩).within
    (fun s hs => Same.tuned hs) (fun s l hs hl => Same.withLighting hs hl) (fun c hc => ?_)
    fun err he => he.mono lights
  exact ⟨hc.1.not_configures, hc.2.mono lights⟩

/-- A stage of the frame looks up its effect and runs it, or it fails for want of the effect. -/
theorem meets_stage {stage : Stage} (hs : stage ∈ r.frameStages) :
    (Stage.run r.registry ⟨r.size, time⟩ stage).Meets (contract r time) := by
  refine Stage.meets_run (fun c hc => ⟨?_, Stage.runsFor_of_command hs hc⟩) fun err he =>
    ⟨stage, hs, he⟩
  obtain ⟨e, size, -, rfl⟩ := Stage.command_eq_ok_iff.mp hc
  exact id

theorem composite_mem_frameStages : composite ∈ r.frameStages :=
  List.mem_append_right _ List.mem_cons_self

theorem mem_frameStages_of_mem_passes {stage : Stage} (hs : stage ∈ r.passes) :
    stage ∈ r.frameStages :=
  List.mem_append_right _ (List.mem_cons_of_mem _ hs)

/-- All that is drawn meets the contract: the layers, the chain and the passes, one after the
other. -/
theorem meets_paint (r : Renderer) (scene : Scene) (view : Rect) (time : Scalar) :
    (paint scene view ⟨r.size, time⟩).Meets (contract r time) := by
  refine Action.meets_get_bind fun s hs => ?_
  simp only [hs.registry, hs.passes]
  refine (meets_command (by exact id) (by nofun)).bind fun _ => ?_
  refine (meets_draws _ _ _ _).bind fun _ => ?_
  refine (meets_onLighting r scene view time).bind fun _ => ?_
  refine (meets_stage composite_mem_frameStages).bind fun _ => ?_
  refine (meets_draws _ _ _ _).bind fun _ => ?_
  refine (meets_command (by exact id) (by nofun)).bind fun _ => ?_
  refine (meets_draws _ _ _ _).bind fun _ => ?_
  exact .forM fun stage hmem => meets_stage (mem_frameStages_of_mem_passes hmem)

/-- What is drawn, whatever is answered. -/
theorem meets_drawFrame (r : Renderer) (scene : Scene) (camera : Camera) (time : Scalar) :
    (drawFrame scene camera time).Meets (contract r time) := by
  refine Action.meets_get_bind fun s hs => ?_
  simp only [hs.size]
  refine (meets_command (by exact id) (by nofun)).bind fun _ => ?_
  refine (meets_onMirrors (MirrorTable.meets_sync scene.layers)).bind fun _ => ?_
  refine (meets_paint r scene _ time).bind fun _ => ?_
  refine (meets_onMirrors MirrorTable.meets_collect).bind fun _ => ?_
  exact meets_command (by exact id) (by nofun)

/-! ## The start of a frame -/

/-- The command that makes targets anew. -/
def resizing (r : Renderer) : Command := .configureTargets r.size (slotSizes r.size)

/-- The calls at the start of a frame: targets are made anew if that is pending. -/
def resizeCalls (r : Renderer) : List Exchange :=
  if r.resizePending then [.done r.resizing] else []

/-- At the start of a frame at most the targets are configured, and that was granted. -/
theorem eq_done_of_mem_resizeCalls {e : Exchange} (he : e ∈ r.resizeCalls) :
    e = .done r.resizing := by
  unfold resizeCalls at he
  split at he
  · exact List.mem_singleton.mp he
  · cases he

/-- The renderer once the targets were made. -/
def resized (r : Renderer) : Renderer := { r with resizePending := false }

/-- A frame ends at the start, or goes on with targets of the right size. -/
theorem leads_frame :
    (frame scene camera time).Leads r h x t ↔
      (r.resizePending = true ∧
        ∃ e, h = [⟨.issue r.resizing, .error e⟩] ∧ x = .error e ∧ t = r) ∨
      ∃ rest, h = r.resizeCalls ++ rest ∧
      (drawFrame scene camera time).Leads r.resized rest x t := by
  have unfolded : frame scene camera time =
      ((get : Action Renderer Renderer) >>= fun r => (do
        if r.resizePending then
          Action.issue r.resizing
          modify resized
          Action.say .debug .renderer ("offscreen targets sized for " ++ r.size.describe))) >>=
      fun _ => drawFrame scene camera time := rfl
  rw [unfolded, bind_assoc, Action.leads_get_bind]
  cases hp : r.resizePending with
  | false =>
    -- with nothing pending, marking the resize as done changes nothing
    have same : r.resized = r := by
      cases r
      cases hp
      rfl
    simp only [hp, resizeCalls, same, Bool.false_eq_true, if_false, pure_bind, false_and, false_or,
      List.nil_append, exists_eq_left']
  | true =>
    simp only [if_true, bind_assoc, Action.leads_issue_bind, Action.leads_modify_bind,
      Action.leads_say_bind, resizeCalls, hp, List.singleton_append, true_and]
    rfl

/-- Nothing is done on a surface without pixels; on any other one a frame is drawn. -/
theorem leads_render :
    (render scene camera time).Leads r h x t ↔
      (r.size.isEmpty = true ∧ h = [] ∧ x = .ok () ∧ t = r) ∨
      (r.size.isEmpty = false ∧ (frame scene camera time).Leads r h x t) := by
  rw [render, Action.leads_get_bind]
  cases he : r.size.isEmpty with
  | true => simp [Action.leads_say]
  | false => simp

end Renderer

end LitTiles
