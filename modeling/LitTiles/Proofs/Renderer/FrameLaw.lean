import LitTiles.Proofs.Batch.Operations
import LitTiles.Proofs.Renderer.Buffers
import LitTiles.Proofs.Renderer.Settled

/-!
# The law of frames

A frame that succeeds consists of the same calls in the same order, whatever the scene
(`Renderer.Complete`): targets if they have to be made anew, the beginning, the `sync`, then the lit
layers, the lighting chain, the composite, the unlit layers, the masks and the passes, and in the
end the buffers of evicted layers and the end.

What of it the scene and the settings alone do not tell stands in a `Renderer.Picture`: which
mirrors are drawn, in which order, and by which commands the stages are run.
-/

namespace LitTiles

namespace Renderer

variable {interface : Interface} {size : SurfaceSize} {config : RendererConfig}
  {textures : List Texture} {steps : List Step} {es before : List Entry} {r t : Renderer}
  {table : MirrorTable} {scene : Scene} {camera : Camera} {view : Rect} {time : Scalar}
  {h : List Exchange} {x : Except RenderError Unit}

/-- What is drawn between the `sync` and the collection. -/
structure Picture where
  /-- The lit layers, with their mirrors. -/
  lit : List (Layer × Mirror)
  /-- The other layers, with their mirrors. -/
  unlit : List (Layer × Mirror)
  /-- The layers whose masks are drawn, with their mirrors. -/
  masks : List (Layer × Mirror)
  /-- The runs of programs that each light takes. -/
  lightRuns : List Command
  /-- The run of the program that lights the scene. -/
  composed : Command
  /-- The runs of programs of the passes. -/
  passRuns : List Command

/-- The commands of a picture, in order. -/
def Picture.commands (p : Picture) (r : Renderer) (scene : Scene) (view : Rect) : List Command :=
  [.clear OffscreenSlot.scene.target r.config.clearColor] ++
  draws OffscreenSlot.scene.target .color p.lit ++
  Lighting.chain r.config.lightCellSize p.lightRuns scene view ++
  [p.composed] ++
  draws OffscreenSlot.primary.target .color p.unlit ++
  [.clear OffscreenSlot.mask.target .transparent] ++
  draws OffscreenSlot.mask.target .mask p.masks ++
  p.passRuns

/-- A picture shows a scene by the mirrors in a table. -/
structure Picture.Shows (p : Picture) (r : Renderer) (table : MirrorTable) (scene : Scene)
    (context : FrameContext) : Prop where
  /-- The layers up to the cutoff are lit. They are drawn in stacking order, each of them once, and
  those without draw calls are not drawn. -/
  lit : Stacked Prod.fst
    (drawn table (scene.layers.filter fun l => l.z.isLitBelow r.config.shadowCutoff)) p.lit
  /-- The other layers are drawn in the same way. -/
  unlit : Stacked Prod.fst
    (drawn table (scene.layers.filter fun l => !l.z.isLitBelow r.config.shadowCutoff)) p.unlit
  /-- And so are the masks of all layers. -/
  masks : Stacked Prod.fst (drawn table scene.layers) p.masks
  /-- The same mirrors are drawn for the colours as for the masks, in the same order. -/
  colors : p.lit ++ p.unlit = p.masks
  /-- A light takes the two blurs and the effect that adds it. -/
  lights : Stage.Commands r.registry context (Lighting.stages r.config.blurRadius) p.lightRuns
  /-- The scene is lit by the lightmap. -/
  composed : composite.command r.registry context = .ok p.composed
  /-- Each pass is run once, in order. -/
  passes : Stage.Commands r.registry context r.passes p.passRuns

/-- A frame that was drawn to its end: what its `sync` called, the table after that, and what was
drawn. -/
structure FrameOf (r : Renderer) (scene : Scene) (camera : Camera) (time : Scalar)
    (updates : List Exchange) (table : MirrorTable) (p : Picture) (h : List Exchange) : Prop where
  /-- The mirrors were brought in line with the layers of the scene. -/
  synced : MirrorTable.Synced scene.layers r.mirrors updates table
  /-- The picture shows the scene. -/
  shows : p.Shows r table scene ⟨r.size, time⟩
  /-- These are the calls, in order. -/
  calls : h = r.resizeCalls ++
    [.done (.beginFrame (camera.visibleBounds r.size))] ++
    updates ++
    (p.commands r scene (camera.visibleBounds r.size)).map .done ++
    table.evicted.map .freed ++
    [.done .endFrame]

/-- The calls are those of a frame that was drawn to its end. -/
def Complete (r : Renderer) (scene : Scene) (camera : Camera) (time : Scalar)
    (h : List Exchange) : Prop :=
  ∃ updates table p, FrameOf r scene camera time updates table p h

/-- What is painted when all calls succeed. -/
theorem leads_paint_ok (he : r.registry.Equipped)
    (ht : r.lighting.Tuned r.config.blurRadius r.config.lightCellSize)
    (hl : (paint scene view ⟨r.size, time⟩).Leads r h (.ok ()) t) :
    ∃ p : Picture, p.Shows r r.mirrors scene ⟨r.size, time⟩ ∧
      h = (p.commands r scene view).map .done ∧ t.mirrors = r.mirrors := by
  obtain ⟨lightRuns, hruns⟩ := Stage.exists_commands (Lighting.sound_stages he r.config.blurRadius)
    ⟨r.size, time⟩
  rw [paint, Action.leads_get_bind] at hl
  simp only [List.partition_eq_filter_filter] at hl
  -- the calls are taken off one part after the other
  obtain ⟨_, rfl, hfromLit⟩ := Action.leads_issue_bind_ok.mp hl
  obtain ⟨_, _, _, r₁, rfl, hlit, hfromLight⟩ := Action.leads_bind_ok.mp hfromLit
  obtain ⟨rfl, hr⟩ := leads_drawLayers_ok.mp hlit
  subst r₁
  obtain ⟨k, _, _, r₂, rfl, hlight, hfromComposite⟩ := Action.leads_bind_ok.mp hfromLight
  obtain ⟨lighting, hchain, rfl⟩ := Action.leads_within.mp hlight
  obtain ⟨-, rfl⟩ := Lighting.leads_render_ok ht hruns hchain
  obtain ⟨_, _, _, r₃, rfl, hcomposite, hfromUnlit⟩ := Action.leads_bind_ok.mp hfromComposite
  obtain ⟨composed, hcomposed, rfl, rfl⟩ := Stage.leads_run_ok.mp hcomposite
  obtain ⟨_, _, _, r₄, rfl, hunlit, hfromClear⟩ := Action.leads_bind_ok.mp hfromUnlit
  obtain ⟨rfl, rfl⟩ := leads_drawLayers_ok.mp hunlit
  obtain ⟨_, rfl, hfromMasks⟩ := Action.leads_issue_bind_ok.mp hfromClear
  obtain ⟨_, _, _, r₅, rfl, hmasks, hfromPasses⟩ := Action.leads_bind_ok.mp hfromMasks
  obtain ⟨rfl, rfl⟩ := leads_drawLayers_ok.mp hmasks
  obtain ⟨passRuns, hpasses, rfl, rfl⟩ := Stage.leads_runAll_ok.mp hfromPasses
  let isLit (l : Layer) : Bool := l.z.isLitBelow r.config.shadowCutoff
  let order := stacked scene.layers
  have ordered : Stacked id scene.layers order := stacked_stacked scene.layers
  have split : order.filter isLit ++ order.filter (fun l => !isLit l) = order := by
    refine filter_append_filter (ordered.ascending.imp fun {a b} hab hb => ?_)
    have hb : b.z.val ≤ r.config.shadowCutoff.val := of_decide_eq_true hb
    exact decide_eq_true (Int.le_trans hab hb)
  refine ⟨⟨drawn r.mirrors (order.filter isLit), drawn r.mirrors (order.filter fun l => !isLit l),
    drawn r.mirrors order, lightRuns, composed, passRuns⟩, ?_, ?_, rfl⟩
  · exact {
      lit := (ordered.filter isLit).drawn r.mirrors
      unlit := (ordered.filter fun l => !isLit l).drawn r.mirrors
      masks := ordered.drawn r.mirrors
      colors := by rw [drawn, drawn, ← List.filterMap_append, split, drawn]
      lights := hruns
      composed := hcomposed
      passes := hpasses }
  · simp only [Picture.commands, List.map_append, List.map_cons, List.append_assoc,
      List.singleton_append]
    rfl

/-- A picture is the same for all renderers with the same effects, settings and passes. -/
theorem Picture.Shows.congr {p : Picture} {context : FrameContext}
    (hp : p.Shows t table scene context) (hg : t.registry = r.registry) (hc : t.config = r.config)
    (hpasses : t.passes = r.passes) :
    p.Shows r table scene context where
  lit := hc ▸ hp.lit
  unlit := hc ▸ hp.unlit
  masks := hp.masks
  colors := hp.colors
  lights := hg ▸ hc ▸ hp.lights
  composed := hg ▸ hp.composed
  passes := hg ▸ hpasses ▸ hp.passes

/-- A frame that succeeds was drawn to its end, and its `sync` has a trail. -/
theorem exists_frameOf (hs : Settled r (exchanges before)) (hk : r.mirrors.Kept before)
    (hsize : r.size.isEmpty = false) (hl : (render scene camera time).Leads r h (.ok ()) t) :
    ∃ updates table p, FrameOf r scene camera time (exchanges updates) table p h ∧
      MirrorTable.syncTrail scene.layers r.mirrors updates (.ok ()) table := by
  -- an empty size and a failed resize are excluded, so the frame was drawn
  rcases render_cases hs.tuned hl with ⟨he, -⟩ | ⟨-, -, e, -, hx, -⟩ | ⟨-, rest, rfl, hframe, -⟩
  · rw [he] at hsize
    cases hsize
  · cases hx
  -- stage by stage: begin, sync, paint, collect and end
  rw [drawFrame, Action.leads_get_bind] at hframe
  obtain ⟨_, rfl, hfromSync⟩ := Action.leads_issue_bind_ok.mp hframe
  obtain ⟨_, _, _, r₁, rfl, hsync, hfromPaint⟩ := Action.leads_bind_ok.mp hfromSync
  obtain ⟨table, hsynced, rfl⟩ := Action.leads_within.mp hsync
  obtain ⟨_, _, _, r₂, rfl, hpaint, hfromCollect⟩ := Action.leads_bind_ok.mp hfromPaint
  obtain ⟨p, hp, rfl, hmirrors⟩ := leads_paint_ok (r := { r.resized with mirrors := table })
    hs.equipped hs.tuned hpaint
  obtain ⟨_, _, _, r₃, rfl, hcollect, hend⟩ := Action.leads_bind_ok.mp hfromCollect
  obtain ⟨table', hcollected, rfl⟩ := Action.leads_within.mp hcollect
  obtain ⟨rfl, -⟩ := MirrorTable.leads_collect hcollected
  obtain ⟨rfl, rfl⟩ := Action.leads_issue_ok.mp hend
  obtain ⟨updates, rfl, htrail⟩ := (MirrorTable.syncTrail_erases _ _ _ _ _).mp hsynced
  refine ⟨updates, table, p, ⟨?_, hp.congr rfl rfl rfl, ?_⟩, htrail⟩
  · exact MirrorTable.synced_of_sync hk hsynced
  · rw [hmirrors]
    simp only [List.append_assoc, List.singleton_append]
    rfl

/-- The stage that lights the scene is without fault. -/
theorem sound_composite (he : r.registry.Equipped) : composite.Sound r.registry := by
  refine Stage.sound_of_slots he (by decide) (by decide) (fun i hi => ?_) (.inr ⟨.primary, rfl⟩)
  rcases List.mem_cons.mp hi with rfl | hi
  · exact ⟨.scene, rfl⟩
  · exact ⟨.lightmap, (List.mem_singleton.mp hi).symm⟩

/-- A call of `render` in which no call fails succeeds, if the passes are without fault. -/
theorem ok_of_granted (hs : Settled r (exchanges before))
    (hp : ∀ stage ∈ r.passes, stage.Sound r.registry)
    (hl : (render scene camera time).Leads r h x t) (hg : Granted h) : x = .ok () := by
  have sound : ∀ stage ∈ r.frameStages, stage.Sound r.registry := by
    intro stage hmem
    rcases List.mem_append.mp hmem with hmem | hmem
    · exact Lighting.sound_stages hs.equipped _ stage hmem
    rcases List.mem_cons.mp hmem with rfl | hmem
    · exact sound_composite hs.equipped
    · exact hp stage hmem
  rcases render_cases hs.tuned hl with
    ⟨-, -, hx, -⟩ | ⟨-, -, e, rfl, -⟩ | ⟨-, rest, rfl, -, honoured⟩
  · exact hx
  · simp [granted_singleton] at hg
  · cases x with
    | ok u => rfl
    | error err =>
      have fault := honoured.errors err rfl (granted_append.mp hg).2
      exact absurd fault (Stage.not_faultOf_of_sound sound err)

/-- Every frame that succeeds obeys the law, whatever the renderer did before. The four numbers of
the view are the origin of the camera and the visible extent. -/
theorem frame_law (hc : Course interface size config textures steps es r)
    (hsize : r.size.isEmpty = false)
    (hl : (render scene camera time).Leads r h (.ok ()) t) :
    Complete r scene camera time h ∧
      (camera.visibleBounds r.size).origin.toList ++ (camera.visibleBounds r.size).size.toList =
        camera.viewUniform r.size := by
  obtain ⟨updates, table, p, hf, -⟩ := exists_frameOf hc.settled hc.kept hsize hl
  exact ⟨⟨exchanges updates, table, p, hf⟩, rfl⟩

/-- A layer with a number of tiles. -/
def tiles (id : Nat) (z : Int) (kind : LayerKind) (count : Nat) : Layer where
  id := ⟨id⟩
  z := ⟨z⟩
  kind := kind
  sprites := List.replicate count (MirrorTable.tile "a")

/-- Layers in no particular order, two of them with the same key and one without sprites, two lights
and a fence. -/
def square : Scene :=
  { Lighting.fenced with
    layers := [tiles 1 2 .dynamic 1, tiles 2 0 .static 2, tiles 3 (-1) .dynamic 0,
      tiles 4 0 .dynamic 3] }

/-- A frame with a layer that is not seen again, and a new size. -/
def beforeSquare : List Step := [.render { layers := [lonely] } default 0, .setSize ⟨16, 8⟩]

/-- After a frame and a new size this scene is drawn completely. The layer without sprites is drawn
by no call, and the two of one key come in the order of the scene. -/
theorem frame_law_square :
    ∃ es r h t, Course .wgpu ⟨8, 8⟩ { layerLifetime := 1 } [] beforeSquare es r ∧
      (render square default 1).Leads r h (.ok ()) t ∧ Complete r square default 1 h ∧
      ((default : Camera).visibleBounds r.size).origin.toList ++
        ((default : Camera).visibleBounds r.size).size.toList =
        (default : Camera).viewUniform r.size := by
  obtain ⟨es, -, hc⟩ := exists_courseOn numbering 0 .wgpu ⟨8, 8⟩ { layerLifetime := 1 } []
    beforeSquare (by decide +kernel)
  have hl := Action.leads_heard numbering (render square default 1)
    (courseOn numbering 0 .wgpu ⟨8, 8⟩ { layerLifetime := 1 } [] beforeSquare).2.1 0
  rw [ok_of_granted hc.settled (by decide +kernel) hl (granted_heard_numbering _ _ _)] at hl
  exact ⟨es, _, _, _, hc, hl, frame_law hc (by decide +kernel) hl⟩

end Renderer

end LitTiles
