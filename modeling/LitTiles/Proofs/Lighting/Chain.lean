import LitTiles.Proofs.Frame.Command
import LitTiles.Proofs.Lighting.Query
import LitTiles.Lighting.Chain
import LitTiles.Record.Recorder

/-!
# The calls of the lighting chain

What the lighting chain keeps from frame to frame is a grid, the outlines that were found last and
the shadows that were collected last. None of this can be told from its calls. They are those that
`Lighting.chain` lists: it knows the scene, the view, the edge of the cells and the commands of the
three stages, and no more.

* `shadows` are the shadows of a light: those of the outlines that the broad phase finds near it.
* `leads_render_ok` says which calls are made when all succeed, `simulates_render` that a chain that
  was used before does whatever a new one does, errors included.
* `chain_calls` puts both together for a chain that has drawn any number of frames.
-/

namespace LitTiles

namespace Lighting

variable {registry : Registry} {frame : FrameContext} {scene : Scene} {view : Rect}
  {colliders : List Collider} {l : Light} {blur edge : Scalar} {s t : Lighting}
  {h : List Exchange} {x : Except RenderError Nat} {runs : List Command}

/-! ## What is to be called -/

/-- The outlines near a light, by their numbers. -/
def near (edge : Scalar) (colliders : List Collider) (l : Light) : List Nat :=
  ((Grid.filled edge (colliders.map (·.bounds))).query l.bounds).1

/-- The corners of the shadows of a light. -/
def shadows (edge : Scalar) (colliders : List Collider) (l : Light) : List Vec2 :=
  (near edge colliders l).flatMap fun i =>
    (colliders[i]?).elim [] (Shadow.triangles l.position l.radius)

/-- The commands that draw one light and add it to the lightmap, if the last of them are given. -/
def lightCommands (edge : Scalar) (colliders : List Collider) (runs : List Command) (l : Light) :
    List Command :=
  [.clear OffscreenSlot.lightTemp.target .transparent,
    .drawLight OffscreenSlot.lightTemp.target (.ofLight l)] ++
  (if (shadows edge colliders l).isEmpty then []
    else [.drawShadows OffscreenSlot.lightTemp.target (shadows edge colliders l)]) ++
  runs

/-- The commands that draw a lightmap. -/
def chain (edge : Scalar) (runs : List Command) (scene : Scene) (view : Rect) : List Command :=
  .clear OffscreenSlot.lightmap.target scene.ambient ::
    (visibleLights scene.lights view).flatMap (lightCommands edge scene.colliders runs)

/-- The lighting chain has its settings. -/
structure Tuned (blur edge : Scalar) (s : Lighting) : Prop where
  /-- The spacing of the taps of the blur. -/
  blurRadius : s.blurRadius = blur
  /-- The edge of the cells. -/
  cellSize : s.grid.cellSize = Grid.usableCellSize edge

/-- A new chain has the blur and the edge it was made with. -/
theorem tuned_start (blur edge : Scalar) : (start blur edge).Tuned blur edge := ⟨rfl, rfl⟩

/-- The lighting chain is about to draw lights. -/
structure Ready (blur edge : Scalar) (colliders : List Collider) (s : Lighting) : Prop where
  /-- The spacing of the taps of the blur. -/
  blurRadius : s.blurRadius = blur
  /-- The grid holds the outlines. -/
  grid : s.grid.Holds edge (colliders.map (·.bounds))

/-- A chain that is ready has its tuning. -/
theorem Ready.tuned (hr : s.Ready blur edge colliders) : s.Tuned blur edge :=
  ⟨hr.blurRadius, hr.grid.cellSize⟩

/-- Filling the grid makes a tuned chain ready. What was in the grid before is gone. -/
theorem Tuned.rebuild (ht : s.Tuned blur edge) (colliders : List Collider) :
    Ready blur edge colliders { s with grid := s.grid.rebuild (colliders.map (·.bounds)) } :=
  ⟨ht.blurRadius, .rebuild ht.cellSize _⟩

/-! ## Shadows -/

/-- Adding shadows appends the triangles of each outline, in the order in which the broad phase
lists them. -/
theorem foldl_addShadow (colliders : List Collider) (l : Light) (items : List Nat)
    (s : Lighting) :
    items.foldl (addShadow colliders l) s = { s with
      triangles := s.triangles ++ items.flatMap fun i =>
        (colliders[i]?).elim [] (Shadow.triangles l.position l.radius) } := by
  induction items generalizing s with
  | nil => simp
  | cons i items ih =>
    rw [List.foldl_cons, ih, List.flatMap_cons, addShadow]
    cases colliders[i]? with
    | none => rfl
    | some c => simp only [Option.elim_some, List.append_assoc]

/-- Gathering clears the shadows that were there before and spends one query of the grid. -/
theorem gatherShadows_eq (colliders : List Collider) (l : Light) (s : Lighting) :
    gatherShadows colliders l s = { s with
      grid := (s.grid.query l.bounds).2
      hits := (s.grid.query l.bounds).1
      triangles := (s.grid.query l.bounds).1.flatMap fun i =>
        (colliders[i]?).elim [] (Shadow.triangles l.position l.radius) } := by
  rw [gatherShadows, foldl_addShadow]
  rfl

/-- The shadows that are collected are those of the light, whatever was collected before. -/
theorem Ready.triangles_gatherShadows (hr : s.Ready blur edge colliders) (l : Light) :
    (gatherShadows colliders l s).triangles = shadows edge colliders l := by
  have holds : (Grid.filled edge (colliders.map (·.bounds))).Holds edge _ := .rebuild rfl _
  rw [gatherShadows_eq, shadows, near, hr.grid.query_eq holds]

/-- Gathering for one light leaves the chain ready for the next: a query changes stamps, and no
items. -/
theorem Ready.gatherShadows (hr : s.Ready blur edge colliders) (l : Light) :
    (gatherShadows colliders l s).Ready blur edge colliders := by
  rw [gatherShadows_eq]
  exact ⟨hr.blurRadius, hr.grid.query l.bounds⟩

/-- The outlines near a light are listed in ascending order, each at most once. -/
theorem near_ascending (edge : Scalar) (colliders : List Collider) (l : Light) :
    (near edge colliders l).Pairwise (· < ·) :=
  Grid.pairwise_query (Grid.Holds.rebuild rfl _).past _

/-- What the broad phase finds are numbers of outlines of the scene. -/
theorem lt_of_mem_near {i : Nat} (hi : i ∈ near edge colliders l) : i < colliders.length := by
  have := Grid.Holds.lt_of_mem_query (.rebuild rfl _) hi
  rwa [List.length_map] at this

/-- Gathering changes neither the blur nor the edge. -/
theorem Tuned.gatherShadows (ht : s.Tuned blur edge) (colliders : List Collider) (l : Light) :
    (gatherShadows colliders l s).Tuned blur edge := by
  rw [gatherShadows_eq]
  exact ⟨ht.blurRadius, (Grid.cellSize_query l.bounds).trans ht.cellSize⟩

/-! ## When all calls succeed -/

/-- The three stages have no fault as long as the built-in effects are there. -/
theorem sound_stages (he : registry.Equipped) (blur : Scalar) :
    ∀ stage ∈ stages blur, stage.Sound registry := by
  intro stage hmem
  rcases List.mem_cons.mp hmem with rfl | hmem
  · exact Stage.sound_of_slots he (by decide : EffectName.blurH ∈ Registry.builtIns.map (·.1))
      (by decide : 1 ≤ maxChannels)
      (fun i hi => ⟨.lightTemp, (List.mem_singleton.mp hi).symm⟩) (.inr ⟨.blurTemp, rfl⟩)
  rcases List.mem_cons.mp hmem with rfl | hmem
  · exact Stage.sound_of_slots he (by decide : EffectName.blurV ∈ Registry.builtIns.map (·.1))
      (by decide : 1 ≤ maxChannels)
      (fun i hi => ⟨.blurTemp, (List.mem_singleton.mp hi).symm⟩) (.inr ⟨.lightTemp, rfl⟩)
  · obtain rfl := List.mem_singleton.mp hmem
    exact Stage.sound_of_slots he
      (by decide : EffectName.lightAccumulate ∈ Registry.builtIns.map (·.1))
      (by decide : 1 ≤ maxChannels)
      (fun i hi => ⟨.lightTemp, (List.mem_singleton.mp hi).symm⟩) (.inr ⟨.lightmap, rfl⟩)

/-- The commands of the three stages are three runs. -/
theorem commands_stages (hc : Stage.Commands registry frame (stages blur) runs) :
    ∃ u₁ u₂ u₃, runs =
      [.runProgram EffectName.blurH [OffscreenSlot.lightTemp.index] OffscreenSlot.blurTemp.target u₁
        none,
      .runProgram EffectName.blurV [OffscreenSlot.blurTemp.index] OffscreenSlot.lightTemp.target u₂
        none,
      .runProgram EffectName.lightAccumulate [OffscreenSlot.lightTemp.index]
        OffscreenSlot.lightmap.target u₃ none] := by
  cases hc with
  | cons h₁ hc =>
    cases hc with
    | cons h₂ hc =>
      cases hc with
      | cons h₃ hc =>
        cases hc
        obtain ⟨e₁, size₁, -, rfl⟩ := Stage.command_eq_ok_iff.mp h₁
        obtain ⟨e₂, size₂, -, rfl⟩ := Stage.command_eq_ok_iff.mp h₂
        obtain ⟨e₃, size₃, -, rfl⟩ := Stage.command_eq_ok_iff.mp h₃
        exact ⟨_, _, _, rfl⟩

/-- One light that is drawn with success. -/
theorem leads_drawLight_ok (hr : s.Ready blur edge colliders)
    (hruns : Stage.Commands registry frame (stages blur) runs) :
    (drawLight registry frame colliders l).Leads s h (.ok ()) t ↔
      h = (lightCommands edge colliders runs l).map .done ∧ t = gatherShadows colliders l s := by
  -- gathering the shadows leaves the radius of the blur alone, hence the stages too
  have hblur : (gatherShadows colliders l s).blurRadius = blur := (hr.gatherShadows l).blurRadius
  have after : ∀ {rest}, (Stage.runAll registry frame (stages blur) : Action Lighting Unit).Leads
      (gatherShadows colliders l s) rest (.ok ()) t ↔
        rest = runs.map .done ∧ t = gatherShadows colliders l s := by
    intro rest
    rw [Stage.leads_runAll_ok]
    constructor
    · rintro ⟨cs, hcs, rfl, rfl⟩
      exact ⟨by rw [hruns.unique hcs], rfl⟩
    · rintro ⟨rfl, rfl⟩
      exact ⟨runs, hruns, rfl, rfl⟩
  simp only [drawLight, Action.leads_issue_bind_ok, Action.leads_modify_bind,
    Action.leads_getThe_bind]
  rw [hblur, hr.triangles_gatherShadows]
  -- without a shadow the light is drawn alone
  by_cases he : (shadows edge colliders l).isEmpty = true
  · simp only [if_pos he, after, lightCommands]
    constructor
    · rintro ⟨_, rfl, _, rfl, rfl, rfl⟩
      exact ⟨rfl, rfl⟩
    · rintro ⟨rfl, rfl⟩
      exact ⟨_, rfl, _, rfl, rfl, rfl⟩
  · simp only [if_neg he, Action.leads_issue_bind_ok, after, lightCommands]
    constructor
    · rintro ⟨_, rfl, _, rfl, _, rfl, rfl, rfl⟩
      exact ⟨rfl, rfl⟩
    · rintro ⟨rfl, rfl⟩
      exact ⟨_, rfl, _, rfl, _, rfl, rfl, rfl⟩

/-- Lights that are drawn with success, one after the other. -/
theorem leads_drawLights_ok {lights : List Light} (hr : s.Ready blur edge colliders)
    (hruns : Stage.Commands registry frame (stages blur) runs) :
    (lights.forM (drawLight registry frame colliders)).Leads s h (.ok ()) t ↔
      h = (lights.flatMap (lightCommands edge colliders runs)).map .done ∧
        t = lights.foldl (fun s l => gatherShadows colliders l s) s := by
  induction lights generalizing s h with
  | nil => exact Action.leads_forM_nil.trans (and_congr_right fun _ => and_iff_right rfl)
  | cons l lights ih =>
    rw [Action.leads_forM_cons_ok, List.flatMap_cons, List.map_append, List.foldl_cons]
    constructor
    · rintro ⟨h₁, h₂, r, rfl, hl, hrest⟩
      obtain ⟨rfl, rfl⟩ := (leads_drawLight_ok hr hruns).mp hl
      obtain ⟨rfl, rfl⟩ := (ih (hr.gatherShadows l)).mp hrest
      exact ⟨rfl, rfl⟩
    · rintro ⟨rfl, rfl⟩
      exact ⟨_, _, _, rfl, (leads_drawLight_ok hr hruns).mpr ⟨rfl, rfl⟩,
        (ih (hr.gatherShadows l)).mpr ⟨rfl, rfl⟩⟩

/-- A lightmap that is drawn with success. -/
theorem leads_render_ok {k : Nat} (ht : s.Tuned blur edge)
    (hruns : Stage.Commands registry frame (stages blur) runs)
    (hl : (render registry scene view frame).Leads s h (.ok k) t) :
    k = (visibleLights scene.lights view).length ∧ h = (chain edge runs scene view).map .done := by
  rw [render, Action.leads_issue_bind_ok] at hl
  obtain ⟨rest, rfl, hl⟩ := hl
  rw [Action.leads_modify_bind, Action.leads_bind_ok] at hl
  obtain ⟨_, h₁, h₂, r, rfl, hlights, hl⟩ := hl
  obtain ⟨rfl, -⟩ := (leads_drawLights_ok (ht.rebuild scene.colliders) hruns).mp hlights
  rw [Action.leads_say_bind, Action.leads_pure] at hl
  obtain ⟨rfl, hk, -⟩ := hl
  refine ⟨Except.ok.inj hk, ?_⟩
  rw [List.append_nil]
  rfl

/-! ## Whatever is answered -/

/-- No more than three kinds of calls are made besides runs of the three stages, and no error but
theirs. -/
def contract (registry : Registry) (frame : FrameContext) (blur edge : Scalar) :
    Contract Lighting where
  keeps := Tuned blur edge
  calls call := call.IsPlain ∧ Stage.RunsFor registry frame (stages blur) call
  errors := Stage.FaultOf registry frame (stages blur)

/-- A call that neither concerns buffers nor frames meets the contract, if it runs an effect only
for one of the stages. -/
theorem meets_plain {c : Command} (hp : (Call.issue c).IsPlain)
    (hr : Stage.RunsFor registry frame (stages blur) (.issue c)) :
    (Action.issue c : Action Lighting Unit).Meets (contract registry frame blur edge) :=
  Action.meets_issue ⟨hp, hr⟩

theorem meets_modify_tuned {f : Lighting → Lighting}
    (hf : ∀ s, Tuned blur edge s → Tuned blur edge (f s)) :
    (modify f : Action Lighting PUnit).Meets (contract registry frame blur edge) :=
  Action.meets_modify hf

/-- Drawing one light meets the contract: it clears, draws the light and its shadows, and runs the
stages. -/
theorem meets_drawLight (registry : Registry) (frame : FrameContext) (colliders : List Collider)
    (l : Light) :
    (drawLight registry frame colliders l).Meets (contract registry frame blur edge) := by
  refine (meets_plain (by trivial) (by nofun)).bind fun _ => ?_
  refine (meets_plain (by trivial) (by nofun)).bind fun _ => ?_
  refine (meets_modify_tuned fun s hs => hs.gatherShadows colliders l).bind fun _ => ?_
  refine Action.meets_get_bind fun s hs => ?_
  -- the state that is read has the settings
  have after : (Stage.runAll registry frame (stages s.blurRadius)).Meets
      (contract registry frame blur edge) := by
    rw [hs.blurRadius]
    refine .forM fun stage hmem => Stage.meets_run (fun c hc => ?_) fun err he => ⟨stage, hmem, he⟩
    refine ⟨?_, Stage.runsFor_of_command hmem hc⟩
    obtain ⟨e, size, -, rfl⟩ := Stage.command_eq_ok_iff.mp hc
    trivial
  by_cases he : s.triangles.isEmpty = true
  · rw [if_pos he]
    exact after
  · rw [if_neg he]
    exact (meets_plain (by trivial) (by nofun)).bind fun _ => after

/-- A whole frame of the chain meets the contract, by `meets_drawLight` for each visible light. -/
theorem meets_render (registry : Registry) (scene : Scene) (view : Rect) (frame : FrameContext) :
    (render registry scene view frame).Meets (contract registry frame blur edge) := by
  refine (meets_plain (by trivial) (by nofun)).bind fun _ => ?_
  refine (meets_modify_tuned fun s hs => (hs.rebuild scene.colliders).tuned).bind fun _ => ?_
  refine (Action.Meets.forM fun l _ => meets_drawLight registry frame scene.colliders l).bind
    fun _ => ?_
  exact (Action.meets_say _ _ _).bind fun _ => Action.meets_pure _

/-- Lights are drawn in the same way from all states that are ready for them. -/
theorem simulates_drawLight (registry : Registry) (frame : FrameContext)
    (colliders : List Collider) (l : Light) :
    Action.Simulates (fun s s' => Ready blur edge colliders s ∧ Ready blur edge colliders s')
      (drawLight registry frame colliders l) (drawLight registry frame colliders l) := by
  refine (Action.simulates_issue _).bind fun _ => ?_
  refine (Action.simulates_issue _).bind fun _ => ?_
  -- from here on both sides know the shadows of the light
  rintro s s' h x t ⟨hs, hs'⟩ hl
  simp only [Action.leads_modify_bind, Action.leads_getThe_bind] at hl ⊢
  rw [(hs.gatherShadows l).blurRadius, hs.triangles_gatherShadows] at hl
  rw [(hs'.gatherShadows l).blurRadius, hs'.triangles_gatherShadows]
  have after : Action.Simulates (fun s s' => Ready blur edge colliders s ∧
      Ready blur edge colliders s')
      (do
        unless (shadows edge colliders l).isEmpty do
          Action.issue (.drawShadows OffscreenSlot.lightTemp.target (shadows edge colliders l))
        Stage.runAll registry frame (stages blur))
      (do
        unless (shadows edge colliders l).isEmpty do
          Action.issue (.drawShadows OffscreenSlot.lightTemp.target (shadows edge colliders l))
        Stage.runAll registry frame (stages blur)) := by
    by_cases he : (shadows edge colliders l).isEmpty = true
    · rw [if_pos he]
      exact Stage.simulates_runAll _
    · rw [if_neg he]
      exact (Action.simulates_issue _).bind fun _ => Stage.simulates_runAll _
  exact after _ _ h x t ⟨hs.gatherShadows l, hs'.gatherShadows l⟩ hl

/-- Two chains of one tuning do the same in a frame, whatever is answered. The grid is filled anew
in both, so nothing of their pasts is left. -/
theorem simulates_render (registry : Registry) (scene : Scene) (view : Rect)
    (frame : FrameContext) :
    Action.Simulates (fun s s' => Tuned blur edge s ∧ Tuned blur edge s')
      (render registry scene view frame) (render registry scene view frame) := by
  rintro s s' h x t ⟨hs, hs'⟩ hl
  rw [render] at hl ⊢
  simp only [Action.leads_issue_bind, Action.leads_modify_bind] at hl ⊢
  rcases hl with ⟨e, rfl, rfl, rfl⟩ | ⟨rest, rfl, hl⟩
  · exact ⟨s', .inl ⟨e, rfl, rfl, rfl⟩, hs, hs'⟩
  · -- both grids were rebuilt from the same outlines
    have lights : Action.Simulates
        (fun s s' => Ready blur edge scene.colliders s ∧ Ready blur edge scene.colliders s')
        ((visibleLights scene.lights view).forM (drawLight registry frame scene.colliders))
        ((visibleLights scene.lights view).forM (drawLight registry frame scene.colliders)) :=
      .forM fun l _ => simulates_drawLight registry frame scene.colliders l
    have said := lights.bind fun _ =>
      (Action.simulates_say .trace .lighting ("lighting: " ++
        toString (visibleLights scene.lights view).length ++ " of " ++
        toString scene.lights.length ++ " lights drawn")).bind fun _ =>
      Action.simulates_pure (visibleLights scene.lights view).length
    obtain ⟨u, hu, hr, hr'⟩ := said _ _ rest x t ⟨hs.rebuild _, hs'.rebuild _⟩ hl
    exact ⟨u, .inr ⟨rest, rfl, hu⟩, hr.tuned, hr'.tuned⟩

/-- If no call fails, the lightmap is drawn. -/
theorem ok_of_granted (ht : s.Tuned blur edge) (he : registry.Equipped)
    (hl : (render registry scene view frame).Leads s h x t) (hg : Granted h) :
    x = .ok (visibleLights scene.lights view).length := by
  have meets := meets_render registry scene view frame s h x t ht hl
  cases x with
  | error err =>
    exact absurd (meets.errors err rfl hg) (Stage.not_faultOf_of_sound (sound_stages he _) err)
  | ok k =>
    obtain ⟨runs, hruns⟩ := Stage.exists_commands (sound_stages he blur) frame
    rw [(leads_render_ok ht hruns hl).1]

/-! ## Chains that were used before -/

/-- A lighting chain that has drawn any number of lightmaps, each of them to its end or to an
error. -/
inductive Reached (blur edge : Scalar) : Lighting → Prop
  /-- Nothing was drawn yet. -/
  | start : Reached blur edge (Lighting.start blur edge)
  /-- One more lightmap. -/
  | render {s t : Lighting} {registry : Registry} {scene : Scene} {view : Rect}
      {frame : FrameContext} {h : List Exchange} {x : Except RenderError Nat}
      (hs : Reached blur edge s) (hl : (render registry scene view frame).Leads s h x t) :
      Reached blur edge t

/-- Whatever was drawn with a chain, its tuning is that of the start. -/
theorem Reached.tuned (hs : Reached blur edge s) : s.Tuned blur edge := by
  induction hs with
  | start => exact tuned_start blur edge
  | render _ hl ih => exact (meets_render _ _ _ _ _ _ _ _ ih hl).keeps

/-- The calls of a history draw the lightmap of a scene as seen through a view, with a number of
lights. -/
structure Draws (registry : Registry) (frame : FrameContext) (blur edge : Scalar) (scene : Scene)
    (view : Rect) (k : Nat) (h : List Exchange) : Prop where
  /-- The lights are those that can be seen. -/
  count : k = (visibleLights scene.lights view).length
  /-- The lightmap is cleared, and the lights are drawn one after the other, each with the same runs
  of the two blurs and of the effect that adds it. -/
  calls : ∃ u₁ u₂ u₃, ∃ runs : List Command,
    runs =
      [.runProgram EffectName.blurH [OffscreenSlot.lightTemp.index] OffscreenSlot.blurTemp.target u₁
        none,
      .runProgram EffectName.blurV [OffscreenSlot.blurTemp.index] OffscreenSlot.lightTemp.target u₂
        none,
      .runProgram EffectName.lightAccumulate [OffscreenSlot.lightTemp.index]
        OffscreenSlot.lightmap.target u₃ none] ∧
    Stage.Commands registry frame (stages blur) runs ∧ h = (chain edge runs scene view).map .done
  /-- The outlines near a light are looked at in ascending order, none of them twice. -/
  ascending : ∀ l, (near edge scene.colliders l).Pairwise (· < ·)
  /-- There are such outlines. -/
  inside : ∀ l, ∀ i ∈ near edge scene.colliders l, i < scene.colliders.length

/-- A frame that succeeds makes the calls that `Lighting.chain` lists, for as many lights as it
counts. -/
theorem draws_of_ok {k : Nat} (ht : s.Tuned blur edge) (he : registry.Equipped)
    (hl : (render registry scene view frame).Leads s h (.ok k) t) :
    Draws registry frame blur edge scene view k h := by
  obtain ⟨runs, hruns⟩ := Stage.exists_commands (sound_stages he blur) frame
  obtain ⟨u₁, u₂, u₃, hu⟩ := commands_stages hruns
  obtain ⟨hk, hcalls⟩ := leads_render_ok ht hruns hl
  exact ⟨hk, ⟨u₁, u₂, u₃, runs, hu, hruns, hcalls⟩, near_ascending edge scene.colliders,
    fun l i hi => lt_of_mem_near hi⟩

/-- A lighting chain that was used before draws the lightmap of a scene by the calls that are listed
for it. Whatever is answered to it, an error or not, it does what a new one does with the same
settings, and nothing else. -/
theorem chain_calls (hs : Reached blur edge s) (he : registry.Equipped) {k : Nat}
    (hl : (render registry scene view frame).Leads s h (.ok k) t) :
    Draws registry frame blur edge scene view k h ∧
      ∀ h' x, (∃ t', (render registry scene view frame).Leads s h' x t') ↔
        ∃ t', (render registry scene view frame).Leads (start blur edge) h' x t' := by
  refine ⟨draws_of_ok hs.tuned he hl, fun h' x => ⟨?_, ?_⟩⟩
  · rintro ⟨t', hl'⟩
    obtain ⟨u, hu, -⟩ := simulates_render registry scene view frame s _ h' x t'
      ⟨hs.tuned, tuned_start blur edge⟩ hl'
    exact ⟨u, hu⟩
  · rintro ⟨t', hl'⟩
    obtain ⟨u, hu, -⟩ := simulates_render registry scene view frame _ s h' x t'
      ⟨tuned_start blur edge, hs.tuned⟩ hl'
    exact ⟨u, hu⟩

/-- A registry with the built-in effects. -/
def equipped : Registry := (Registry.registerBuiltIns.play numbering { interface := .wgpu } 0).2.1

/-- Two lights on both sides of a fence, and one between them that does not shine. -/
def fenced : Scene where
  lights :=
    [{ position := ⟨2, 4⟩, radius := 8, color := Color.white, intensity := 1 },
      { position := ⟨3, 4⟩, radius := 8, color := Color.white, intensity := 0 },
      { position := ⟨6, 4⟩, radius := 8, color := Color.white, intensity := 1 }]
  colliders := [⟨[⟨4, 2⟩, ⟨4, 6⟩]⟩]

/-- The part of the world that is seen. -/
def window : Rect := ⟨⟨0, 0⟩, ⟨8, 8⟩⟩

/-- A lighting chain after its first frame, in which the second light was refused. -/
def interrupted : Lighting :=
  ((render equipped fenced window ⟨⟨8, 8⟩, 0⟩).play Recorder.backend (start 1.5 128)
    { refusals := [(.drawLight, 1)] }).2.1

/-- The chain that was interrupted draws the two lights that shine, by the calls of a chain that was
never used. -/
theorem chain_calls_interrupted :
    ∃ h t, (render equipped fenced window ⟨⟨8, 8⟩, 0⟩).Leads interrupted h (.ok 2) t ∧
      Draws equipped ⟨⟨8, 8⟩, 0⟩ 1.5 128 fenced window 2 h ∧
      ∀ h' x, (∃ t', (render equipped fenced window ⟨⟨8, 8⟩, 0⟩).Leads interrupted h' x t') ↔
        ∃ t', (render equipped fenced window ⟨⟨8, 8⟩, 0⟩).Leads (start 1.5 128) h' x t' := by
  have he : equipped.Equipped := by decide +kernel
  have hs : Reached 1.5 128 interrupted := .render .start (Action.leads_heard ..)
  have hl := Action.leads_heard numbering (render equipped fenced window ⟨⟨8, 8⟩, 0⟩) interrupted 0
  have two : (visibleLights fenced.lights window).length = 2 := by decide +kernel
  rw [ok_of_granted hs.tuned he hl (granted_heard_numbering _ _ _), two] at hl
  exact ⟨_, _, hl, chain_calls hs he hl⟩

end Lighting

end LitTiles
