import LitTiles.Proofs.Batch.Repair
import LitTiles.Proofs.Renderer.FrameLaw

/-!
# Frames that fail, and the next one

A frame is over with the first call that fails, and the error of this call is the answer (`Halted`).
It may be any call, so the frame may leave layers without mirrors or with old ones.

These are `Missed`, and they stay so until something is written for them, through any number of
frames that fail and whatever else is done in between (`neglects_of_attempts`). The next frame in
which no call fails is drawn to its end, if only its passes are without fault, and what was missed
is made good before anything is drawn (`fail_stop_and_recovery`).
-/

namespace LitTiles

namespace Renderer

variable {interface : Interface} {size : SurfaceSize} {config : RendererConfig}
  {textures : List Texture} {steps later : List Step} {es es' : List Entry} {r s t : Renderer}
  {scene : Scene} {camera : Camera} {time : Scalar} {h : List Exchange}
  {x : Except RenderError Unit}

/-! ## What is missed stays due -/

namespace Step

variable (id : LayerId) (t₀ : MirrorTable) (h₀ : List Entry)

/-- Nothing is uploaded where the table is left alone. -/
theorem watched_of_spares {α : Type} {ok : Call → Prop} {a : Action Renderer α}
    (ha : a.Spares ok (·.mirrors)) (hk : (Trail.of none a).Keeps fun r => r.mirrors.Kept) :
    (Trail.of none a).Keeps fun r => MirrorTable.Watched id t₀ h₀ r.mirrors := by
  intro r before es x r' hw hl
  refine hw.step (hk r before es x r' hw.1 hl) fun _ => ?_
  obtain ⟨h, rfl, hlead⟩ := hl
  have same : r'.mirrors = r.mirrors := (ha r h x r' hlead).1
  rw [same]
  exact .refl _ _

theorem watched_idle {α : Type} {a : Action Renderer α} (ha : a.Spares Call.IsIdle (·.mirrors)) :
    (Trail.of none a).Keeps fun r => MirrorTable.Watched id t₀ h₀ r.mirrors :=
  watched_of_spares id t₀ h₀ ha (keeps_idle ha)

theorem watched_frameTrail (scene : Scene) (camera : Camera) (time : Scalar) :
    (frameTrail scene camera time).Keeps fun r => MirrorTable.Watched id t₀ h₀ r.mirrors := by
  have drawing : ∀ {view context}, (paint scene view context).Spares (fun _ => True) (·.mirrors) :=
    spares_paint (fun _ _ => trivial) (fun _ _ _ _ => trivial) scene _ _
  refine (watched_idle id t₀ h₀ spares_applyResize).bind fun _ => ?_
  refine (watched_idle id t₀ h₀ Action.spares_get).bind fun r => ?_
  refine (watched_idle id t₀ h₀ (Action.spares_issue (by trivial))).bind fun _ => ?_
  refine ((MirrorTable.watched_sync id t₀ h₀ scene.layers).within fun _ _ => rfl).bind fun _ => ?_
  refine (watched_of_spares id t₀ h₀ drawing (keeps_paint _ _ _)).bind fun _ => ?_
  refine Trail.Keeps.bind ?_ fun _ => watched_idle id t₀ h₀ (Action.spares_issue (by trivial))
  rw [onMirrors, Trail.of_within]
  exact (MirrorTable.watched_collect id t₀ h₀).within fun _ _ => rfl

/-- Whatever is done in a step, nothing is uploaded for a layer unless something is written for
it. -/
theorem watched_trail (s : Step) :
    s.trail.Keeps fun r => MirrorTable.Watched id t₀ h₀ r.mirrors := by
  cases s with
  | render scene camera time =>
    -- only a frame with an area to draw reaches the mirrors
    refine (watched_idle id t₀ h₀ Action.spares_get).bind fun r => ?_
    by_cases hr : r.size.isEmpty = true
    · rw [if_pos hr]
      exact watched_idle id t₀ h₀ (Action.spares_say _ _ _)
    · rw [if_neg hr]
      exact watched_frameTrail id t₀ h₀ scene camera time
  | setSize size =>
    refine watched_idle id t₀ h₀ (Action.spares_modify fun r => ?_)
    unfold Renderer.setSize
    split <;> rfl
  | setClearColor color => exact watched_idle id t₀ h₀ (Action.spares_modify fun _ => rfl)
  | setPasses passes => exact watched_idle id t₀ h₀ (Action.spares_modify fun _ => rfl)
  | invalidate id' =>
    intro r before es x r' hw hl
    -- the mirror stays but counts as stale, which is one way to be behind
    refine hw.step (keeps_trail (.invalidate id') r before es x r' hw.1 hl) fun _ => ?_
    obtain ⟨h, rfl, hlead⟩ := hl
    obtain ⟨-, -, rfl⟩ := Action.leads_modify.mp hlead
    exact MirrorTable.neglects_invalidate hw.1 id'
  | loadTexture texture => exact watched_idle id t₀ h₀ (Action.spares_issue (by trivial))
  | register name effect blend =>
    refine watched_idle id t₀ h₀ (a := onRegistry (Registry.register name effect blend)) ?_
    refine Action.Spares.within ?_ fun _ _ => rfl
    exact (Registry.spares_register name effect blend).mono fun _ => Call.IsPlain.isIdle

end Step

/-- While nothing is written for a layer, nothing is uploaded for it, whatever is done. -/
theorem neglects_of_attempts (hk : r.mirrors.Kept es)
    (ha : Trail.Attempts (later.map Step.trail) r es' s) {id : LayerId}
    (hw : ∀ e ∈ es', e.writesFor id = false) : MirrorTable.Neglects id r.mirrors s.mirrors := by
  have keeps : ∀ m ∈ later.map Step.trail,
      m.Keeps fun q : Renderer => MirrorTable.Watched id r.mirrors es q.mirrors := by
    intro m hm
    obtain ⟨step, -, rfl⟩ := List.mem_map.mp hm
    exact Step.watched_trail id r.mirrors es step
  exact (Trail.Keeps.attempts keeps (hk.watched id) ha).neglects hw

/-! ## The next frame -/

/-- A course may go on. -/
theorem Course.attempts (hc : Course interface size config textures steps es r)
    (ha : Trail.Attempts (later.map Step.trail) r es' s) :
    Course interface size config textures (steps ++ later) (es ++ es') s := by
  obtain ⟨made, taken, r₀, rfl, hmade, htaken⟩ := hc
  refine ⟨made, taken ++ es', r₀, List.append_assoc .., hmade, ?_⟩
  rw [List.map_append]
  exact htaken.append ha

/-- A layer was missed: something had to be uploaded for it, and nothing was written for it
since. -/
def Missed (table : MirrorTable) (since : List Entry) (l : Layer) : Prop :=
  table.Due l ∧ ∀ e ∈ since, e.writesFor l.id = false

/-- A call that fails ends the frame, and its error is the answer. A new size that was noted stays
noted if and only if targets were not made. And after anything that may have happened to a renderer,
frames that failed in particular, a frame in which no call fails succeeds if the passes are without
fault. Unless there is nothing to draw on it is drawn to its end, and what was missed until then is
made good by its `sync`. -/
theorem fail_stop_and_recovery (hc : Course interface size config textures steps es r)
    (ha : Trail.Attempts (later.map Step.trail) r es' s)
    (hl : (render scene camera time).Leads s h x t) :
    Halted h x ∧
      (t.resizePending = true ↔ s.resizePending = true ∧
        ∀ surface targets, Exchange.done (.configureTargets surface targets) ∉ h) ∧
      ((∀ stage ∈ s.passes, stage.Sound s.registry) → Granted h → x = .ok () ∧
        (s.size.isEmpty = true ∧ h = [] ∨
          ∃ updates table p, FrameOf s scene camera time (exchanges updates) table p h ∧
            MirrorTable.MadeGood scene.layers (es ++ es')
            (Missed r.mirrors es') updates table)) := by
  have whole := hc.attempts ha
  refine ⟨halted_render whole.settled hl, resizePending_of_render whole.settled.tuned hl, ?_⟩
  intro hp hg
  obtain rfl := ok_of_granted whole.settled hp hl hg
  refine ⟨rfl, ?_⟩
  cases hsize : s.size.isEmpty with
  | true =>
    rcases leads_render.mp hl with ⟨-, he, -⟩ | ⟨he, -⟩
    · exact .inl ⟨rfl, he⟩
    · rw [he] at hsize
      cases hsize
  | false =>
    obtain ⟨updates, table, p, hf, htrail⟩ := exists_frameOf whole.settled whole.kept hsize hl
    refine .inr ⟨updates, table, p, hf, MirrorTable.madeGood_of_sync whole.kept htrail ?_⟩
    rintro l ⟨hd, hw⟩
    exact (neglects_of_attempts hc.kept ha hw).due hd

/-- Two frames of a layer, with a new size in between. -/
def twoFrames : List Step :=
  [.render { layers := [lonely] } default 0, .setSize ⟨16, 8⟩,
    .render { layers := [lonely] } default 0]

/-- A renderer on a backend that is going to refuse a write, and then the targets of a new size. -/
def beforeTwoFrames : List Exchange × Renderer × Recorder :=
  courseOn Recorder.backend { refusals := [(.writeInstances, 0), (.configureTargets, 1)] }
    .wgpu ⟨8, 8⟩ {} [] []

/-- The two frames on this backend. -/
def afterTwoFrames : List Exchange × Renderer × Recorder :=
  Action.playAll Recorder.backend (twoFrames.map Step.action)
    beforeTwoFrames.2.1 beforeTwoFrames.2.2

/-- Both frames failed, and the layer was missed. -/
theorem missed_twoFrames {es' : List Entry} (he : exchanges es' = afterTwoFrames.1) :
    Missed beforeTwoFrames.2.1.mirrors es' lonely := by
  have fresh : beforeTwoFrames.2.1.mirrors.get? lonely.id = none :=
    Option.isNone_iff_eq_none.mp (by decide +kernel)
  have unwritten : afterTwoFrames.1.all (fun e => !(CallKind.of e.call == .writeInstances &&
      e.error?.isNone)) = true := by
    decide +kernel
  refine ⟨fun m hm => ?_, fun e hmem => eq_false_of_ne_true fun hw => ?_⟩
  · rw [fresh] at hm
    cases hm
  · obtain ⟨source, b, instances, -, rfl⟩ := Entry.eq_of_writesFor hw
    have called : Exchange.done (.writeInstances b instances) ∈ afterTwoFrames.1 := by
      rw [← he]
      exact List.mem_map_of_mem hmem
    cases List.all_eq_true.mp unwritten _ called

/-- A frame fails at the upload of the layer and the next one at the targets. The one after them, to
which everything is granted, makes good what both have missed. -/
theorem fail_stop_and_recovery_twoFrames :
    ∃ es r es' s h t,
      Course .wgpu ⟨8, 8⟩ {} [] [] es r ∧ Trail.Attempts (twoFrames.map Step.trail) r es' s ∧
      (render { layers := [lonely] } default 1).Leads s h (.ok ()) t ∧
      Missed r.mirrors es' lonely ∧ Halted h (.ok () : Except RenderError Unit) ∧
      (t.resizePending = true ↔ s.resizePending = true ∧
        ∀ surface targets, Exchange.done (.configureTargets surface targets) ∉ h) ∧
      ∃ updates table p, FrameOf s { layers := [lonely] } default 1 (exchanges updates) table p h ∧
        MirrorTable.MadeGood [lonely] (es ++ es') (Missed r.mirrors es') updates table := by
  -- the host refuses the first upload and the second resize, so the two frames both fail
  obtain ⟨es, -, hc⟩ := exists_courseOn Recorder.backend
    { refusals := [(.writeInstances, 0), (.configureTargets, 1)] } .wgpu ⟨8, 8⟩ {} [] []
    (by decide +kernel)
  obtain ⟨es', he, ha⟩ := (Trail.attempts_erases Step.trail_erases).mp <|
    Action.attempts_playAll Recorder.backend (twoFrames.map Step.action) beforeTwoFrames.2.1
      beforeTwoFrames.2.2
  have hl := Action.leads_heard numbering (render { layers := [lonely] } default 1)
    afterTwoFrames.2.1 0
  have hp : ∀ stage ∈ afterTwoFrames.2.1.passes, stage.Sound afterTwoFrames.2.1.registry := by
    decide +kernel
  obtain ⟨hh, hpending, hrecovered⟩ := fail_stop_and_recovery hc ha hl
  obtain ⟨hx, hf⟩ := hrecovered hp (granted_heard_numbering _ _ _)
  rw [hx] at hl hh
  have hsize : afterTwoFrames.2.1.size.isEmpty = false := by decide +kernel
  refine ⟨es, _, es', _, _, _, hc, ha, hl, missed_twoFrames he, hh, hpending, ?_⟩
  exact hf.resolve_left fun hempty => Bool.false_ne_true (hsize.symm.trans hempty.1)

end Renderer

end LitTiles
