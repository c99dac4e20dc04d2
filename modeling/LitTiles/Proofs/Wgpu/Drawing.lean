import LitTiles.Proofs.Backend.Drawing
import LitTiles.Proofs.Wgpu.Recorder
import LitTiles.Proofs.Wgpu.Runs
import Mathlib.Data.List.Forall2

/-!
# How a wgpu adapter draws

`Adapter.Shows` is how an adapter shows a drawing: one draw, or a pass that starts from a colour.
What is drawn to, the pipeline, the groups and the buffers are found from the tables of the adapter;
only the places in its arenas and the groups of a run are made for the occasion.

While a frame is recorded each call that draws does what the tables say (`Drew`): it shows the
drawings in order, or fails like them.
-/

namespace LitTiles.Wgpu

open AdapterM

/-! ## What is shown -/

/-- A pass in which everything was set that a draw needs. -/
def Pass.of (view : Handle .view) (pipeline : Handle .renderPipeline)
    (groups : List (Handle .bindGroup)) (vertices : List Slice)
    (indices : Option Slice) : Pass where
  view
  pipeline := some pipeline
  groups i := groups[i]?
  vertices i := vertices[i]?
  indices

namespace Adapter

/-- The names and numbers that an adapter knows. -/
def tables (a : Adapter) : Tables where
  textures := a.atlases.map (·.1)
  effects := a.programs.map (·.1)
  buffers := a.buffers.map (·.1)
  next := a.nextBuffer
  targets := a.targets.length

/-- What a pass to a target draws to, while a frame is recorded. -/
def canvas (a : Adapter) : Target → Option (Handle .view)
  | .surface => a.frame.map (·.view)
  | .offscreen i => a.targets[i]?.map (·.view)

/-- What a channel that reads a slot samples, or nothing. -/
def channelOf (a : Adapter) : Option Nat → Handle .view
  | some slot => (a.targets[slot]?.map (·.view)).getD a.empty
  | none => a.empty

/-- How an adapter shows a drawing. -/
inductive Shows (a : Adapter) : Drawing → Drawn → Prop
  /-- A pass starts from a colour. -/
  | fill {target : Target} {v : Handle .view} (hv : a.canvas target = some v) (color : Color) :
      Shows a (.fill target color) (.fill v color)
  /-- A run of sprites is a range of instances. -/
  | sprites {target : Target} {v : Handle .view} {id : BufferId} {b : InstanceBuffer}
      {run : DrawCall} {atlas : Atlas} (hv : a.canvas target = some v)
      (hb : a.buffers.lookup id = some b)
      (ha : a.atlases.lookup run.texture = some atlas) (mode : SpriteMode)
      (resources : Nat → Option (List Resource)) :
      Shows a (.sprites target mode id run)
        (.indexed ⟨.of v (a.spritePipeline mode) [a.cameraGroup, atlas.group] [a.corners, b.slice]
          (some a.indices), resources⟩ UnitSquare.indexCount run.offset (run.offset + run.count))
  /-- A light is the only instance of a place in an arena. -/
  | light {target : Target} {v : Handle .view} (hv : a.canvas target = some v)
      (light : LightInstance) (slice : Slice) (resources : Nat → Option (List Resource)) :
      Shows a (.light target light)
        (.indexed ⟨.of v a.light [a.cameraGroup] [a.corners, slice] (some a.indices), resources⟩
          UnitSquare.indexCount 0 1)
  /-- Shadows are vertices in a place in an arena. -/
  | shadows {target : Target} {v : Handle .view} (hv : a.canvas target = some v)
      (corners : List Vec2) (slice : Slice) (resources : Nat → Option (List Resource)) :
      Shows a (.shadows target corners)
        (.vertices ⟨.of v a.shadow [a.cameraGroup] [slice] none, resources⟩ corners.length)
  /-- An effect reads a group with all its channels. -/
  | effect {name : String} {output : Target} {v : Handle .view} {p : Program}
      (hv : a.canvas output = some v) (hp : a.programs.lookup name = some p)
      (channels : List (Option Nat)) (uniforms : List Scalar) (block group : Handle .bindGroup)
      {resources : Nat → Option (List Resource)}
      (hr : resources 1 = some (channels.map (fun c => .view (a.channelOf c)) ++
        [.sampler a.channelSampler])) :
      Shows a (.effect name channels output uniforms)
        (.vertices ⟨.of v p.pipeline [block, group] [] none, resources⟩ 3)

end Adapter

/-! ## Passes -/

/-- What a pass fills its target with. -/
def Load.fill (view : Handle .view) : Load → Option Drawn
  | .keep => none
  | .clear color => some (.fill view color)

/-- One more thing is set behind some others. -/
theorem update_getElem? {α : Type} (l : List α) (x : α) :
    Function.update (fun i => l[i]?) l.length (some x) = fun i => (l ++ [x])[i]? := by
  funext i
  rcases Nat.lt_trichotomy i l.length with h | rfl | h
  · rw [Function.update_of_ne (by omega), List.getElem?_append_left h]
  · simp
  · rw [Function.update_of_ne (by omega), List.getElem?_eq_none (by omega),
      List.getElem?_eq_none (by rw [List.length_append, List.length_singleton]; omega)]

namespace Recorder

variable {r : Recorder} {cs ds : List Command}

/-- Commands beside the drawing draw nothing, in whatever pass they stand. -/
theorem draws_of_aside (hc : ∀ c ∈ cs, c.IsAside) : r.draws cs = [] := by
  induction cs generalizing r with
  | nil => rfl
  | cons c cs ih =>
    obtain ⟨hc, hcs⟩ := List.forall_mem_cons.mp hc
    have nothing : r.drawn c = none := by
      cases c <;> first | rfl | exact hc.elim
    rw [draws_cons, nothing, ih hcs]
    rfl

/-- A pass of its own draws what it fills, and what is drawn in it. -/
theorem draws_pass (encoder : Handle .encoder) (label : String) (v : Handle .view) (load : Load)
    (ds : List Command) : r.draws (.beginPass encoder label v load :: ds ++ [.endPass]) =
      (load.fill v).toList ++ ({ r with pass := some { view := v } } : Recorder).draws ds := by
  rw [List.cons_append, draws_cons, draws_append]
  cases load <;> simp [drawn, apply, Load.fill]

end Recorder

namespace Adapter

variable {a : Adapter} {s s' t : Session} {f : Frame} {target : Target}

/-- The unit square is bound, with instances. -/
theorem draws_bindInstances (rec : Recorder) (v : Handle .view) (pipeline : Handle .renderPipeline)
    (slice : Slice) (ds : List Command) :
    ({ rec with pass := some { view := v } } : Recorder).draws
    (a.bindInstances pipeline slice ++ ds) =
      ({ rec with
          pass := some (.of v pipeline [a.cameraGroup] [a.corners, slice] (some a.indices)) } :
        Recorder).draws ds := by
  have groups : Function.update (fun _ => none) 0 (some a.cameraGroup) = fun i =>
      [a.cameraGroup][i]? :=
    update_getElem? [] a.cameraGroup
  have first : Function.update (fun _ => none) 0 (some a.corners) = fun i => [a.corners][i]? :=
    update_getElem? [] a.corners
  have vertices : Function.update (fun i => [a.corners][i]?) 1 (some slice) = fun i =>
      [a.corners, slice][i]? :=
    update_getElem? [a.corners] slice
  rw [Recorder.draws_append, Pass.of, ← vertices, ← first, ← groups]
  rfl

/-- Runs of sprites are drawn one after the other, each with its own texture. -/
theorem shows_runs {v : Handle .view} (hv : a.canvas target = some v) {id : BufferId}
    {b : InstanceBuffer} (hb : a.buffers.lookup id = some b) (mode : SpriteMode) (rec : Recorder)
    {calls : List DrawCall}
    (known : ∀ run ∈ calls, ∃ atlas, a.atlases.lookup run.texture = some atlas)
    (group : Option (Handle .bindGroup)) :
    let p : Pass :=
      .of v (a.spritePipeline mode) [a.cameraGroup] [a.corners, b.slice] (some a.indices)
    List.Forall₂ a.Shows (calls.map (.sprites target mode id))
      (({ rec with pass := some { p with groups := Function.update p.groups 1 group } } :
        Recorder).draws (calls.flatMap a.drawRun)) := by
  intro p
  induction calls generalizing group with
  | nil => exact .nil
  | cons run calls ih =>
    obtain ⟨⟨atlas, ha⟩, known⟩ := List.forall_mem_cons.mp known
    have drawn : a.drawRun run = [.setBindGroup 1 atlas.group,
        .drawIndexed UnitSquare.indexCount run.offset (run.offset + run.count)] := by
      rw [drawRun, ha]
    -- the texture of the run before is replaced, so its group does not matter
    have groups : Function.update p.groups 1 (some atlas.group) = fun i =>
        [a.cameraGroup, atlas.group][i]? :=
      update_getElem? [a.cameraGroup] atlas.group
    -- the induction goes on with the group this run leaves behind
    have rest := ih known (some atlas.group)
    rw [List.flatMap_cons, drawn, List.map_cons]
    simp only [List.cons_append, List.nil_append, Recorder.draws_cons,
      Recorder.apply, Recorder.drawn, Recorder.onPass, Option.map_some, Option.toList_none,
      Option.toList_some, Function.update_idem]
    refine .cons ?_ rest
    rw [groups]
    exact .sprites hv hb ha mode _

/-- Shadows are drawn. -/
theorem shows_shadows {v : Handle .view} (hv : a.canvas target = some v)
    (corners : List Vec2) (slice : Slice) (rec : Recorder) :
    List.Forall₂ a.Shows [.shadows target corners]
      (({ rec with pass := some { view := v } } : Recorder).draws [.setPipeline a.shadow,
        .setBindGroup 0 a.cameraGroup, .setVertexBuffer 0 slice, .draw corners.length]) := by
  have groups : Function.update (fun _ => none) 0 (some a.cameraGroup) = fun i =>
      [a.cameraGroup][i]? :=
    update_getElem? [] a.cameraGroup
  have vertices : Function.update (fun _ => none) 0 (some slice) = fun i => [slice][i]? :=
    update_getElem? [] slice
  have shown := Shows.shadows (a := a) hv corners slice
  rw [Pass.of, ← groups, ← vertices] at shown
  exact .cons (shown _) .nil

/-- An effect is run with a group that holds its channels, on a target that may be filled before. -/
theorem shows_effect {name : String} {output : Target} {v : Handle .view} {p : Program}
    (hv : a.canvas output = some v) (hp : a.programs.lookup name = some p)
    (channels : List (Option Nat)) (uniforms : List Scalar) (block group : Handle .bindGroup)
    (clear : Option Color) (rec : Recorder) (hr : rec.groups group =
      some (channels.map (fun c => .view (a.channelOf c)) ++ [.sampler a.channelSampler])) :
    List.Forall₂ a.Shows ((clear.map (.fill output)).toList ++
      [.effect name channels output uniforms])
      ((((clear.map Load.clear).getD .keep).fill v).toList ++
        ({ rec with pass := some { view := v } } : Recorder).draws
          [.setPipeline p.pipeline, .setBindGroup 0 block, .setBindGroup 1 group, .draw 3]) := by
  have first : Function.update (fun _ => none) 0 (some block) = fun i => [block][i]? :=
    update_getElem? [] block
  have groups : Function.update (fun i => [block][i]?) 1 (some group) = fun i =>
      [block, group][i]? :=
    update_getElem? [block] group
  let bound : Nat → Option (Handle .bindGroup) :=
    Function.update (Function.update (fun _ => none) 0 (some block)) 1 (some group)
  have held : (bound 1).bind rec.groups =
      some (channels.map (fun c => .view (a.channelOf c)) ++ [.sampler a.channelSampler]) := hr
  have shown : a.Shows _ (.vertices ⟨_, fun i => (bound i).bind rec.groups⟩ 3) :=
    .effect hv hp channels uniforms block group held
  rw [Pass.of, ← groups, ← first] at shown
  cases clear with
  | none => exact .cons shown .nil
  | some color => exact .cons (.fill hv color) (.cons shown .nil)

/-! ## Targets -/

/-- A target is found if it can be reached. -/
theorem target?_cases (a : Adapter) (i : Nat) :
    (∃ e, a.target? i = .error e ∧ a.tables.reach (.offscreen i) = .error e) ∨
      ∃ t, a.targets[i]? = some t ∧ a.target? i = .ok t ∧
      a.tables.reach (.offscreen i) = .ok () := by
  rw [Tables.reach, target?]
  cases ht : a.targets[i]? with
  | some t =>
    have hi : i < a.tables.targets := (List.getElem?_eq_some_iff.mp ht).1
    exact .inr ⟨t, rfl, rfl, if_pos hi⟩
  | none =>
    have hi : ¬ i < a.tables.targets := Nat.not_lt.mpr (List.getElem?_eq_none_iff.mp ht)
    refine .inl ⟨a.missingTarget i, rfl, (if_neg hi).trans ?_⟩
    simp only [missingTarget, tables, List.isEmpty_iff, List.length_eq_zero_iff]

/-- A target is missing by the tables exactly if the adapter has no view of it. -/
theorem view_cases (hf : a.frame = some f) (target : Target) :
    (∃ e, a.view f target = .error e ∧ a.tables.reach target = .error e) ∨
      ∃ v, a.canvas target = some v ∧ a.view f target = .ok v ∧ a.tables.reach target = .ok () := by
  cases target with
  | surface => exact .inr ⟨f.view, by rw [canvas, hf]; rfl, rfl, rfl⟩
  | offscreen i =>
    rw [view, canvas]
    rcases a.target?_cases i with ⟨e, he, hr⟩ | ⟨t, ht, hok, hr⟩
    · rw [he]
      exact .inl ⟨e, rfl, hr⟩
    · rw [hok, ht]
      exact .inr ⟨t.view, rfl, rfl, hr⟩

/-- A channel samples the view of what it reads, or of nothing. A target that is drawn to is not
looked up. -/
def channelView (a : Adapter) (output : Target) : Option Nat → Except RenderError (Handle .view)
  | none => .ok a.empty
  | some slot => if output = .offscreen slot then .ok a.empty else (a.target? slot).map (·.view)

/-- Where the target is there, a channel with an input samples what it should. -/
theorem channelView_eq {output : Target} (ho : a.tables.reach output = .ok ()) (slot : Nat) :
    a.channelView output (some slot) = (a.tables.channel output slot).map a.channelOf := by
  rw [channelView, Tables.channel]
  split
  · rename_i self
    rw [← self, ho]
    rfl
  · rcases a.target?_cases slot with ⟨e, he, hr⟩ | ⟨t, ht, hok, hr⟩
    · rw [he, hr]
      rfl
    · rw [hok, hr]
      refine congrArg Except.ok ?_
      simp [channelOf, ht]

/-- So do all channels; those that are left over sample nothing. -/
theorem mapM_channelView {output : Target} (ho : a.tables.reach output = .ok ()) (n : Nat)
    (inputs : List Nat) :
    (List.range n).mapM (fun c => a.channelView output inputs[c]?) = do
      let used ← (inputs.take n).mapM (a.tables.channel output)
      return (used ++ List.replicate (n - used.length) none).map a.channelOf := by
  induction n generalizing inputs with
  | zero => rfl
  | succ n ih =>
    rw [List.range_succ_eq_map, List.mapM_cons, List.mapM_map]
    cases inputs with
    -- no input is left, so the remaining channels are empty
    | nil =>
      have rest := ih []
      simp only [List.getElem?_nil, List.take_nil, List.mapM_nil, pure_bind,
        List.length_nil, Nat.sub_zero, List.nil_append, Function.comp_def] at rest ⊢
      rw [rest]
      rfl
    | cons slot inputs =>
      have rest := ih inputs
      simp only [List.getElem?_cons_zero, List.getElem?_cons_succ, Function.comp_def,
        List.take_succ_cons, List.mapM_cons, channelView_eq ho] at rest ⊢
      rw [rest]
      -- the first refused channel ends both loops with the same error
      cases a.tables.channel output slot with
      | error e => rfl
      | ok c =>
        cases (inputs.take n).mapM (a.tables.channel output) with
        | error e => rfl
        | ok used =>
          refine congrArg Except.ok ?_
          simp

/-- The views of all channels are found as the tables have the channels. Inputs that were not given,
up to the last channel, read the empty view. -/
theorem channelViews_eq {inputs : List Nat} {output : Target}
    (ho : a.tables.reach output = .ok ()) :
    (List.range maxChannels).mapM (fun c => a.channelView output inputs[c]?) =
      (a.tables.channels inputs output).map (List.map a.channelOf) := by
  rw [mapM_channelView ho, Tables.channels]
  cases (inputs.take maxChannels).mapM (a.tables.channel output) <;> rfl

/-- Otherwise a channel may fail, but only because a target is missing. -/
theorem missing_of_channelViews {inputs : List Nat} {output : Target} {e : RenderError}
    (h : (List.range maxChannels).mapM (fun c => a.channelView output inputs[c]?) = .error e) :
    a.tables.Missing e := by
  obtain ⟨c, -, hc⟩ := exists_of_mapM_error h
  cases hs : inputs[c]? with
  | none =>
    rw [hs] at hc
    cases hc
  | some slot =>
    rw [hs, channelView] at hc
    split at hc
    · cases hc
    rcases a.target?_cases slot with ⟨e', he, hr⟩ | ⟨t, -, hok, -⟩
    · rw [he] at hc
      obtain rfl := Except.error.inj hc
      exact Tables.missing_of_reach hr
    · rw [hok] at hc
      cases hc

end Adapter

/-! ## Calls that draw -/

namespace Session

/-- What is drawn, if nothing is wrong. -/
def given : Except RenderError (List Drawing) → List Drawing
  | .ok ds => ds
  | .error _ => []

/-- What comes of a call that draws while a frame is recorded: it is answered as it should be, shows
the drawings in order, and leaves the tables and the frame as they are. -/
structure Drew (s : Session) (known : Except RenderError (List Drawing))
    (r : Except RenderError Unit) (s' : Session) : Prop where
  /-- The answer. -/
  reply : SameReply r (known.map fun _ => ())
  /-- The tables are the same. -/
  tables : s'.adapter.tables = s.adapter.tables
  /-- The frame is the same. -/
  frame : s'.adapter.frame = s.adapter.frame
  /-- The host is the same. -/
  host : s'.platform.host = s.platform.host
  /-- The draws. -/
  draws : ∃ cs, s'.platform.commands = s.platform.commands ++ cs ∧
    ∀ rec : Recorder, List.Forall₂ s.adapter.Shows (given known) (rec.draws cs)

variable {s s' t : Session} {f : Frame} {target : Target} {r : Except RenderError Unit}
  {ds : List Drawing} {cs : List Command}

/-- From one session to the other only places in arenas were taken. -/
def SameTables (s t : Session) : Prop :=
  ∃ uniforms lights shadows, t.adapter = { s.adapter with uniforms, lights, shadows }

theorem SameTables.refl (s : Session) : s.SameTables s := ⟨_, _, _, rfl⟩

/-- The tables stay the same where the adapter does. -/
theorem SameTables.congr (h : s.SameTables t) (ha : s'.adapter = t.adapter) : s.SameTables s' := by
  obtain ⟨u, l, sh, ht⟩ := h
  exact ⟨u, l, sh, ha.trans ht⟩

/-- The view of a target does not depend on what the arenas hold. -/
theorem SameTables.view (h : s.SameTables t) (f : Frame) (target : Target) :
    t.adapter.view f target = s.adapter.view f target := by
  obtain ⟨_, _, _, ht⟩ := h
  rw [ht]
  rfl

/-- Nothing is drawn, and nothing is wrong. -/
theorem drew_nothing (ht : s.SameTables s') (hr : r = .ok ())
    (gave : s.platform.GaveAside s'.platform) :
    s.Drew (.ok []) r s' := by
  obtain ⟨u, l, sh, ha⟩ := ht
  obtain ⟨cs, gave, aside⟩ := gave
  refine ⟨hr ▸ .ok (), by rw [ha]; rfl, by rw [ha], gave.host, cs, gave.commands, fun rec => ?_⟩
  rw [Recorder.draws_of_aside aside]
  exact .nil

/-- A call is refused in a way like this. -/
theorem drew_error {e e' : RenderError} (he : e.SameVariant e') (ht : s.SameTables s')
    (gave : s.platform.GaveAside s'.platform) : s.Drew (.error e') (.error e) s' := by
  obtain ⟨-, tables, frame, host, draws⟩ := drew_nothing (r := .ok ()) ht rfl gave
  exact ⟨.error he, tables, frame, host, draws⟩

/-- Which of the missing things an error names may differ; its variant does not. -/
theorem Drew.sameVariant {e e' : RenderError} (h : s.Drew (.error e) r s') (he : e.SameVariant e') :
    s.Drew (.error e') r s' := by
  obtain ⟨reply, tables, frame, host, draws⟩ := h
  refine ⟨?_, tables, frame, host, draws⟩
  cases reply with
  | error h => exact .error (Eq.trans h he)

/-- A pass to a target that is missing is refused. -/
theorem drew_of_unreached (hf : s.adapter.frame = some f) {label : String} {load : Load}
    {draws : List Command} {e : RenderError} (hr : s.adapter.tables.reach target = .error e)
    (h : (Adapter.pass f label target load draws).Leads t r s') (ht : s.SameTables t)
    (aside : s.platform.GaveAside t.platform) : s.Drew (.error e) r s' := by
  replace h := leads_get_bind h
  rw [ht.view] at h
  rcases Adapter.view_cases hf target with ⟨e', hv, hr'⟩ | ⟨v, -, -, hr'⟩
  · obtain rfl := Except.error.inj (hr.symm.trans hr')
    rcases leads_ofExcept_bind h with ⟨e', he, rfl, rfl⟩ | ⟨v, he, -⟩
    · obtain rfl := Except.error.inj (hv.symm.trans he)
      exact drew_error rfl ht aside
    · rw [hv] at he
      cases he
  · rw [hr] at hr'
    cases hr'

/-- After something was prepared a pass is recorded. -/
theorem drew_of_pass (hf : s.adapter.frame = some f) {label : String} {load : Load}
    {draws : List Command} (h : (Adapter.pass f label target load draws).Leads t r s')
    (ht : s.SameTables t) (gave : s.platform.Gave cs t.platform) (aside : ∀ c ∈ cs, c.IsAside)
    (shows : ∀ v, s.adapter.canvas target = some v → ∀ rec : Recorder,
      List.Forall₂ s.adapter.Shows ds
      ((load.fill v).toList ++ ({ rec.after cs with pass := some { view := v } } :
        Recorder).draws draws)) :
    s.Drew (do s.adapter.tables.reach target; return ds) r s' := by
  rcases Adapter.view_cases hf target with ⟨e, hv, hr⟩ | ⟨v, hc, hv, hr⟩
  · rw [hr]
    exact drew_of_unreached hf hr h ht (gave.aside aside)
  · rw [hr]
    replace h := leads_get_bind h
    rw [ht.view] at h
    obtain ⟨u, l, sh, ha⟩ := ht
    rcases leads_ofExcept_bind h with ⟨e', he, -⟩ | ⟨v', he, h⟩
    · rw [hv] at he
      cases he
    · obtain rfl := Except.ok.inj (hv.symm.trans he)
      obtain ⟨rfl, ha', gave'⟩ := leads_giveAll h
      have all := gave.append gave'
      refine ⟨.ok (),
        by rw [ha', ha]; rfl, by rw [ha', ha], all.host, _, all.commands, fun rec => ?_⟩
      rw [Recorder.draws_append, Recorder.draws_of_aside aside, Recorder.draws_pass]
      exact shows v hc rec

/-- While a frame is recorded, what needs one is done on it. -/
theorem leads_inFrame (hf : s.adapter.frame = some f) {m : Frame → AdapterM Unit}
    (h : (Adapter.inFrame m).Leads s r s') : (m f).Leads s r s' := by
  replace h := leads_get_bind h
  rw [hf] at h
  exact h

/-- Clearing fills the target, in one pass without draws. -/
theorem drew_clear (hf : s.adapter.frame = some f) {color : Color}
    (h : (Adapter.clear target color).Leads s r s') :
    s.Drew (s.adapter.tables.drawings (.clear target color)) r s' :=
  drew_of_pass hf (leads_inFrame hf h) (.refl s) s.platform.gave_nil (List.forall_mem_nil _)
    fun _ hv _ => .cons (.fill hv color) .nil

/-- Each run is one draw, in the order of the runs. -/
theorem drew_drawSprites (hf : s.adapter.frame = some f) {mode : SpriteMode} {id : BufferId}
    {calls : List DrawCall} (h : (Adapter.drawSprites target mode id calls).Leads s r s') :
    s.Drew (s.adapter.tables.drawings (.drawSprites target mode id calls)) r s' := by
  -- both sides look for the first texture that is not loaded
  have unknown : (fun c : DrawCall => (s.adapter.atlases.lookup c.texture).isNone) =
      fun c => !s.adapter.tables.textures.contains c.texture :=
    funext fun c => isNone_lookup s.adapter.atlases c.texture
  replace h := leads_get_bind h
  rw [Tables.drawings, ← unknown]
  cases hn : calls.find? fun c => (s.adapter.atlases.lookup c.texture).isNone with
  | some c =>
    rw [hn] at h
    obtain ⟨rfl, rfl⟩ := leads_throw h
    exact drew_error rfl (.refl _) (.refl _)
  | none =>
    rw [hn] at h
    have known : ∀ run ∈ calls, ∃ atlas, s.adapter.atlases.lookup run.texture = some atlas := by
      intro run hr
      have not_none := List.find?_eq_none.mp hn run hr
      exact Option.isSome_iff_exists.mp (Option.isSome_iff_ne_none.mpr fun hx =>
        not_none (by rw [hx]; rfl))
    dsimp only at h ⊢
    cases hb : s.adapter.buffers.lookup id with
    | none =>
      rw [hb] at h
      obtain ⟨rfl, ha, gave⟩ := leads_say h
      rw [Adapter.tables, not_contains_of_lookup hb]
      exact drew_nothing ⟨_, _, _, ha⟩ rfl (gave.aside (List.forall_mem_nil _))
    | some b =>
      rw [hb] at h
      rw [Adapter.tables, contains_of_lookup hb]
      replace h := leads_inFrame hf h
      cases he : calls.isEmpty with
      | true =>
        rw [he] at h
        obtain ⟨rfl, rfl⟩ := leads_pure h
        exact drew_nothing (.refl _) rfl (.refl _)
      | false =>
        rw [he] at h
        refine drew_of_pass hf h (.refl s) s.platform.gave_nil (List.forall_mem_nil _)
          fun v hv rec => ?_
        rw [Load.fill, Adapter.draws_bindInstances]
        have runs := Adapter.shows_runs hv hb mode rec known none
        -- no group is bound at 1 yet, which is where the induction over the runs starts
        have unset : Function.update (fun i => [s.adapter.cameraGroup][i]?) 1 none =
            fun i => [s.adapter.cameraGroup][i]? := Function.update_eq_self 1 _
        simp only [Pass.of, unset] at runs ⊢
        exact runs

/-- A place in an arena is handed out, whatever has to be done for it. -/
theorem prepares_push (arena : FrameArena) (bytes : List UInt8) :
    (arena.push bytes).Prepares fun _ => True := by
  unfold FrameArena.push
  obtain ⟨offset, grown, after⟩ := arena.arena.push bytes.length
  have written : ∀ (buffer : Handle .buffer) (content : List UInt8), PlatformM.Prepares (do
      PlatformM.give (.writeBuffer buffer offset content)
      return ((⟨buffer, offset, bytes.length⟩, { arena with arena := after, buffer := buffer }) :
        Slice × FrameArena)) fun _ => True :=
    fun _ _ => (PlatformM.prepares_give (by trivial)).bind fun _ _ =>
      PlatformM.prepares_pure trivial
  cases grown with
  | none => exact written arena.buffer _
  | some capacity =>
    refine (PlatformM.prepares_say _ _ _).bind fun _ _ => ?_
    refine (PlatformM.prepares_make (by intro; trivial)).bind fun b _ => ?_
    exact (PlatformM.prepares_give (by trivial)).bind fun _ _ => written b _

/-- A light is one draw of one instance, whichever place of the arena it was pushed to. -/
theorem drew_drawLight (hf : s.adapter.frame = some f) {light : LightInstance}
    (h : (Adapter.drawLight target light).Leads s r s') :
    s.Drew (s.adapter.tables.drawings (.drawLight target light)) r s' := by
  replace h := leads_get_bind (leads_inFrame hf h)
  obtain ⟨⟨slice, lights⟩, t, -, ha, ⟨cs, gave, aside⟩, h⟩ :=
    leads_prepares_bind (prepares_push _ _) h
  refine drew_of_pass hf (leads_set_bind h) ⟨_, lights, _, rfl⟩ gave aside fun v hv rec => ?_
  rw [Load.fill, Adapter.draws_bindInstances]
  exact .cons (.light hv light slice _) .nil

/-- Shadows are one draw of all their vertices. Without any there is no pass, and the tables list no
drawing. -/
theorem drew_drawShadows (hf : s.adapter.frame = some f) {corners : List Vec2}
    (h : (Adapter.drawShadows target corners).Leads s r s') :
    s.Drew (s.adapter.tables.drawings (.drawShadows target corners)) r s' := by
  replace h := leads_inFrame hf h
  rw [Tables.drawings]
  cases he : corners.isEmpty with
  | true =>
    rw [he] at h
    obtain ⟨rfl, rfl⟩ := leads_pure h
    exact drew_nothing (.refl _) rfl (.refl _)
  | false =>
    rw [he] at h
    replace h := leads_get_bind h
    obtain ⟨⟨slice, shadows⟩, t, -, ha, ⟨cs, gave, aside⟩, h⟩ :=
      leads_prepares_bind (prepares_push _ _) h
    refine drew_of_pass hf (leads_set_bind h) ⟨_, _, shadows, rfl⟩ gave aside fun v hv rec => ?_
    exact Adapter.shows_shadows hv corners slice _

/-! ### Effects -/

theorem leads_channelInput {output : Target} {channel : Nat} {slot : Option Nat}
    {r : Except RenderError (Handle .view)}
    (h : (Adapter.channelInput output channel slot).Leads s r s') :
    r = s.adapter.channelView output slot ∧ s'.adapter = s.adapter ∧
    s.platform.Gave [] s'.platform := by
  replace h := leads_get_bind h
  cases slot with
  | none =>
    obtain ⟨rfl, rfl⟩ := leads_pure h
    exact ⟨rfl, rfl, s'.platform.gave_nil⟩
  | some slot =>
    dsimp only at h
    rw [Adapter.channelView]
    split at h
    -- an effect that would read its own output gets the empty view and a warning
    · rename_i self
      rw [if_pos self]
      rcases leads_bind h with ⟨e, -, hs⟩ | ⟨v, t, hs, h⟩
      · obtain ⟨he, -⟩ := leads_say hs
        cases he
      · obtain ⟨-, ha, gave⟩ := leads_say hs
        obtain ⟨rfl, rfl⟩ := leads_pure h
        exact ⟨rfl, ha, gave⟩
    · rename_i other
      rw [if_neg other]
      rcases leads_ofExcept_bind h with ⟨e, he, rfl, rfl⟩ | ⟨t, ht, h⟩
      · rw [he]
        exact ⟨rfl, rfl, s'.platform.gave_nil⟩
      · obtain ⟨rfl, rfl⟩ := leads_pure h
        rw [ht]
        exact ⟨rfl, rfl, s'.platform.gave_nil⟩

theorem leads_channelLoop {output : Target} {inputs : List Nat} {channels : List Nat}
    {r : Except RenderError (List (Handle .view))}
    (h : AdapterM.Leads (channels.mapM fun c => Adapter.channelInput output c inputs[c]?) s r s') :
    r = channels.mapM (fun c => s.adapter.channelView output inputs[c]?) ∧ s'.adapter = s.adapter ∧
      s.platform.Gave [] s'.platform := by
  induction channels generalizing s s' r with
  | nil =>
    obtain ⟨rfl, rfl⟩ := leads_pure h
    exact ⟨rfl, rfl, s'.platform.gave_nil⟩
  | cons c channels ih =>
    rw [List.mapM_cons] at h ⊢
    rcases leads_bind h with ⟨e, rfl, hc⟩ | ⟨v, t, hc, h⟩
    · obtain ⟨hr, ha, gave⟩ := leads_channelInput hc
      rw [← hr]
      exact ⟨rfl, ha, gave⟩
    · obtain ⟨hr, ha, gave⟩ := leads_channelInput hc
      rw [← hr]
      -- a refused channel ends the loop, else the views of the others follow
      rcases leads_bind h with ⟨e, rfl, hl⟩ | ⟨vs, u, hl, h⟩
      · obtain ⟨hr', ha', gave'⟩ := ih hl
        rw [ha] at hr' ha'
        rw [← hr']
        exact ⟨rfl, ha', gave.append gave'⟩
      · obtain ⟨hr', ha', gave'⟩ := ih hl
        obtain ⟨rfl, rfl⟩ := leads_pure h
        rw [ha] at hr' ha'
        rw [← hr']
        exact ⟨rfl, ha', gave.append gave'⟩

/-- The channels of a run are bound together, unless one of them fails. -/
theorem leads_channelGroup_bind {inputs : List Nat} {output : Target}
    {m : Handle .bindGroup → AdapterM Unit} (same : s.SameTables t)
    (h : (Adapter.channelGroup inputs output >>= m).Leads t r s') :
    let views := (List.range maxChannels).mapM fun c => s.adapter.channelView output inputs[c]?
    (∃ e, views = .error e ∧ r = .error e ∧ s.SameTables s' ∧ t.platform.Gave [] s'.platform) ∨
      ∃ vs group u, views = .ok vs ∧ s.SameTables u ∧
        t.platform.Gave [.createBindGroup group "tessera channels" s.adapter.layouts.channels
          (vs.map Resource.view ++ [.sampler s.adapter.channelSampler])] u.platform ∧
            (m group).Leads u r s' := by
  intro views
  -- the tables are those of the start, so the views are the same
  have known : (List.range maxChannels).mapM (fun c => t.adapter.channelView output inputs[c]?) =
      views := by
    obtain ⟨_, _, _, ht⟩ := same
    rw [ht]
    rfl
  unfold Adapter.channelGroup at h
  simp only [bind_assoc] at h
  rcases leads_bind h with ⟨e, rfl, hl⟩ | ⟨vs, t', hl, h⟩
  · obtain ⟨hr, ha, gave⟩ := leads_channelLoop hl
    exact .inl ⟨e, known.symm.trans hr.symm, rfl, same.congr ha, gave⟩
  · obtain ⟨hr, ha, gave⟩ := leads_channelLoop hl
    obtain ⟨group, u, ha', gave', h⟩ := leads_make_bind (leads_get_bind h)
    refine .inr ⟨vs, group, u, known.symm.trans hr.symm, same.congr (ha'.trans ha), ?_, h⟩
    have made := gave.append gave'
    obtain ⟨_, _, _, ht⟩ := same
    rw [ha, ht] at made
    exact made

/-- Where the output of a run is missing, the run is refused because some target is. -/
theorem exists_missing {t : Tables} {output : Target} {e : RenderError}
    (h : t.reach output = .error e) (inputs : List Nat) (k : List (Option Nat) → List Drawing) :
    ∃ e', (do let channels ← t.channels inputs output; t.reach output; return k channels) =
      .error e' ∧ t.Missing e' := by
  cases hc : t.channels inputs output with
  | error e' => exact ⟨e', rfl, Tables.missing_of_channels hc⟩
  | ok channels => exact ⟨e, by rw [h]; rfl, Tables.missing_of_reach h⟩

section Effect

variable {inputs : List Nat} {output : Target} {k : List (Option Nat) → List Drawing}
  {label : String} {load : Load} {draws : Handle .bindGroup → List Command}

/-- Where the target is missing, and so may be what a channel reads, it differs which of them is
found first. -/
theorem drew_of_missing (hf : s.adapter.frame = some f) {e : RenderError}
    (hr : s.adapter.tables.reach output = .error e) (same : s.SameTables t)
    (aside : s.platform.GaveAside t.platform)
    (h : (Adapter.channelGroup inputs output >>= fun group =>
      Adapter.pass f label output load (draws group)).Leads t r s') :
    s.Drew (do
      let channels ← s.adapter.tables.channels inputs output
      s.adapter.tables.reach output
      return k channels) r s' := by
  obtain ⟨e', known, missing⟩ := exists_missing hr inputs k
  rw [known]
  rcases leads_channelGroup_bind same h with ⟨e₁, he, rfl, same', gave⟩ | ⟨vs, group, u,
    -, same', gave, h⟩
  · exact drew_error ((Adapter.missing_of_channelViews he).sameVariant missing) same'
      (aside.trans (gave.aside (List.forall_mem_nil _)))
  · have made := gave.aside fun c hc => List.mem_singleton.mp hc ▸ trivial
    exact (drew_of_unreached hf hr h same' (aside.trans made)).sameVariant
      ((Tables.missing_of_reach hr).sameVariant missing)

/-- Where the target is there, the channels read what they should, and the pass is recorded. -/
theorem drew_of_reach (hf : s.adapter.frame = some f) (hr : s.adapter.tables.reach output = .ok ())
    (same : s.SameTables t) (gave : s.platform.Gave cs t.platform) (aside : ∀ c ∈ cs, c.IsAside)
    (shows : ∀ v, s.adapter.canvas output = some v → ∀ channels group (rec : Recorder),
      rec.groups group = some (channels.map (fun c => .view (s.adapter.channelOf c)) ++
        [.sampler s.adapter.channelSampler]) →
      List.Forall₂ s.adapter.Shows (k channels)
        ((load.fill v).toList ++ ({ rec with pass := some { view := v } } : Recorder).draws
          (draws group)))
    (h : (Adapter.channelGroup inputs output >>= fun group =>
      Adapter.pass f label output load (draws group)).Leads t r s') :
    s.Drew (do
      let channels ← s.adapter.tables.channels inputs output
      s.adapter.tables.reach output
      return k channels) r s' := by
  -- the channels fail on both sides or on neither
  have groups := leads_channelGroup_bind same h
  rw [Adapter.channelViews_eq hr] at groups
  cases hch : s.adapter.tables.channels inputs output with
  | error e' =>
    rw [hch] at groups
    rcases groups with ⟨e, he, rfl, same', gave'⟩ | ⟨vs, group, u, hvs, -⟩
    · obtain rfl := Except.error.inj he
      exact drew_error rfl same' ((gave.aside aside).trans (gave'.aside (List.forall_mem_nil _)))
    · cases hvs
  | ok channels =>
    rw [hch] at groups
    rcases groups with ⟨e, he, -⟩ | ⟨vs, group, u, hvs, same', gave', h⟩
    · cases he
    obtain rfl := Except.ok.inj hvs
    refine drew_of_pass hf h same' (gave.append gave') ?_ fun v hv rec => ?_
    · exact List.forall_mem_append.mpr ⟨aside, fun c hc => List.mem_singleton.mp hc ▸ trivial⟩
    · refine shows v hv channels group (rec.after _) ?_
      rw [Recorder.after_append]
      simp [Recorder.apply]

end Effect

theorem drew_runProgram (hf : s.adapter.frame = some f) {name : String} {inputs : List Nat}
    {output : Target} {uniforms : List Scalar} {clear : Option Color}
    (h : (Adapter.runProgram name inputs output uniforms clear).Leads s r s') :
    s.Drew (s.adapter.tables.drawings (.runProgram name inputs output uniforms clear)) r s' := by
  replace h := leads_get_bind h
  rw [Tables.drawings]
  cases hp : s.adapter.programs.lookup name with
  | none =>
    rw [hp] at h
    obtain ⟨rfl, rfl⟩ := leads_throw h
    rw [Adapter.tables, not_contains_of_lookup hp]
    exact drew_error rfl (.refl _) (.refl _)
  | some p =>
    rw [hp] at h
    rw [if_pos (show s.adapter.tables.effects.contains name = true from contains_of_lookup hp)]
    replace h := leads_get_bind (leads_inFrame hf h)
    -- the uniforms are written, and their group is made
    obtain ⟨⟨slice, arena⟩, t, -, ht, ⟨cs, gave, aside⟩, h⟩ :=
      leads_prepares_bind (prepares_push _ _) h
    obtain ⟨block, u, hu, gave', h⟩ := leads_make_bind (leads_set_bind h)
    have same : s.SameTables u := ⟨arena, _, _, hu⟩
    have before := gave.append gave'
    have aside' : ∀ c ∈ cs ++ [Command.createBindGroup block name s.adapter.layouts.uniforms
        [.buffer slice.buffer slice.offset (some p.layout.byteLength)]], c.IsAside :=
      List.forall_mem_append.mpr ⟨aside, fun c hc => List.mem_singleton.mp hc ▸ trivial⟩
    rcases Adapter.view_cases hf output with ⟨e, -, hr⟩ | ⟨v, -, -, hr⟩
    · exact drew_of_missing hf hr same (before.aside aside') h
    · refine drew_of_reach hf hr same before aside' (fun v hv channels group rec held => ?_) h
      exact Adapter.shows_effect hv hp channels uniforms block group clear rec held

end Session

end LitTiles.Wgpu
