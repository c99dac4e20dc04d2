import LitTiles.Proofs.Batch.Runs
import LitTiles.Proofs.Renderer.Course

/-!
# Buffers in the life of a renderer

A life is a course with the final disposal. Backends may refuse any call, and any number of them.

* `buffers_lawful`: if only new buffers are handed out (`Fresh`), then buffers are used only while
  they are live, no write is longer than its buffer, and every buffer that was handed out is given
  back exactly once.
* `draws_match_data`: every draw shows the sprites that were last written to the buffer it draws
  from, if this one buffer was not handed out while it was live (`FreshFor`). If it was, then two
  mirrors write to it, and what is drawn for the one is what was written for the other
  (`mismatched_draws`).
-/

namespace LitTiles

namespace Renderer

/-! ## Lives -/

/-- A renderer is made, takes steps and is disposed of. -/
def Life (interface : Interface) (size : SurfaceSize) (config : RendererConfig)
    (textures : List Texture) (steps : List Step) (h : List Exchange) : Prop :=
  ∃ made taken ended r₁ r₂ r₃ x, h = made ++ taken ++ ended ∧
    (prepare textures).Leads (blank interface size config) made (.ok ()) r₁ ∧
    Action.Attempts (steps.map Step.action) r₁ taken r₂ ∧
    dispose.Leads r₂ ended x r₃

variable {interface : Interface} {size : SurfaceSize} {config : RendererConfig}
  {textures : List Texture} {steps : List Step} {h : List Exchange} {es : List Entry} {r : Renderer}

/-- A life is a course and a disposal. -/
theorem Life.exists_course (hl : Life interface size config textures steps h) :
    ∃ es ended r r' x, Course interface size config textures steps es r ∧
      h = exchanges es ++ ended ∧ dispose.Leads r ended x r' := by
  obtain ⟨made, taken, ended, r₁, r₂, r₃, x, rfl, hmade, htaken, hended⟩ := hl
  obtain ⟨es, rfl, hsteps⟩ := (Trail.attempts_erases Step.trail_erases).mp htaken
  refine ⟨entries none made ++ es, ended, r₂, r₃, x, ?_, ?_, hended⟩
  · exact ⟨entries none made, es, r₁, rfl, ⟨made, rfl, hmade⟩, hsteps⟩
  · rw [exchanges_append, exchanges_entries]

section OnBackend

variable {ρ : Type} (b : Backend ρ) (start : ρ) (interface : Interface) (size : SurfaceSize)
  (config : RendererConfig) (textures : List Texture) (steps : List Step)

/-- The history of a course on a backend, and the states in the end. -/
def courseOn : List Exchange × Renderer × ρ :=
  let fresh := blank interface size config
  let (_, made, s) := (prepare textures).play b fresh start
  let (taken, t) := Action.playAll b (steps.map Step.action) made s
  ((prepare textures).heard b fresh start ++ taken, t)

/-- The history of a life on a backend. -/
def lifeOn : List Exchange :=
  let (h, r, s) := courseOn b start interface size config textures steps
  h ++ dispose.heard b r s

/-- On every backend a renderer takes a course, if only it can be made. -/
theorem exists_courseOn
    (hm : ((prepare textures).play b (blank interface size config) start).1 = .ok ()) :
    ∃ es, exchanges es = (courseOn b start interface size config textures steps).1 ∧
      Course interface size config textures steps es
        (courseOn b start interface size config textures steps).2.1 := by
  have hmade := Action.leads_heard b (prepare textures) (blank interface size config) start
  rw [hm] at hmade
  obtain ⟨es, he, htaken⟩ := (Trail.attempts_erases Step.trail_erases).mp <|
    Action.attempts_playAll b (steps.map Step.action) _
      ((prepare textures).play b (blank interface size config) start).2.2
  refine ⟨_, ?_, entries none _, es, _, rfl, ⟨_, rfl, hmade⟩, htaken⟩
  rw [exchanges_append, exchanges_entries, he]
  rfl

/-- On every backend a renderer leads a life, if only it can be made. -/
theorem life_lifeOn
    (hm : ((prepare textures).play b (blank interface size config) start).1 = .ok ()) :
    Life interface size config textures steps
      (lifeOn b start interface size config textures steps) := by
  refine ⟨_, _, _, _, _, _, _, rfl, ?_, Action.attempts_playAll .., Action.leads_heard ..⟩
  rw [← hm]
  exact Action.leads_heard ..

end OnBackend

/-- Buffers are used only while they are live, no write is longer than its buffer, and every buffer
that is handed out is given back exactly once. -/
theorem buffers_lawful (hl : Life interface size config textures steps h) (hf : Fresh h) :
    Throughout UsesLive h ∧
      ∀ before capacity b after, h = before ++ ⟨.createBuffer capacity, .ok b⟩ :: after →
        GivenBackOnce b after := by
  obtain ⟨es, ended, r, r', x, hc, rfl, hd⟩ := hl.exists_course
  rw [dispose, onMirrors, Action.leads_within] at hd
  obtain ⟨t, hclear, rfl⟩ := hd
  obtain ⟨leases, hnone⟩ := MirrorTable.leases_clear hc.kept.toLeases hclear
  have hu := leases.usesLive
  rw [exchanges_append, exchanges_entries] at hnone hu
  have hend : ∀ b, liveAfter (exchanges es ++ ended) b = none := fun b => hnone b (hf.freshFor b)
  exact ⟨hu hf, fun before capacity b after he => givenBackOnce hf (hu hf) hend he⟩

/-- A layer with one sprite. -/
def lonely : Layer where
  id := ⟨1⟩
  z := ⟨0⟩
  kind := .dynamic
  sprites := [{ texture := "a", position := ⟨0, 0⟩, size := ⟨1, 1⟩ }]

/-- Three frames: a layer is seen, then it is not seen and loses its mirror, and then it is seen
again. -/
def threeFrames : List Step :=
  [.render { layers := [lonely] } default 0, .render {} default 0,
    .render { layers := [lonely] } default 0]

/-- On a backend that numbers its buffers, with a lifetime of one frame. Two buffers come and go,
one by eviction and one at the end. -/
theorem buffers_lawful_threeFrames :
    let h := lifeOn numbering 0 .wgpu ⟨8, 8⟩ { layerLifetime := 1 } [] threeFrames
    Throughout UsesLive h ∧
      ∀ before capacity b after, h = before ++ ⟨.createBuffer capacity, .ok b⟩ :: after →
        GivenBackOnce b after :=
  buffers_lawful (life_lifeOn _ _ _ _ _ _ _ (by decide +kernel)) (by decide +kernel)

/-- **What is drawn from a buffer is what was last written to it**, if the buffer was never handed
out while it was live: the draw calls are those of the sprites, as far as they fit, of the layer
that was written, and the buffer starts with just these sprites. So no call reaches past them. All
of them are drawn, each with its own texture, as long as they can be counted in 32 bits, and exactly
if each of their runs starts and ends where 32 bits can tell. -/
theorem draws_match_data (hc : Course interface size config textures steps es r)
    {before after : List Entry} {source : Option Layer} {target : Target} {mode : SpriteMode}
    {b : BufferId} {calls : List DrawCall} {a : Except RenderError Unit}
    (he : es = before ++ ⟨source, .issue (.drawSprites target mode b calls), a⟩ :: after)
    (hf : FreshFor b (exchanges before)) :
    ∃ capacity layer, liveAfter (exchanges before) b = some capacity ∧
      (contentsAfter before b).source = some layer ∧
      (contentsAfter before b).data.take (layer.sprites.take capacity).length =
        (layer.sprites.take capacity).map .ofSprite ∧
      calls = DrawCall.ofSprites (layer.sprites.take capacity) ∧
      (∀ c ∈ calls, c.offset.toNat + c.count.toNat ≤ (layer.sprites.take capacity).length) ∧
      ((layer.sprites.take capacity).length < UInt32.size →
        DrawCall.Paints calls (layer.sprites.take capacity)) ∧
      ∃ runs, Tiles 0 ((layer.sprites.take capacity).map (·.texture)) runs ∧
        calls = runs.map Run.call ∧
        (DrawCall.Paints calls (layer.sprites.take capacity) ↔
          ∀ run ∈ runs, run.start < UInt32.size ∧ run.length < UInt32.size) := by
  obtain ⟨capacity, layer, hlive, hs, hd, rfl⟩ := hc.kept.truthful before _ after he hf
  exact ⟨capacity, layer, hlive, hs, hd, rfl, fun c => DrawCall.inside_ofSprites,
    DrawCall.paints_ofSprites, DrawCall.exists_runs _⟩

/-- The buffer a call draws from, and the draw calls. -/
def drawnFrom (e : Exchange) : Option (BufferId × List DrawCall) :=
  match e.call with
  | .issue (.drawSprites _ _ b calls) => some (b, calls)
  | _ => none

theorem exists_of_drawnFrom {e : Entry} {b : BufferId} {calls : List DrawCall}
    (hd : drawnFrom e.exchange = some (b, calls)) :
    ∃ source target mode a, e = ⟨source, .issue (.drawSprites target mode b calls), a⟩ := by
  obtain ⟨source, c, a⟩ := e
  cases c with
  | createBuffer capacity => cases hd
  | freeBuffer b => cases hd
  | issue c =>
    cases c with
    | drawSprites target mode b' calls' =>
      cases hd
      exact ⟨source, target, mode, a, rfl⟩
    | _ => cases hd

/-- Over three frames, in which a layer loses its mirror and gets another one, there is a draw, and
it shows what was written. -/
theorem draws_match_data_threeFrames :
    ∃ es before after source target mode b calls a,
      exchanges es = (courseOn numbering 0 .wgpu ⟨8, 8⟩ { layerLifetime := 1 } [] threeFrames).1 ∧
      es = before ++ ⟨source, .issue (.drawSprites target mode b calls), a⟩ :: after ∧
      FreshFor b (exchanges before) ∧
      ∃ capacity layer, liveAfter (exchanges before) b = some capacity ∧
        (contentsAfter before b).source = some layer ∧
        (contentsAfter before b).data.take (layer.sprites.take capacity).length =
          (layer.sprites.take capacity).map .ofSprite ∧
        calls = DrawCall.ofSprites (layer.sprites.take capacity) ∧
        (∀ c ∈ calls, c.offset.toNat + c.count.toNat ≤ (layer.sprites.take capacity).length) ∧
        ((layer.sprites.take capacity).length < UInt32.size →
          DrawCall.Paints calls (layer.sprites.take capacity)) ∧
        ∃ runs, Tiles 0 ((layer.sprites.take capacity).map (·.texture)) runs ∧
          calls = runs.map Run.call ∧
          (DrawCall.Paints calls (layer.sprites.take capacity) ↔
            ∀ run ∈ runs, run.start < UInt32.size ∧ run.length < UInt32.size) := by
  obtain ⟨es, hes, hc⟩ := exists_courseOn numbering 0 .wgpu ⟨8, 8⟩ { layerLifetime := 1 } []
    threeFrames (by decide +kernel)
  have hf : Fresh (exchanges es) := by
    rw [hes]
    decide +kernel
  -- some exchange of this run is a draw
  have hd : (exchanges es).any (fun e => (drawnFrom e).isSome) = true := by
    rw [hes]
    decide +kernel
  obtain ⟨ex, hmem, hdraw⟩ := List.any_eq_true.mp hd
  obtain ⟨e, he, rfl⟩ := List.mem_map.mp hmem
  obtain ⟨⟨b, calls⟩, hdraw⟩ := Option.isSome_iff_exists.mp hdraw
  obtain ⟨source, target, mode, a, rfl⟩ := exists_of_drawnFrom hdraw
  obtain ⟨before, after, rfl⟩ := List.append_of_mem he
  -- the whole run makes no id twice, hence neither does what comes before that draw
  rw [exchanges_append] at hf
  have before_fresh : Fresh (exchanges before) := hf.of_append
  have hf := before_fresh.freshFor b
  exact ⟨_, before, after, source, target, mode, b, calls, a, hes, rfl, hf,
    draws_match_data hc rfl hf⟩

/-- A backend that refuses nothing, and hands out one buffer again and again. -/
def lending : Backend Unit where
  perform
    | .createBuffer _, s => (.ok ⟨0⟩, s)
    | .freeBuffer _, s => ((), s)
    | .issue _, s => (.ok (), s)
  notice _ s := s

/-- Another layer with one sprite, of another texture. -/
def neighbour : Layer where
  id := ⟨2⟩
  z := ⟨1⟩
  kind := .dynamic
  sprites := [{ texture := "b", position := ⟨0, 0⟩, size := ⟨1, 1⟩ }]

/-- Two layers take turns, and the first one comes back unchanged. -/
def turns : List Step :=
  [.render { layers := [lonely] } default 0, .render { layers := [neighbour] } default 0,
    .render { layers := [lonely] } default 0]

/-- The call leaves all buffers as they are. -/
def sparesBuffers (e : Exchange) : Bool :=
  match e.call with
  | .createBuffer _ | .freeBuffer _ | .issue (.writeInstances _ _) => false
  | _ => true

theorem isQuiet_of_sparesBuffers {e : Entry}
    (hs : sparesBuffers e.exchange = true) : e.IsQuiet := by
  obtain ⟨source, c, a⟩ := e
  cases c with
  | createBuffer capacity => cases hs
  | freeBuffer b => cases hs
  | issue c =>
    cases c with
    | writeInstances b instances => cases hs
    | _ => exact ⟨fun _ => rfl, fun _ => rfl, fun _ => by cases source <;> rfl⟩

variable {before : List Entry} {b : BufferId} {calls calls' : List DrawCall}

/-- Calls that leave buffers as they are change nothing in what would be drawn. -/
theorem matches_append_iff (hs : (exchanges es).all sparesBuffers = true) :
    Matches (before ++ es) b calls ↔ Matches before b calls := by
  induction es using List.reverseRecOn with
  | nil => rw [List.append_nil]
  | append_singleton es e ih =>
    rw [exchanges_append, List.all_append, Bool.and_eq_true] at hs
    have quiet : e.IsQuiet := isQuiet_of_sparesBuffers (by simpa using hs.2)
    rw [← ih hs.1, ← List.append_assoc, Matches, Matches, contentsAfter_concat, quiet.contents,
      exchanges_append, exchanges_singleton, liveAfter_concat, quiet.live]

/-- What a buffer holds has one list of draw calls. -/
theorem eq_of_matches (h : Matches before b calls) (h' : Matches before b calls') :
    calls = calls' := by
  obtain ⟨capacity, layer, hlive, hs, -, rfl⟩ := h
  obtain ⟨capacity', layer', hlive', hs', -, rfl⟩ := h'
  obtain rfl := Option.some.inj (hlive.symm.trans hlive')
  obtain rfl := Option.some.inj (hs.symm.trans hs')
  rfl

/-- A draw at a place of a history. -/
theorem exists_draw {i : Nat} (hd : ((exchanges es).map drawnFrom)[i]? = some (some (b, calls))) :
    ∃ source target mode a after,
      es = es.take i ++ ⟨source, .issue (.drawSprites target mode b calls), a⟩ :: after := by
  rw [exchanges, List.map_map, List.getElem?_map, Option.map_eq_some_iff] at hd
  obtain ⟨e, he, hdrawn⟩ := hd
  obtain ⟨source, target, mode, a, rfl⟩ := exists_of_drawnFrom hdrawn
  obtain ⟨hi, hget⟩ := List.getElem?_eq_some_iff.mp he
  refine ⟨source, target, mode, a, es.drop (i + 1), ?_⟩
  rw [← hget, ← List.drop_eq_getElem_cons hi, List.take_append_drop]

/-- If the backend hands out a buffer while it is live, two layers share it. Both are drawn from it
with draw calls of their own, though nothing was written in the meantime, and so one of them is not
drawn as what was last written to the buffer. And of sprites that 32 bits cannot count not all are
drawn, whatever the backend does. -/
theorem mismatched_draws :
    (∃ es r before after source target mode b calls a,
      Course .wgpu ⟨8, 8⟩ {} [] turns es r ∧
      es = before ++ ⟨source, .issue (.drawSprites target mode b calls), a⟩ :: after ∧
      ¬ Matches before b calls) ∧
    ∃ sprites, ¬ DrawCall.Paints (DrawCall.ofSprites sprites) sprites := by
  let sprite : Sprite := { texture := "a", position := ⟨0, 0⟩, size := ⟨1, 1⟩ }
  refine ⟨?_, _, DrawCall.not_paints_replicate sprite⟩
  obtain ⟨es, hes, hc⟩ := exists_courseOn lending () .wgpu ⟨8, 8⟩ {} [] turns (by decide +kernel)
  -- the last draw of the second frame and the first draw of the third one
  have second : ((exchanges es).map drawnFrom)[27]? = some (some (⟨0⟩, [⟨"b", 0, 1⟩])) := by
    rw [hes]
    decide +kernel
  have third : ((exchanges es).map drawnFrom)[32]? = some (some (⟨0⟩, [⟨"a", 0, 1⟩])) := by
    rw [hes]
    decide +kernel
  have between : (exchanges ((es.take 32).drop 27)).all sparesBuffers = true := by
    rw [exchanges, List.map_drop, List.map_take, ← exchanges, hes]
    decide +kernel
  have whole : es.take 27 ++ (es.take 32).drop 27 = es.take 32 := by
    have := List.take_append_drop 27 (es.take 32)
    rwa [List.take_take] at this
  by_cases hm : Matches (es.take 27) ⟨0⟩ [⟨"b", 0, 1⟩]
  · obtain ⟨source, target, mode, a, after, he⟩ := exists_draw third
    refine ⟨es, _, es.take 32, after, source, target, mode, _, _, a, hc, he, fun hm' => ?_⟩
    rw [← whole, matches_append_iff between] at hm'
    exact absurd (eq_of_matches hm hm') (by decide)
  · obtain ⟨source, target, mode, a, after, he⟩ := exists_draw second
    exact ⟨es, _, es.take 27, after, source, target, mode, _, _, a, hc, he, hm⟩

end Renderer

end LitTiles
