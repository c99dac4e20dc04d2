import LitTiles.Proofs.Backend.Drawing
import LitTiles.Proofs.Gl.Custody
import LitTiles.Proofs.Gl.Machine
import Mathlib.Data.List.Nodup

/-!
# How a GL adapter draws

`Adapter.shown` is how an adapter shows a drawing: one draw, with all the state that it reads. It is
found from the tables of the adapter alone. The commands of a call draw just this, from whatever
state the context is in, as long as this state is `Idle` (`shows_commands`), and they leave it idle
again.

The proof follows the commands. Each block of them changes a part of the state, which is written out
by an equation (`after_bindTarget`, `after_select`, …), and a draw is read off the state that the
blocks before it have led to.
-/

namespace LitTiles.Gl

open Machine

/-! ## What is shown -/

/-- Where a fixed program takes uniforms. -/
def FixedProgram.places (f : FixedProgram) : List Nat := f.view.toList ++ f.atlas.toList

/-- Where an effect takes uniforms. -/
def LinkedEffect.places (e : LinkedEffect) : List Nat :=
  e.channels.filterMap id ++ e.uniforms.filterMap (·.location)

/-- The attribute that a field of an instance is read by. -/
def InstanceField.attribute (buffer : Handle .buffer) (stride start : Int32) (f : InstanceField) :
    Attribute where
  enabled := true
  buffer := some buffer
  components := f.components
  stride := stride
  offset := start + f.offset
  divisor := 1

/-- The attribute that pairs of floats are read by. -/
def Attribute.corner (buffer : Handle .buffer) : Attribute where
  enabled := true
  buffer := some buffer
  components := 2
  stride := 8

namespace Adapter

/-- The names and numbers that an adapter knows. -/
def tables (a : Adapter) : Tables where
  textures := a.atlases.map (·.1)
  effects := a.effects.map (·.1)
  buffers := a.buffers.map (·.1)
  next := a.nextBuffer
  targets := a.targets.length

/-- The programs of an adapter, and where each takes uniforms. -/
def places (a : Adapter) : List (Handle .program × List Nat) :=
  [a.spriteColor, a.spriteMask, a.light, a.shadow].map (fun f => (f.program, f.places)) ++
    a.effects.map fun e => (e.2.program, e.2.places)

/-- The framebuffer of a target, and the part of it that is drawn to. -/
def canvas (a : Adapter) : Target → Option (Option (Handle .framebuffer) × Int32 × Int32)
  | .surface => some (none, a.surface.width.toInt32, a.surface.height.toInt32)
  | .offscreen i => a.targets[i]?.map fun t =>
      (some t.framebuffer, t.size.width.toInt32, t.size.height.toInt32)

/-- The texture of a channel that reads a slot, or nothing. -/
def channelOf (a : Adapter) : Option Nat → Handle .texture
  | some slot => (a.targets[slot]?.map (·.texture)).getD a.empty
  | none => a.empty

section Shown

-- The locations of the samplers of a program.
variable (samplers : Handle .program → List Nat)

/-- A draw to a target, with a program whose uniforms some commands set. -/
def draw (a : Adapter) (target : Target) (program : Handle .program) (uniforms : List Command)
    (mode : BlendMode) (units : Nat → Option (Handle .texture)) (attributes : List Attribute)
    (vertices : Vertices) : Option Drawn :=
  (a.canvas target).map fun (framebuffer, viewport) => .triangles {
    pose := ⟨framebuffer, some viewport, some program, settings uniforms, blendFactors mode⟩
    textures := sampled (samplers program) (settings uniforms) units
    attributes := fun l => attributes[l]?
    vertices }

/-- How an adapter shows a drawing, if it has the objects for it. -/
def shown (a : Adapter) : Drawing → Option Drawn
  | .fill target color => (a.canvas target).map fun k => .fill k.1 color
  | .sprites target mode id run => do
    let f := a.spriteProgram mode
    let b ← a.buffers.lookup id
    let atlas ← a.atlases.lookup run.texture
    let stride := signedSize SpriteInstance.stride
    a.draw samplers target f.program (f.select a.view) .alpha (fun unit => [atlas][unit]?)
      (.corner a.corners :: spriteFields.map
        (·.attribute b.buffer stride (run.offset.toInt32 * stride)))
      (.instanced (some a.indices) (signedSize UnitSquare.indexCount) run.count.toInt32)
  | .light target _ =>
    a.draw samplers target a.light.program (a.light.select a.view) .replace (fun _ => none)
      (.corner a.corners ::
        lightFields.map (·.attribute a.stream (signedSize LightInstance.stride) 0))
      (.instanced (some a.indices) (signedSize UnitSquare.indexCount) 1)
  | .shadows target corners =>
    a.draw samplers target a.shadow.program (a.shadow.select a.view) .replace (fun _ => none)
      [.corner a.stream] (.consecutive (signedSize corners.length))
  | .effect name channels output uniforms => do
    let e ← a.effects.lookup name
    a.draw samplers output e.program (e.bindUnits ++ e.upload uniforms) e.blend
      (fun unit => channels[unit]?.map a.channelOf) [.corner a.corners]
      (.indexed (some a.indices) (signedSize UnitSquare.indexCount))

end Shown

end Adapter

/-! ## Blocks of commands -/

namespace VertexArray

/-- Attributes are put at the locations from one on. -/
def lay (first : Nat) (attributes : List Attribute) (v : VertexArray) : VertexArray where
  attributes l :=
    if first ≤ l then (attributes[l - first]?).getD (v.attributes l) else v.attributes l
  indices := v.indices

/-- The attributes from location one on are switched off, as many as there are. -/
def release (count : Nat) (v : VertexArray) : VertexArray where
  attributes l :=
    if 1 ≤ l ∧ l ≤ count then { v.attributes l with enabled := false, divisor := 0 }
      else v.attributes l
  indices := v.indices

variable {v : VertexArray} {first l count : Nat} {t : Attribute} {ts us : List Attribute}

@[simp] theorem lay_nil : v.lay first [] = v := by
  simp [lay]

/-- Attributes are laid one location after the other. It is this form that follows the commands. -/
theorem lay_cons : v.lay first (t :: ts) = (v.onAttribute first fun _ => t).lay (first + 1) ts := by
  simp only [lay, onAttribute, mk.injEq, and_true]
  funext l
  rcases Nat.lt_trichotomy l first with h | rfl | h
  · rw [if_neg (by omega), if_neg (by omega), Function.update_of_ne (by omega)]
  · rw [if_pos (Nat.le_refl l), if_neg (by omega), Function.update_self, Nat.sub_self]
    rfl
  · rw [if_pos (by omega), if_pos (by omega), Function.update_of_ne (by omega),
      show l - first = l - (first + 1) + 1 by omega, List.getElem?_cons_succ]

/-- A single attribute laid is one that is replaced. -/
theorem lay_singleton : v.lay first [t] = v.onAttribute first fun _ => t := by
  rw [lay_cons, lay_nil]

/-- What is laid last counts. -/
theorem lay_lay : (v.lay first us).lay first ts = v.lay first (ts ++ us.drop ts.length) := by
  simp only [lay, mk.injEq, and_true]
  funext l
  by_cases hl : first ≤ l
  · simp only [if_pos hl]
    by_cases ht : l - first < ts.length
    · rw [List.getElem?_append_left ht, List.getElem?_eq_getElem ht]
      rfl
    · rw [List.getElem?_append_right (by omega), List.getElem?_drop,
        List.getElem?_eq_none (by omega),
        show ts.length + (l - first - ts.length) = l - first by omega]
      rfl
  · simp only [if_neg hl]

/-- Releasing none is nothing. With `release_succ` this is the loop that switches them off. -/
theorem release_zero : v.release 0 = v := by
  cases v
  simp only [release, mk.injEq, and_true]
  funext l
  rw [if_neg (by omega)]

/-- The loop that releases attributes ends with the highest location. -/
theorem release_succ : v.release (count + 1) =
    (v.release count).onAttribute (count + 1) fun t =>
    { t with enabled := false, divisor := 0 } := by
  simp only [release, onAttribute, mk.injEq, and_true]
  funext l
  by_cases hl : l = count + 1
  · subst hl
    rw [Function.update_self, if_pos (by omega), if_neg (by omega)]
  · rw [Function.update_of_ne hl]
    exact if_congr (by omega) rfl rfl

/-- No attribute from location one on is enabled, or advances per instance. -/
def Idle (v : VertexArray) : Prop :=
  ∀ l, 1 ≤ l → (v.attributes l).enabled = false ∧ (v.attributes l).divisor = 0

/-- If nothing else is enabled, the enabled attributes are the first one and those that were
laid. -/
theorem enabled_lay (hv : v.Idle) (h0 : v.attributes 0 = t) (ht0 : t.enabled = true)
    (ht : ∀ u ∈ ts, u.enabled = true) : (v.lay 1 ts).enabled = fun l => (t :: ts)[l]? := by
  funext l
  cases l with
  | zero => simp [enabled, lay, h0, ht0]
  | succ l =>
    rw [List.getElem?_cons_succ]
    by_cases hl : l < ts.length
    · have := ht ts[l] (by simp)
      simp [enabled, lay, hl, this]
    · have := (hv (l + 1) (by omega)).1
      simp [enabled, lay, List.getElem?_eq_none (Nat.le_of_not_lt hl), this]

/-- The first location is exempt from being idle, since all programs keep the corners there. -/
theorem Idle.lay_zero (hv : v.Idle) : (v.lay 0 [t]).Idle := by
  intro l hl
  have other : [t][l]? = none := List.getElem?_eq_none hl
  simpa [lay, other] using hv l hl

/-- If nothing was enabled, a single attribute is. -/
theorem enabled_lay_zero (hv : v.Idle) (ht : t.enabled = true) :
    (v.lay 0 [t]).enabled = fun l => [t][l]? := by
  have only := @enabled_lay (v.lay 0 [t]) t [] hv.lay_zero rfl ht fun _ h => nomatch h
  rwa [lay_nil] at only

/-- What was laid is released again. -/
theorem Idle.release (hv : v.Idle) (h : ts.length ≤ count) : ((v.lay 1 ts).release count).Idle := by
  intro l hl
  by_cases hc : l ≤ count
  · simp [VertexArray.release, hl, hc]
  · have other : ts[l - 1]? = none := List.getElem?_eq_none (by omega)
    simpa [VertexArray.release, lay, hl, hc, other] using hv l hl

end VertexArray

/-! ### Uniforms -/

namespace Command

/-- The command sets a uniform. -/
@[simp] def SetsUniform : Command → Prop
  | uniformFloats _ _ | uniformInt _ _ => True
  | _ => False

end Command

section Settings

variable {cs ds : List Command} {l : Nat}

/-- A setting comes from one of the commands. -/
theorem exists_of_settings {v : Setting} (h : settings cs l = some v) :
    ∃ c ∈ cs, c.sets l = some v := by
  induction cs with
  | nil => cases h
  | cons c cs ih =>
    rw [settings, Option.or_eq_some_iff] at h
    rcases h with h | ⟨-, h⟩
    · obtain ⟨c', hc, hs⟩ := ih h
      exact ⟨c', List.mem_cons_of_mem c hc, hs⟩
    · exact ⟨c, List.mem_cons_self, h⟩

/-- A location is set by a list of commands exactly if one of them sets it, whichever is the last to
do so. -/
theorem isSome_settings_iff : (settings cs l).isSome ↔ ∃ c ∈ cs, (c.sets l).isSome := by
  induction cs with
  | nil => simp [settings]
  | cons c cs ih =>
    rw [settings, Option.isSome_or, Bool.or_eq_true, ih]
    simp [or_comm]

/-- The uniforms that some commands set are those at some places. -/
def Covers (cs : List Command) (places : List Nat) : Prop :=
  ∀ l, (settings cs l).isSome ↔ l ∈ places

/-- Selecting a fixed program sets each uniform that it has, and no other. -/
theorem covers_select (f : FixedProgram) (view : Rect) : Covers (f.select view) f.places := by
  intro l
  rw [isSome_settings_iff, FixedProgram.select, FixedProgram.places]
  cases f.view <;> cases f.atlas <;> simp [Command.sets]

/-- The commands that an effect is prepared with are all settings of uniforms. -/
theorem setsUniform_effect (e : LinkedEffect) (uniforms : List Scalar) :
    ∀ c ∈ e.bindUnits ++ e.upload uniforms, c.SetsUniform := by
  intro c hc
  rcases List.mem_append.mp hc with hc | hc
  · obtain ⟨⟨place, unit⟩, -, hc⟩ := List.mem_filterMap.mp hc
    obtain ⟨place', -, rfl⟩ := Option.map_eq_some_iff.mp hc
    trivial
  · obtain ⟨u, -, hc⟩ := List.mem_filterMap.mp hc
    obtain ⟨place, -, rfl⟩ := Option.map_eq_some_iff.mp hc
    trivial

/-- The units of the channels and the values of the uniforms are set at every place of an effect and
nowhere else, so that no draw reads a value that an earlier use has left. -/
theorem covers_effect (e : LinkedEffect) (uniforms : List Scalar) :
    Covers (e.bindUnits ++ e.upload uniforms) e.places := by
  intro l
  simp only [isSome_settings_iff, LinkedEffect.places, LinkedEffect.bindUnits, LinkedEffect.upload,
    List.mem_append, List.mem_filterMap]
  constructor
  · rintro ⟨c, ⟨⟨k, unit⟩, hk, hc⟩ | ⟨u, hu, hc⟩, hl⟩
    · obtain ⟨place, rfl, rfl⟩ := Option.map_eq_some_iff.mp hc
      obtain rfl : l = place := by_contra fun hn => by simp [Command.sets, hn] at hl
      exact .inl ⟨some l, List.fst_mem_of_mem_zipIdx hk, rfl⟩
    · obtain ⟨place, hp, rfl⟩ := Option.map_eq_some_iff.mp hc
      obtain rfl : l = place := by_contra fun hn => by simp [Command.sets, hn] at hl
      exact .inr ⟨u, hu, hp⟩
  · rintro (⟨k, hk, rfl⟩ | ⟨u, hu, hp⟩)
    · obtain ⟨i, hi, he⟩ := List.getElem_of_mem hk
      refine ⟨.uniformInt l i, .inl ⟨(some l, i), ?_, rfl⟩, by simp [Command.sets]⟩
      exact List.mem_zipIdx_iff_getElem?.mpr (by rw [List.getElem?_eq_getElem hi, he])
    · exact ⟨_, .inr ⟨u, hu, Option.map_eq_some_iff.mpr ⟨l, hp, rfl⟩⟩, by simp [Command.sets]⟩

/-- The sampler of a fixed program reads the first unit. -/
theorem unit_select (f : FixedProgram) (view : Rect) (l : Nat) :
    Setting.unit (settings (f.select view) l) = 0 := by
  cases hs : settings (f.select view) l with
  | none => rfl
  | some v =>
    obtain ⟨c, hc, hv⟩ := exists_of_settings hs
    rw [FixedProgram.select, List.mem_cons, List.mem_append, Option.mem_toList, Option.mem_toList,
      Option.map_eq_some_iff, Option.map_eq_some_iff] at hc
    obtain rfl | ⟨place, -, rfl⟩ | ⟨place, -, rfl⟩ := hc
    · cases hv
    · obtain rfl := Option.some.inj (Option.ite_none_right_eq_some.mp hv).2
      rfl
    · obtain rfl := Option.some.inj (Option.ite_none_right_eq_some.mp hv).2
      rfl

/-- The samplers of an effect read the units of its channels. -/
theorem unit_lt {e : LinkedEffect} (he : e.channels.length = maxChannels)
    (uniforms : List Scalar) (l : Nat) :
    Setting.unit (settings (e.bindUnits ++ e.upload uniforms) l) < maxChannels := by
  have some_channels : 0 < maxChannels := by decide
  cases hs : settings (e.bindUnits ++ e.upload uniforms) l with
  | none => exact some_channels
  | some v =>
    obtain ⟨c, hc, hv⟩ := exists_of_settings hs
    rcases List.mem_append.mp hc with hc | hc
    · obtain ⟨⟨place, unit⟩, hm, hc⟩ := List.mem_filterMap.mp hc
      obtain ⟨place', -, rfl⟩ := Option.map_eq_some_iff.mp hc
      have lt : unit < e.channels.length := by simpa using (List.mem_zipIdx hm).2.1
      obtain rfl := Option.some.inj (Option.ite_none_right_eq_some.mp hv).2
      exact he ▸ lt
    · obtain ⟨u, -, hc⟩ := List.mem_filterMap.mp hc
      obtain ⟨place, -, rfl⟩ := Option.map_eq_some_iff.mp hc
      obtain rfl := Option.some.inj (Option.ite_none_right_eq_some.mp hv).2
      exact some_channels

end Settings

namespace Machine

variable {samplers : Handle .program → List Nat} {m : Machine} {cs : List Command}
  {p : Handle .program} {a : Adapter}

/-- Uniforms of the program in use are set. -/
theorem does_uniforms (hp : m.program = some p) (h : ∀ c ∈ cs, c.SetsUniform) :
    m.Does samplers cs [] { m with
      uniforms := Function.update m.uniforms p fun l => (settings cs l).or (m.uniforms p l) } := by
  induction cs generalizing m with
  | nil => exact ⟨rfl, by simp [settings]⟩
  | cons c cs ih =>
    obtain ⟨hc, hcs⟩ := List.forall_mem_cons.mp h
    have first : m.Does samplers [c] [] { m with
        uniforms := Function.update m.uniforms p fun l => (c.sets l).or (m.uniforms p l) } := by
      cases c <;> first | exact hc.elim | exact ⟨rfl,
        by simp only [after_cons, after_nil, apply, hp]⟩
    obtain ⟨draws, after⟩ := first.append (ih (by exact hp) hcs)
    refine ⟨draws, after.trans ?_⟩
    simp [settings, Option.or_assoc]

/-! ### Targets, blending and textures -/

/-- Draws go to a part of a framebuffer. -/
def aim (k : Option (Handle .framebuffer) × Int32 × Int32) : List Command :=
  [.bindFramebuffer k.1, .viewport k.2.1 k.2.2]

/-- Binding a framebuffer and setting the viewport, in one equation. -/
theorem does_aim (k : Option (Handle .framebuffer) × Int32 × Int32) :
    m.Does samplers (aim k) [] { m with framebuffer := k.1, viewport := some k.2 } := ⟨rfl, rfl⟩

/-- A target is found if it can be reached. -/
theorem target?_cases (a : Adapter) (i : Nat) :
    (∃ e, a.target? i = .error e ∧ a.tables.reach (.offscreen i) = .error e) ∨
      ∃ t, a.targets[i]? = some t ∧ a.target? i = .ok t ∧
      a.tables.reach (.offscreen i) = .ok () := by
  rw [Tables.reach, Adapter.target?]
  cases ht : a.targets[i]? with
  | some t =>
    have hi : i < a.targets.length := (List.getElem?_eq_some_iff.mp ht).1
    exact .inr ⟨t, rfl, rfl, if_pos hi⟩
  | none =>
    have hi : ¬ i < a.targets.length := by simpa using ht
    refine .inl ⟨a.missingTarget i, rfl, (if_neg hi).trans ?_⟩
    simp only [Adapter.missingTarget, Adapter.tables, List.isEmpty_iff, List.length_eq_zero_iff]

/-- A target is bound if there is one of its index. -/
theorem bindTarget_cases (a : Adapter) (target : Target) :
    (∃ e, a.bindTarget target = .error e ∧ a.tables.reach target = .error e) ∨
      ∃ k, a.canvas target = some k ∧ a.bindTarget target = .ok (aim k) ∧
      a.tables.reach target = .ok () := by
  cases target with
  | surface => exact .inr ⟨_, rfl, rfl, rfl⟩
  | offscreen i =>
    rw [Adapter.bindTarget, Adapter.canvas]
    rcases target?_cases a i with ⟨e, he, hr⟩ | ⟨t, ht, hok, hr⟩
    · rw [he]
      exact .inl ⟨e, rfl, hr⟩
    · rw [hok, ht]
      exact .inr ⟨_, rfl, rfl, hr⟩

/-- Blending is switched on with its factors or switched off. Where it is off the factors stay
behind, and no draw reads them. -/
theorem does_applyBlend (mode : BlendMode) : m.Does samplers (applyBlend mode) [] { m with
    blending := (blendFactors mode).isSome
    factors := (blendFactors mode).getD m.factors } := by
  cases mode <;> exact ⟨rfl, rfl⟩

/-- A target may be filled before it is drawn to. -/
theorem does_fill (clear : Option Color) :
    ∃ color, m.Does samplers ((clear.map Adapter.fill).getD [])
    (clear.map (.fill m.framebuffer)).toList { m with clearColor := color } := by
  cases clear with
  | none => exact ⟨m.clearColor, rfl, rfl⟩
  | some color => exact ⟨color, rfl, rfl⟩

/-- Textures are bound to the units from a first one on. -/
theorem does_textures (ts : List (Handle .texture)) (first : Nat) :
    ∃ unit, m.Does samplers
      ((ts.zipIdx first).flatMap fun (t, unit) => [.activeTexture unit, .bindTexture (some t)]) []
      { m with
        unit
        textures := fun n => if first ≤ n then (ts[n - first]?).or (m.textures n)
          else m.textures n } := by
  induction ts generalizing m first with
  | nil => exact ⟨m.unit, rfl, by simp⟩
  | cons t ts ih =>
    have bound : m.Does samplers [.activeTexture first, .bindTexture (some t)] [] { m with
        unit := first
        textures := Function.update m.textures first (some t) } := ⟨rfl, rfl⟩
    obtain ⟨unit, rest⟩ := @ih { m with
      unit := first
      textures := Function.update m.textures first (some t) } (first + 1)
    obtain ⟨draws, after⟩ := bound.append rest
    refine ⟨unit, draws, after.trans ?_⟩
    congr 1
    funext n
    dsimp only
    -- below the units bound here, at the first of them, and above it
    rcases Nat.lt_trichotomy n first with h | rfl | h
    · rw [if_neg (by omega), if_neg (by omega), Function.update_of_ne (by omega)]
    · rw [if_neg (by omega), if_pos (Nat.le_refl n), Function.update_self, Nat.sub_self]
      rfl
    · rw [if_pos (by omega), if_pos (by omega), Function.update_of_ne (by omega),
        show n - first = n - (first + 1) + 1 by omega, List.getElem?_cons_succ]

/-! ### Vertices -/

/-- The bound vertex array is changed, and a buffer is bound. -/
def fetch (f : VertexArray → VertexArray) (b : Handle .buffer) (m : Machine) : Machine :=
  { m.onArray f with vertices := some b }

/-- Of two buffers bound for vertices in a row the second stays bound; the changes of the array
compose. -/
@[simp] theorem fetch_fetch (f g : VertexArray → VertexArray) (b c : Handle .buffer) :
    (m.fetch f b).fetch g c = m.fetch (g ∘ f) c := by
  simp [fetch, onArray, bound]

@[simp] theorem bound_fetch (f : VertexArray → VertexArray) (b : Handle .buffer) :
    (m.fetch f b).bound = f m.bound := Function.update_self ..

/-- A change of the array behind one that bound a buffer joins it. -/
theorem onArray_fetch (f g : VertexArray → VertexArray) (b : Handle .buffer) :
    (m.fetch f b).onArray g = m.fetch (g ∘ f) b := by
  simp [fetch, onArray, bound]

/-- Two changes of one attribute are their composition. -/
@[simp] theorem onAttribute_onAttribute (l : Nat) (f g : Attribute → Attribute) :
    (m.onAttribute l f).onAttribute l g = m.onAttribute l (g ∘ f) := by
  simp only [onAttribute, onArray_onArray]
  congr 1
  funext v
  simp [VertexArray.onAttribute]

/-- An attribute is read from the bound buffer. -/
def point (l : Nat) (components stride offset : Int32) (divisor : Nat) : List Command :=
  [.enableAttribute l, .attributePointer l components stride offset, .attributeDivisor l divisor]

/-- Pointing an attribute takes the buffer that is bound at this moment. This is why the blocks keep
track of `vertices`. -/
theorem does_point (l : Nat) (components stride offset : Int32) (divisor : Nat) :
    m.Does samplers (point l components stride offset divisor) [] (m.onAttribute l fun _ =>
      { enabled := true, buffer := m.vertices, components, stride, offset, divisor }) := by
  refine ⟨rfl, ?_⟩
  calc m.after (point l components stride offset divisor)
    _ = ((m.onAttribute l fun t => { t with enabled := true }).onAttribute l fun t =>
          { t with buffer := m.vertices, components, stride, offset }).onAttribute l fun t =>
          { t with divisor } := rfl
    _ = _ := by
      rw [onAttribute_onAttribute, onAttribute_onAttribute]
      rfl

/-- Fields are read from a buffer, each at a location of its own. -/
theorem does_points {b : Handle .buffer} (hb : m.vertices = some b) (stride start : Int32)
    (fields : List InstanceField) (first : Nat) :
    m.Does samplers
      ((fields.zipIdx first).flatMap fun (f, i) =>
        point (i + 1) f.components stride (start + f.offset) 1) []
      (m.onArray (.lay (first + 1) (fields.map (·.attribute b stride start)))) := by
  induction fields generalizing m first with
  | nil =>
    have same : (.lay (first + 1) [] : VertexArray → VertexArray) = id :=
      funext fun v => VertexArray.lay_nil
    rw [List.map_nil, same, onArray_id]
    exact does_nil
  | cons f fields ih =>
    obtain ⟨draws, after⟩ :=
      (does_point (first + 1) f.components stride (start + f.offset) 1).append
      (ih (m := m.onAttribute (first + 1) _) hb (first + 1))
    refine ⟨draws, after.trans ?_⟩
    rw [onAttribute, onArray_onArray, hb]
    congr 1
    funext v
    exact VertexArray.lay_cons.symm

/-- Binding the instances of a buffer lays the attributes of its fields from location one on. -/
theorem does_bindInstances (b : Handle .buffer) (stride start : Int32)
    (fields : List InstanceField) :
    m.Does samplers (Adapter.bindInstances b stride start fields) []
      (m.fetch (.lay 1 (fields.map (·.attribute b stride start))) b) :=
  @does_points samplers { m with vertices := some b } b rfl stride start fields 0

/-- The unit square is what is read, with its indices. -/
def square (a : Adapter) (v : VertexArray) : VertexArray :=
  { v.lay 0 [.corner a.corners] with indices := some a.indices }

/-- The corners of the square are put at location zero, and its indices in the array. -/
theorem does_bindSquare (a : Adapter) : m.Does samplers a.bindSquare []
    (m.fetch (square a) a.corners) := by
  have corners := @does_point samplers { m with vertices := some a.corners } 0 2 8 0 0
  refine ⟨rfl, ?_⟩
  calc m.after a.bindSquare
    _ = (({ m with vertices := some a.corners } : Machine).after (point 0 2 8 0 0)).apply
          (.bindBuffer .indices a.indices) := rfl
    _ = _ := by
      rw [corners.2, onAttribute]
      simp only [apply, onArray_onArray]
      have same : square a = (fun v => { v with indices := some a.indices }) ∘
          VertexArray.onAttribute 0 fun _ => .corner a.corners := by
        funext v
        rw [square, VertexArray.lay_singleton]
        rfl
      rw [same]
      rfl

/-- Filling the stream changes what it holds. The state of the context only sees it bound. -/
theorem does_fillStream (a : Adapter) (bytes : List UInt8) :
    m.Does samplers (a.fillStream bytes) [] (m.fetch id a.stream) := by
  rw [fetch, onArray_id]
  exact ⟨rfl, rfl⟩

/-- The attributes of instances are switched off. -/
theorem does_releaseInstances (fields : List InstanceField) :
    m.Does samplers (Adapter.releaseInstances fields) [] (m.onArray (.release fields.length)) := by
  rw [Adapter.releaseInstances]
  induction fields.length with
  | zero =>
    have same : VertexArray.release 0 = id := funext fun v => VertexArray.release_zero
    rw [same, onArray_id]
    exact does_nil
  | succ n ih =>
    have last : ∀ m : Machine,
        m.Does samplers [.attributeDivisor (n + 1) 0, .disableAttribute (n + 1)] []
        (m.onAttribute (n + 1) fun t => { t with enabled := false, divisor := 0 }) := fun m =>
      ⟨rfl, onAttribute_onAttribute (n + 1) _ _⟩
    rw [List.range_succ, List.flatMap_append]
    obtain ⟨draws, after⟩ := ih.append (last _)
    refine ⟨draws, after.trans ?_⟩
    rw [onAttribute, onArray_onArray]
    congr 1
    funext v
    exact VertexArray.release_succ.symm

/-! ## Idle states -/

/-- Nothing is left over that a draw might read by accident: the first unit is active, no attribute
from location one on is enabled or advances per instance, and programs have uniforms at their places
only. -/
structure Idle (places : List (Handle .program × List Nat)) (m : Machine) : Prop where
  /-- The first unit is active. -/
  unit : m.unit = 0
  /-- No attribute of instances is left on. -/
  arrays : ∀ v, (m.arrays v).Idle
  /-- No uniform is set elsewhere. -/
  uniforms : ∀ e ∈ places, ∀ l, l ∉ e.2 → m.uniforms e.1 l = none

variable {places : List (Handle .program × List Nat)} {taken : List Nat}

/-- All arrays stay idle if the bound one does. -/
theorem arrays_fetch (h : ∀ v, (m.arrays v).Idle) {f : VertexArray → VertexArray}
    (hf : (f m.bound).Idle) (b : Handle .buffer) (v : Option (Handle .vertexArray)) :
    ((m.fetch f b).arrays v).Idle := by
  change (Function.update m.arrays m.array (f m.bound) v).Idle
  by_cases hv : v = m.array
  · subst hv
    rw [Function.update_self]
    exact hf
  · rw [Function.update_of_ne hv]
    exact h v

/-- A change of the bound array that keeps it idle keeps the whole state so. -/
theorem Idle.fetch (h : m.Idle places) {f : VertexArray → VertexArray} (hf : (f m.bound).Idle)
    (b : Handle .buffer) : (m.fetch f b).Idle places where
  unit := h.unit
  arrays := arrays_fetch h.arrays hf b
  uniforms := h.uniforms

/-- The square occupies location zero only. -/
theorem idle_square {v : VertexArray} (hv : v.Idle) : (square a v).Idle := hv.lay_zero

/-- Instances of the unit square are released. -/
theorem Idle.release (h : m.Idle places) {ts : List Attribute} {count : Nat}
    (ht : ts.length ≤ count) (b : Handle .buffer) :
    ((m.fetch (.lay 1 ts ∘ square a) b).onArray (.release count)).Idle places := by
  rw [onArray_fetch]
  exact h.fetch ((idle_square (h.arrays m.array)).release ht) b

/-- With the unit square, what is enabled besides is what was laid. -/
theorem enabled_square {v : VertexArray} (hv : v.Idle) {ts : List Attribute}
    (ht : ∀ t ∈ ts, t.enabled = true) :
    ((square a v).lay 1 ts).enabled = fun l => (.corner a.corners :: ts)[l]? :=
  VertexArray.enabled_lay (idle_square hv) rfl rfl ht

/-! ### Programs -/

/-- From one state to the other a program that is in use was given uniforms, and blending was
set. -/
structure Configured (m : Machine) (p : Handle .program) (uniforms : Nat → Option Setting)
    (mode : BlendMode) (m' : Machine) : Prop where
  /-- What draws read then. -/
  pose : m'.pose = ⟨m.framebuffer, m.viewport, some p, uniforms, blendFactors mode⟩
  /-- The uniforms of the program. -/
  uniforms : m'.uniforms p = uniforms
  /-- Other programs keep theirs. -/
  others : ∀ q, q ≠ p → m'.uniforms q = m.uniforms q
  /-- Vertex arrays are kept. -/
  arrays : m'.arrays = m.arrays
  /-- The active unit is kept. -/
  unit : m'.unit = m.unit
  /-- Textures are kept. -/
  textures : m'.textures = m.textures

/-- What uniforms a program had elsewhere would be read too, but it had none. -/
theorem exists_configured (hn : ∀ l, l ∉ taken → m.uniforms p l = none) (hp : m.program = some p)
    (hu : ∀ c ∈ cs, c.SetsUniform) (hc : Covers cs taken) (mode : BlendMode) :
    ∃ m', m.Does samplers (cs ++ applyBlend mode) [] m' ∧ Configured m p (settings cs) mode m' := by
  have all : (fun l => (settings cs l).or (m.uniforms p l)) = settings cs := by
    funext l
    by_cases hl : l ∈ taken
    · obtain ⟨v, hv⟩ := Option.isSome_iff_exists.mp ((hc l).mpr hl)
      rw [hv, Option.some_or]
    · rw [hn l hl, Option.or_none]
  have own : Function.update m.uniforms p (settings cs) p = settings cs := Function.update_self ..
  have done := (does_uniforms hp hu).append (@does_applyBlend samplers _ mode)
  rw [all] at done
  refine ⟨_, done, ?_, own, fun q hq => Function.update_of_ne hq .., rfl, rfl, rfl⟩
  simp only [pose, hp, own, Pose.mk.injEq, true_and]
  cases blendFactors mode <;> rfl

/-- Programs still have uniforms at their places only. -/
theorem Configured.idle {m' : Machine} {mode : BlendMode} (h : Configured m p (settings cs) mode m')
    (hm : ∀ e ∈ places, ∀ l, l ∉ e.2 → m.uniforms e.1 l = none) (hn : (places.map Prod.fst).Nodup)
    (he : (p, taken) ∈ places) (hc : Covers cs taken) : ∀ e ∈ places, ∀ l, l ∉ e.2 →
    m'.uniforms e.1 l = none := by
  intro e hm' l hl
  by_cases same : e.1 = p
  · obtain rfl : e = (p, taken) := List.inj_on_of_nodup_map hn hm' he same
    rw [h.uniforms]
    exact Option.not_isSome_iff_eq_none.mp fun hs => hl ((hc l).mp hs)
  · rw [h.others _ same]
    exact hm e hm' l hl

/-- A fixed program is made ready to draw. -/
theorem Idle.prepare (samplers : Handle .program → List Nat) (h : m.Idle places)
    (hn : (places.map Prod.fst).Nodup) {f : FixedProgram} (hf : (f.program, f.places) ∈ places)
    (k : Option (Handle .framebuffer) × Int32 × Int32) (view : Rect) (mode : BlendMode) :
    ∃ m' : Machine, m'.Idle places ∧
      m'.pose = ⟨k.1, some k.2, some f.program, settings (f.select view), blendFactors mode⟩ ∧
      ∀ rest drawn m'', m'.Does samplers rest drawn m'' →
        m.Does samplers (aim k ++ (f.select view ++ (applyBlend mode ++ rest))) drawn m'' := by
  obtain ⟨us, hus, set⟩ :
      ∃ us, f.select view = .useProgram f.program :: us ∧ ∀ c ∈ us, c.SetsUniform := by
    refine ⟨_, rfl, ?_⟩
    cases f.view <;> cases f.atlas <;> simp
  -- the program is chosen in front of its uniforms, and choosing sets none
  have same : settings (f.select view) = settings us := by
    funext l
    rw [hus]
    exact Option.or_none
  have covers : Covers us f.places := fun l => same ▸ covers_select f view l
  -- the machine once aimed and with the program in use, before any uniform is set
  let used : Machine :=
    { m with framebuffer := k.1, viewport := some k.2, program := some f.program }
  have elsewhere : ∀ l, l ∉ f.places → used.uniforms f.program l = none := h.uniforms _ hf
  obtain ⟨m', done, ready⟩ : ∃ m', used.Does samplers (us ++ applyBlend mode) [] m' ∧
      Configured used f.program (settings us) mode m' :=
    exists_configured elsewhere rfl set covers mode
  refine ⟨m', ⟨ready.unit.trans h.unit, ?_, ready.idle h.uniforms hn hf covers⟩, same ▸ ready.pose,
    fun rest drawn m'' h' => ?_⟩
  · rw [ready.arrays]
    exact h.arrays
  · have all := done.append h'
    rw [List.append_assoc] at all
    rw [hus]
    exact all

/-- An effect is made ready to run, and its target is filled. The units are still occupied then. -/
theorem Idle.prepareEffect (samplers : Handle .program → List Nat) (h : m.Idle places)
    (hn : (places.map Prod.fst).Nodup) {e : LinkedEffect} (he : (e.program, e.places) ∈ places)
    (k : Option (Handle .framebuffer) × Int32 × Int32) (clear : Option Color)
    (ts : List (Handle .texture)) (uniforms : List Scalar) :
    ∃ m' : Machine, (∀ v, (m'.arrays v).Idle) ∧
      (∀ e ∈ places, ∀ l, l ∉ e.2 → m'.uniforms e.1 l = none) ∧
      m'.pose = ⟨k.1, some k.2, some e.program, settings (e.bindUnits ++ e.upload uniforms),
        blendFactors e.blend⟩ ∧
      (∀ n, n < ts.length → m'.textures n = ts[n]?) ∧
      ∀ rest drawn m'', m'.Does samplers rest drawn m'' →
        m.Does samplers (aim k ++ ((clear.map Adapter.fill).getD [] ++ ([.useProgram e.program] ++
          ((ts.zipIdx.flatMap fun (t, unit) => [.activeTexture unit, .bindTexture (some t)]) ++
            (e.bindUnits ++ (e.upload uniforms ++ (applyBlend e.blend ++ rest)))))))
          ((clear.map (.fill k.1)).toList ++ drawn) m'' := by
  -- the machine after each block: aimed, filled, the program in use, the channels bound
  let aimed : Machine := { m with framebuffer := k.1, viewport := some k.2 }
  obtain ⟨color, filled⟩ := @does_fill samplers aimed clear
  let chosen : Machine := { aimed with clearColor := color, program := some e.program }
  have choose : Does samplers { aimed with clearColor := color } [.useProgram e.program] []
    chosen := ⟨rfl, rfl⟩
  obtain ⟨unit, occupied⟩ := @does_textures samplers chosen ts 0
  obtain ⟨m', done, ready⟩ := exists_configured (m := { chosen with
      unit
      textures := fun n => if 0 ≤ n then (ts[n - 0]?).or (chosen.textures n)
        else chosen.textures n })
    (h.uniforms _ he) rfl (setsUniform_effect e uniforms) (covers_effect e uniforms) e.blend
  refine ⟨m', ?_, ready.idle h.uniforms hn he (covers_effect e uniforms),
    ready.pose, fun n hn => ?_,
    fun rest drawn m'' h' => ?_⟩
  · rw [ready.arrays]
    exact h.arrays
  · have here : ts[n]? = some ts[n] := List.getElem?_eq_getElem hn
    rw [ready.textures]
    simp [here]
  · have rest := done.append h'
    rw [List.append_assoc, List.append_assoc] at rest
    exact (does_aim k).append (filled.append (choose.append (occupied.append rest)))

/-- What a draw reads that an adapter is ready for. -/
theorem drawing_eq {target : Target} {k : Option (Handle .framebuffer) × Int32 × Int32}
    (hk : a.canvas target = some k) {mode : BlendMode} {units : Nat → Option (Handle .texture)}
    {attributes : List Attribute}
    (hp : m.pose = ⟨k.1, some k.2, some p, settings cs, blendFactors mode⟩)
    (ht : ∀ l ∈ samplers p, m.textures (Setting.unit (settings cs l)) = units
      (Setting.unit (settings cs l)))
    (ha : m.bound.enabled = fun l => attributes[l]?) (vertices : Vertices) :
    some (m.drawing samplers vertices) =
    a.draw samplers target p cs mode units attributes vertices := by
  have used : m.program = some p := congrArg Pose.program hp
  have read : sampled (samplers p) (settings cs) m.textures = sampled (samplers p)
      (settings cs) units :=
    List.map_congr_left ht
  rw [Adapter.draw, hk, drawing, hp, used, ha]
  simp only [Option.map_some, read]

end Machine

/-! ## Calls -/

namespace Adapter

open Machine

/-- What an adapter relies on: its programs are different ones, effects have all channels, and
lights and shadows are drawn without textures. -/
structure Fit (a : Adapter) (samplers : Handle .program → List Nat) : Prop where
  /-- No program is used twice. -/
  programs : (a.places.map Prod.fst).Nodup
  /-- An effect has all channels. -/
  channels : ∀ e ∈ a.effects, e.2.channels.length = maxChannels
  /-- Lights sample nothing. -/
  light : samplers a.light.program = []
  /-- Shadows sample nothing. -/
  shadow : samplers a.shadow.program = []

variable {a : Adapter} {samplers : Handle .program → List Nat} {cs : List Command}
  {ds : List Drawing} {m : Machine}

/-- From an idle state some commands draw what they should, and the state is idle again. -/
def Shows (a : Adapter) (samplers : Handle .program → List Nat) (cs : List Command)
    (ds : List Drawing) :
    Prop :=
  ∀ m : Machine, m.Idle a.places → ∃ drawn m', m.Does samplers cs drawn m' ∧
    drawn.map some = ds.map (a.shown samplers) ∧ m'.Idle a.places

/-- Clearing needs no program: it reads the framebuffer and the colour. -/
theorem shows_fill {target : Target} {k : Option (Handle .framebuffer) × Int32 × Int32}
    (hk : a.canvas target = some k) (color : Color) :
    a.Shows samplers (aim k ++ fill color) [.fill target color] := by
  intro m hm
  refine ⟨_, _, ⟨rfl, rfl⟩, ?_, hm.unit, hm.arrays, hm.uniforms⟩
  rw [List.map_singleton, shown, hk]
  rfl

/-- The four fixed programs are in the table of places. -/
theorem mem_places {f : FixedProgram} (hf : f ∈ [a.spriteColor, a.spriteMask, a.light, a.shadow]) :
    (f.program, f.places) ∈ a.places :=
  List.mem_append_left _ (List.mem_map_of_mem hf)

/-- So is every effect that is registered. -/
theorem mem_places_effect {name : String} {e : LinkedEffect} (he : a.effects.lookup name = some e) :
    (e.program, e.places) ∈ a.places :=
  List.mem_append_right _ (List.mem_map.mpr ⟨_, mem_of_lookup he, rfl⟩)

/-- The attributes of instances are all enabled ones. -/
theorem enabled_fields {b : Handle .buffer} {stride start : Int32} (fields : List InstanceField) :
    ∀ t ∈ fields.map (·.attribute b stride start), t.enabled = true := by
  intro t ht
  obtain ⟨f, -, rfl⟩ := List.mem_map.mp ht
  rfl

/-- Instances of the unit square are drawn. -/
theorem drawing_instances {target : Target} {k : Option (Handle .framebuffer) × Int32 × Int32}
    (hk : a.canvas target = some k) {p : Handle .program} {mode : BlendMode}
    {units : Nat → Option (Handle .texture)} {ts : List Attribute}
    (arrays : ∀ v, (m.arrays v).Idle)
    (hp : m.pose = ⟨k.1, some k.2, some p, settings cs, blendFactors mode⟩)
    (hu : ∀ l ∈ samplers p, m.textures (Setting.unit (settings cs l)) = units
      (Setting.unit (settings cs l))) (ht : ∀ t ∈ ts, t.enabled = true) (b : Handle .buffer)
        (indices instances : Int32) :
    some ((m.fetch (.lay 1 ts ∘ square a) b).drawing samplers
        (.instanced (m.fetch (.lay 1 ts ∘ square a) b).bound.indices indices instances)) =
      a.draw samplers target p cs mode units (.corner a.corners :: ts)
        (.instanced (some a.indices) indices instances) := by
  have enabled : (m.fetch (.lay 1 ts ∘ square a) b).bound.enabled = fun l =>
      (.corner a.corners :: ts)[l]? := by
    rw [bound_fetch]
    exact enabled_square (arrays m.array) ht
  have order : (m.fetch (.lay 1 ts ∘ square a) b).bound.indices = some a.indices := by
    rw [bound_fetch]
    rfl
  rw [← drawing_eq (m := m.fetch (.lay 1 ts ∘ square a) b) hk hp hu enabled, ← order]

/-- An instanced draw reads the state and does not change it. -/
theorem does_instances (indices instances : Int32) :
    m.Does samplers [.drawElementsInstanced indices instances]
    [m.drawing samplers (.instanced m.bound.indices indices instances)] m := ⟨rfl, rfl⟩

/-- A light is drawn from the stream, as the only instance of its attributes, and the attributes are
released again. -/
theorem Fit.shows_light (fit : a.Fit samplers) {target : Target}
    {k : Option (Handle .framebuffer) × Int32 × Int32} (hk : a.canvas target = some k)
    (light : LightInstance) :
    a.Shows samplers (aim k ++ a.lightCommands light) [.light target light] := by
  intro m hm
  obtain ⟨m', idle, hp, prepared⟩ := hm.prepare samplers fit.programs
    (mem_places (f := a.light) (by simp)) k a.view .replace
  refine ⟨_, _, prepared _ _ _ ((does_bindSquare a).append ((does_fillStream a _).append
    ((does_bindInstances a.stream _ 0 lightFields).append ((does_instances _ _).append
      (does_releaseInstances lightFields))))), ?_, ?_⟩
  · simp only [fetch_fetch]
    refine congrArg (fun d => [d])
      (drawing_instances hk idle.arrays hp (fun l hl => ?_) (enabled_fields _) _ _ _)
    rw [fit.light] at hl
    cases hl
  · simp only [fetch_fetch]
    exact idle.release (Nat.le_of_eq (List.length_map _)) a.stream

/-- Shadows are drawn from location zero of the stream. No attribute above is laid, so none has to
be released. -/
theorem Fit.shows_shadows (fit : a.Fit samplers) {target : Target}
    {k : Option (Handle .framebuffer) × Int32 × Int32} (hk : a.canvas target = some k)
    (corners : List Vec2) :
    a.Shows samplers (aim k ++ a.shadowCommands corners) [.shadows target corners] := by
  intro m hm
  obtain ⟨m', idle, hp, prepared⟩ := hm.prepare samplers fit.programs
    (mem_places (f := a.shadow) (by simp)) k a.view .replace
  -- attribute 0 alone reads from the stream, whatever the vertex array held before
  let lone : Machine := m'.fetch (.lay 0 [.corner a.stream]) a.stream
  have pointed : (m'.fetch id a.stream).Does samplers (point 0 2 8 0 0) [] lone := by
    obtain ⟨draws, after⟩ := (does_point 0 2 8 0 0 : (m'.fetch id a.stream).Does samplers _ _ _)
    refine ⟨draws, after.trans ?_⟩
    rw [onAttribute, onArray_fetch]
    refine congrArg (fun f => m'.fetch f a.stream) (funext fun v => ?_)
    exact VertexArray.lay_singleton.symm
  have draw : lone.Does samplers [.drawArrays (signedSize corners.length)]
      [lone.drawing samplers (.consecutive (signedSize corners.length))] lone := ⟨rfl, rfl⟩
  have enabled : lone.bound.enabled = fun l => [Attribute.corner a.stream][l]? := by
    rw [bound_fetch]
    exact VertexArray.enabled_lay_zero (idle.arrays m'.array) rfl
  refine ⟨_, _, prepared _ _ _ ((does_fillStream a _).append (pointed.append draw)), ?_, ?_⟩
  · refine congrArg (fun d => [d]) (drawing_eq (m := lone) hk hp (fun l hl => ?_) enabled _)
    rw [fit.shadow] at hl
    cases hl
  · exact idle.fetch (idle.arrays m'.array).lay_zero a.stream

/-- An effect is shown, and afterwards the units hold the textures of the channels. -/
theorem Fit.does_effect (fit : a.Fit samplers) {output : Target}
    {k : Option (Handle .framebuffer) × Int32 × Int32}
    (hk : a.canvas output = some k) {name : String} {e : LinkedEffect}
    (he : a.effects.lookup name = some e) {channels : List (Option Nat)}
    (hc : channels.length = maxChannels) (uniforms : List Scalar) (clear : Option Color)
    (hm : m.Idle a.places) :
    ∃ drawn m', m.Does samplers
    (aim k ++ a.effectCommands e (channels.map a.channelOf) uniforms clear) drawn m' ∧
      drawn.map some =
      (((clear.map (.fill output)).toList ++ [.effect name channels output uniforms] :
        List Drawing).map (a.shown samplers)) ∧
      m'.Idle a.places ∧ ∀ i, i < maxChannels → m'.textures i = channels[i]?.map a.channelOf := by
  obtain ⟨m', arrays, others, hp, textures, prepared⟩ := hm.prepareEffect samplers fit.programs
    (mem_places_effect he) k clear (channels.map a.channelOf) uniforms
  -- the machine that draws: the square is bound and every channel stands at its unit
  let drawn : Machine := m'.fetch (square a) a.corners
  have draw : drawn.Does samplers
      [.drawElements (signedSize UnitSquare.indexCount), .activeTexture 0]
      [drawn.drawing samplers (.indexed drawn.bound.indices (signedSize UnitSquare.indexCount))]
      { drawn with unit := 0 } := ⟨rfl, rfl⟩
  have enabled : drawn.bound.enabled = fun l => [Attribute.corner a.corners][l]? := by
    rw [bound_fetch]
    exact VertexArray.enabled_lay_zero (arrays m'.array) rfl
  have order : drawn.bound.indices = some a.indices := by
    rw [bound_fetch]
    rfl
  have bound : ∀ i, i < maxChannels → m'.textures i = channels[i]?.map a.channelOf := by
    intro i hi
    rw [← List.getElem?_map]
    exact textures i (by rw [List.length_map, hc]; exact hi)
  refine ⟨_, _, prepared _ _ _ ((does_bindSquare a).append draw), ?_, ?_, bound⟩
  -- what an effect shows by definition, with the effect looked up in the table
  · have known : a.shown samplers (.effect name channels output uniforms) =
        a.draw samplers output e.program
        (e.bindUnits ++ e.upload uniforms) e.blend (fun unit => channels[unit]?.map a.channelOf)
          [.corner a.corners]
        (.indexed (some a.indices) (signedSize UnitSquare.indexCount)) := by
      rw [shown, he]
      rfl
    rw [List.nil_append, List.map_append, List.map_append, List.map_singleton,
      List.map_singleton, known, ← order]
    congr 1
    · cases clear with
      | none => rfl
      | some color => simp [shown, hk]
    -- the uniforms name units below the number of channels only, where the textures are known
    · refine congrArg (fun d => [d]) (drawing_eq (m := drawn) hk hp (fun l hl => ?_) enabled _)
      exact bound _ (unit_lt (fit.channels _ (mem_of_lookup he)) uniforms l)
  · exact ⟨rfl, arrays_fetch arrays (idle_square (arrays m'.array)) a.corners, others⟩

/-- An effect with all its channels bound draws one square, after a fill if it clears. All channels
are bound to units of their own, so what an earlier draw bound is not sampled. -/
theorem Fit.shows_effect (fit : a.Fit samplers) {output : Target}
    {k : Option (Handle .framebuffer) × Int32 × Int32}
    (hk : a.canvas output = some k) {name : String} {e : LinkedEffect}
    (he : a.effects.lookup name = some e) {channels : List (Option Nat)}
    (hc : channels.length = maxChannels) (uniforms : List Scalar) (clear : Option Color) :
    a.Shows samplers (aim k ++ a.effectCommands e (channels.map a.channelOf) uniforms clear)
      ((clear.map (.fill output)).toList ++ [.effect name channels output uniforms]) := by
  intro m hm
  obtain ⟨drawn, m', does, shown, idle, -⟩ := fit.does_effect hk he hc uniforms clear hm
  exact ⟨drawn, m', does, shown, idle⟩

variable (samplers) in
/-- A run of sprites is drawn by one call. Whatever attributes and textures there are, it lays its
own over them. -/
theorem exists_does_run {target : Target} {k : Option (Handle .framebuffer) × Int32 × Int32}
    (hk : a.canvas target = some k) {mode : SpriteMode} {id : BufferId} {b : InstanceBuffer}
    (hb : a.buffers.lookup id = some b) (idle : m.Idle a.places)
    (hp : m.pose = ⟨k.1, some k.2, some (a.spriteProgram mode).program,
      settings ((a.spriteProgram mode).select a.view), blendFactors .alpha⟩)
    {run : DrawCall} {atlas : Handle .texture} (hatlas : a.atlases.lookup run.texture = some atlas)
    (us : List Attribute) (hu : us.length ≤ spriteFields.length)
    (units : Nat → Option (Handle .texture)) (c : Handle .buffer) :
    ∃ drawn ts, ts.length ≤ spriteFields.length ∧
      Does samplers (fetch (.lay 1 us ∘ square a) c { m with textures := units })
      (a.drawRun b.buffer run) drawn
        (fetch (.lay 1 ts ∘ square a) b.buffer
          { m with textures := Function.update units 0 (some atlas) }) ∧
      drawn.map some = [a.shown samplers (.sprites target mode id run)] := by
  let stride := signedSize SpriteInstance.stride
  let ts := spriteFields.map (·.attribute b.buffer stride (run.offset.toInt32 * stride))
  -- the fields laid for the run before are replaced one by one, so none of them is left
  have replaced : (.lay 1 ts ∘ (.lay 1 us ∘ square a) : VertexArray → VertexArray) =
      .lay 1 ts ∘ square a := by
    funext v
    have none_left : us.drop ts.length = [] := List.drop_eq_nil_of_le (by simpa [ts] using hu)
    simp only [Function.comp_apply, VertexArray.lay_lay, none_left, List.append_nil]
  have fetched :=
    @does_bindInstances samplers (fetch (.lay 1 us ∘ square a) c { m with textures := units })
    b.buffer stride (run.offset.toInt32 * stride) spriteFields
  rw [fetch_fetch, replaced] at fetched
  let bound : Machine := { m with textures := Function.update units 0 (some atlas) }
  have textured : Does samplers (fetch (.lay 1 ts ∘ square a) b.buffer { m with textures := units })
      [.activeTexture 0, .bindTexture (some atlas)] []
        (fetch (.lay 1 ts ∘ square a) b.buffer bound) := by
    refine ⟨rfl, ?_⟩
    simp only [after_cons, after_nil, apply, Machine.fetch, onArray, Machine.bound,
      bound, idle.unit]
  have drawn := @does_instances samplers (fetch (.lay 1 ts ∘ square a) b.buffer bound)
    (signedSize UnitSquare.indexCount) run.count.toInt32
  -- what a run shows by definition, with buffer and texture looked up in the tables
  have shown_run : a.shown samplers (.sprites target mode id run) = a.draw samplers target
      (a.spriteProgram mode).program ((a.spriteProgram mode).select a.view) .alpha
        (fun unit => [atlas][unit]?)
      (.corner a.corners :: ts) (.instanced (some a.indices) (signedSize UnitSquare.indexCount)
        run.count.toInt32) := by
    rw [shown, hb, hatlas]
    rfl
  have step : a.drawRun b.buffer run =
      bindInstances b.buffer stride (run.offset.toInt32 * stride) spriteFields ++
        ([.activeTexture 0, .bindTexture (some atlas)] ++
          [.drawElementsInstanced (signedSize UnitSquare.indexCount) run.count.toInt32]) := by
    rw [drawRun, hatlas]
    rfl
  have all := fetched.append (textured.append drawn)
  rw [← step] at all
  refine ⟨_, ts, Nat.le_of_eq (List.length_map _), all, ?_⟩
  rw [shown_run]
  refine congrArg (fun d => [d]) (drawing_instances (m := bound) hk idle.arrays hp (fun l _ => ?_)
    (enabled_fields _) b.buffer _ _)
  rw [unit_select]
  change Function.update units 0 (some atlas) 0 = some atlas
  exact Function.update_self ..

variable (samplers) in
/-- Runs of sprites are drawn one after the other. -/
theorem exists_does_runs {target : Target} {k : Option (Handle .framebuffer) × Int32 × Int32}
    (hk : a.canvas target = some k) {mode : SpriteMode} {id : BufferId} {b : InstanceBuffer}
    (hb : a.buffers.lookup id = some b) (idle : m.Idle a.places)
    (hp : m.pose = ⟨k.1, some k.2, some (a.spriteProgram mode).program,
      settings ((a.spriteProgram mode).select a.view), blendFactors .alpha⟩)
    {calls : List DrawCall}
    (known : ∀ run ∈ calls, ∃ atlas, a.atlases.lookup run.texture = some atlas)
    (us : List Attribute) (hu : us.length ≤ spriteFields.length)
    (units : Nat → Option (Handle .texture)) (c : Handle .buffer) :
    ∃ drawn us' units' c', us'.length ≤ spriteFields.length ∧
      Does samplers (fetch (.lay 1 us ∘ square a) c { m with textures := units })
        (calls.flatMap (a.drawRun b.buffer)) drawn
        (fetch (.lay 1 us' ∘ square a) c' { m with textures := units' }) ∧
      drawn.map some = calls.map fun run => a.shown samplers (.sprites target mode id run) := by
  induction calls generalizing us units c with
  | nil => exact ⟨[], us, units, c, hu, does_nil, rfl⟩
  | cons run calls ih =>
    obtain ⟨⟨atlas, hatlas⟩, rest⟩ := List.forall_mem_cons.mp known
    obtain ⟨drawn, ts, hts, first, hdrawn⟩ :=
      exists_does_run samplers hk hb idle hp hatlas us hu units c
    obtain ⟨more, us', units', c', hu', done, hmore⟩ := ih rest ts hts _ b.buffer
    refine ⟨drawn ++ more, us', units', c', hu', ?_, ?_⟩
    · rw [List.flatMap_cons]
      exact first.append done
    · rw [List.map_append, hdrawn, hmore]
      rfl

/-- Sprites are drawn run by run, each with its texture and its part of the buffer. The attributes
are released once, behind the last run. -/
theorem Fit.shows_sprites (fit : a.Fit samplers) {target : Target}
    {k : Option (Handle .framebuffer) × Int32 × Int32} (hk : a.canvas target = some k)
    {mode : SpriteMode} {id : BufferId} {b : InstanceBuffer} (hb : a.buffers.lookup id = some b)
    {calls : List DrawCall}
    (known : ∀ run ∈ calls, ∃ atlas, a.atlases.lookup run.texture = some atlas) :
    a.Shows samplers (aim k ++ a.spriteCommands mode b calls)
    (calls.map (.sprites target mode id)) := by
  intro m hm
  obtain ⟨m', idle, hp, prepared⟩ := hm.prepare samplers fit.programs
    (mem_places (f := a.spriteProgram mode) (by cases mode <;> simp [spriteProgram]))
      k a.view .alpha
  have bare : square a = .lay 1 [] ∘ square a := funext fun v => VertexArray.lay_nil.symm
  obtain ⟨drawn, us, units, c, hu, runs, hdrawn⟩ :=
    exists_does_runs samplers hk hb idle hp known [] (Nat.zero_le _)
    m'.textures a.corners
  rw [← bare] at runs
  refine ⟨_, _, prepared _ _ _
    ((does_bindSquare a).append (runs.append (does_releaseInstances spriteFields))),
    ?_, ?_⟩
  · simpa [Function.comp_def] using hdrawn
  · exact Idle.release (m := { m' with textures := units })
      ⟨idle.unit, idle.arrays, idle.uniforms⟩ hu c

/-! ### Each call -/

/-- What is known of some commands agrees with what should be drawn: either both are refused, for
one reason, or the commands show the drawings. -/
def Agrees (a : Adapter) (samplers : Handle .program → List Nat)
    (known : Except RenderError (List Command))
    (drawings : Except RenderError (List Drawing)) : Prop :=
  (∃ e, known = .error e ∧ drawings = .error e) ∨
    ∃ cs ds, known = .ok cs ∧ drawings = .ok ds ∧ a.Shows samplers cs ds

/-- Commands that show the drawings agree with them. -/
theorem agrees_ok (h : a.Shows samplers cs ds) : a.Agrees samplers (.ok cs) (.ok ds) :=
  .inr ⟨cs, ds, rfl, rfl, h⟩

/-- A refusal agrees with the same refusal. -/
theorem agrees_error (e : RenderError) : a.Agrees samplers (.error e) (.error e) :=
  .inl ⟨e, rfl, rfl⟩

/-- Commands that draw nothing, and keep the state idle. -/
theorem agrees_nil
    (h : ∀ m : Machine, m.Idle a.places → ∃ m', m.Does samplers cs [] m' ∧ m'.Idle a.places) :
    a.Agrees samplers (.ok cs) (.ok []) := by
  refine agrees_ok fun m hm => ?_
  obtain ⟨m', done, idle⟩ := h m hm
  exact ⟨[], m', done, rfl, idle⟩

/-- Nothing to draw agrees with no command. -/
theorem agrees_skip : a.Agrees samplers (.ok []) (.ok []) :=
  agrees_nil fun m hm => ⟨m, does_nil, hm⟩

/-- A target is bound first. -/
theorem agrees_bound {target : Target}
    (h : ∀ k, a.canvas target = some k → a.Shows samplers (aim k ++ cs) ds) :
    a.Agrees samplers (do return (← a.bindTarget target) ++ cs)
    (do a.tables.reach target; return ds) := by
  rcases bindTarget_cases a target with ⟨e, hb, hr⟩ | ⟨k, hk, hb, hr⟩
  · rw [hb, hr]
    exact agrees_error e
  · rw [hb, hr]
    exact agrees_ok (h k hk)

/-- A channel samples the texture of what it reads. -/
theorem channelTexture_eq (output : Target) (slot : Nat) :
    a.channelTexture output slot = (a.tables.channel output slot).map a.channelOf := by
  rw [channelTexture, Tables.channel]
  rcases target?_cases a slot with ⟨e, he, hr⟩ | ⟨t, ht, hok, hr⟩
  · rw [he, hr]
    rfl
  · rw [hok, hr]
    refine congrArg Except.ok ?_
    split
    · rfl
    · simp [channelOf, ht]

/-- Which textures are bound is settled by the tables, in the same order of checks; the adapter only
looks up the handles. -/
theorem channelTextures_eq (inputs : List Nat) (output : Target) :
    a.channelTextures inputs output = (a.tables.channels inputs output).map
    (List.map a.channelOf) := by
  have loop : ∀ slots : List Nat, slots.mapM (a.channelTexture output) =
      (slots.mapM (a.tables.channel output)).map (List.map a.channelOf) := by
    intro slots
    induction slots with
    | nil => rfl
    | cons slot slots ih =>
      rw [List.mapM_cons, List.mapM_cons, ih, channelTexture_eq]
      cases a.tables.channel output slot with
      | error e => rfl
      | ok c => cases slots.mapM (a.tables.channel output) <;> rfl
  rw [channelTextures, Tables.channels, loop]
  cases hu : (inputs.take maxChannels).mapM (a.tables.channel output) with
  | error e => rfl
  | ok used =>
    refine congrArg Except.ok ?_
    simp [channelOf]

/-- Where nothing is lacking an effect is run. -/
theorem exists_commands_runProgram {name : String} {inputs : List Nat} {output : Target}
    {channels : List (Option Nat)} (uniforms : List Scalar) (clear : Option Color)
    (known : a.tables.effects.contains name = true)
    (hc : a.tables.channels inputs output = .ok channels) (hr : a.tables.reach output = .ok ()) :
    ∃ e k, a.effects.lookup name = some e ∧ a.canvas output = some k ∧
    a.bindTarget output = .ok (aim k) ∧
      a.commands (.runProgram name inputs output uniforms clear) =
        .ok (aim k ++ a.effectCommands e (channels.map a.channelOf) uniforms clear) := by
  rcases bindTarget_cases a output with ⟨e, -, he⟩ | ⟨k, hk, hb, -⟩
  · rw [hr] at he
    cases he
  cases he : a.effects.lookup name with
  | none =>
    rw [tables, not_contains_of_lookup he] at known
    cases known
  | some e =>
    refine ⟨e, k, rfl, hk, hb, ?_⟩
    rw [commands, he, channelTextures_eq, hc, hb]
    rfl

/-- **The commands of a call that makes no objects draw just what the call should draw**, from
whatever idle state, or both are refused for one reason. -/
theorem Fit.agrees_commands (fit : a.Fit samplers) {c : LitTiles.Command} (hc : c.SparesObjects) :
    a.Agrees samplers (a.commands c) (a.tables.drawings c) := by
  cases c with
  | loadTexture t => exact hc.elim
  | compileProgram name p => exact hc.elim
  | configureTargets surface sizes => exact hc.elim
  | writeInstances id instances =>
    rw [commands]
    split
    · exact agrees_skip
    · exact agrees_nil fun m hm => ⟨_, ⟨rfl, rfl⟩, hm.unit, hm.arrays, hm.uniforms⟩
  | beginFrame view =>
    refine agrees_nil fun m hm => ⟨_, ⟨?_, rfl⟩, ?_⟩
    · cases a.vertexArray <;> rfl
    · cases a.vertexArray with
      | none => exact hm
      | some v => exact ⟨hm.unit, hm.arrays, hm.uniforms⟩
  | clear target color => exact agrees_bound fun k hk => shows_fill hk color
  | drawSprites target mode id calls =>
    -- both sides look for the first texture that is not loaded
    have unknown : (fun c : DrawCall => (a.atlases.lookup c.texture).isNone) =
        fun c => !a.tables.textures.contains c.texture :=
        funext fun c => isNone_lookup a.atlases c.texture
    rw [commands, Tables.drawings, unknown]
    cases hf : calls.find? fun c => !a.tables.textures.contains c.texture with
    | some c => exact agrees_error _
    | none =>
      have known : ∀ run ∈ calls, ∃ atlas, a.atlases.lookup run.texture = some atlas := by
        intro run hr
        have hn := List.find?_eq_none.mp hf run hr
        rw [← congrFun unknown run] at hn
        exact Option.isSome_iff_exists.mp (Option.isSome_iff_ne_none.mpr fun hx =>
          hn (by rw [hx]; rfl))
      dsimp only
      cases hb : a.buffers.lookup id with
      | none =>
        rw [tables, not_contains_of_lookup hb]
        exact agrees_skip
      | some b =>
        rw [tables, contains_of_lookup hb]
        dsimp only
        cases hc : calls.isEmpty with
        | true => exact agrees_skip
        | false => exact agrees_bound fun k hk => fit.shows_sprites hk hb known
  | drawLight target light => exact agrees_bound fun k hk => fit.shows_light hk light
  | drawShadows target corners =>
    rw [commands, Tables.drawings]
    split
    · exact agrees_skip
    · exact agrees_bound fun k hk => fit.shows_shadows hk corners
  | runProgram name inputs output uniforms clear =>
    -- drawing and commands look the effect up first, then its channels, in the same order
    rw [commands, Tables.drawings]
    cases he : a.effects.lookup name with
    | none =>
      rw [tables, not_contains_of_lookup he]
      exact agrees_error _
    | some e =>
      rw [show a.tables.effects.contains name = true from contains_of_lookup he, channelTextures_eq]
      cases hch : a.tables.channels inputs output with
      | error e => exact agrees_error e
      | ok channels =>
        exact agrees_bound fun k hk =>
          fit.shows_effect hk he (Tables.length_channels hch) uniforms clear
  | endFrame => exact agrees_nil fun m hm => ⟨_, ⟨rfl, rfl⟩, hm.unit, hm.arrays, hm.uniforms⟩

end Adapter

end LitTiles.Gl
