import LitTiles.Proofs.Gl.Flawless
import LitTiles.Proofs.Wgpu.Flawless
import Mathlib.Algebra.Group.Nat.Defs

/-!
# Adapters agree

An adapter on a driver and one on a device that are asked for the same do the same, if neither the
driver nor the device refuses anything: their answers agree, and their draws come in rows, each of
which shows one drawing (`adapters_agree`). Both adapters obey the tables, so all that is needed is
that the tables stay the same (`Matched`).

How many instances or vertices a draw takes, and which, is read off the draw itself (`Span`).
-/

namespace LitTiles

/-! ## Requests -/

/-- Two calls ask for the same. Programs come as text for drivers, or as text for devices. -/
inductive Call.Alike : Call → Call → Prop
  /-- An effect in two languages. -/
  | program (name : String) (p : EffectProgram) (vertex fragment text : String) :
      Alike (.issue (.compileProgram name { p with source := .glsl vertex fragment }))
        (.issue (.compileProgram name { p with source := .wgsl text }))
  /-- Anything else. -/
  | same (c : Call) (h : ∀ name p, c ≠ .issue (.compileProgram name p)) : Alike c c

/-- What both adapters are asked for. -/
structure Request where
  /-- The call to the adapter on a driver. -/
  gl : Call
  /-- The call to the adapter on a device. -/
  wgpu : Call
  /-- They ask for the same. -/
  alike : gl.Alike wgpu

/-- All that draws comes between the beginning of a frame and its end. -/
def Framed (calls : List Call) : Prop :=
  Throughout (fun before c => c.isDrawing = true → before.foldl Call.inFrame false = true) calls

instance (calls : List Call) : Decidable (Framed calls) :=
  inferInstanceAs (Decidable (Throughout _ calls))

namespace Request

variable (r : Request) (t : Tables)

/-- What two requests of a pair do to the tables is the same: the text of a program is not kept
there. -/
theorem after_eq : t.after r.wgpu = t.after r.gl := by
  obtain ⟨c, c', alike⟩ := r
  cases alike <;> rfl

/-- What the tables say to both is the same. -/
theorem reply_eq : t.reply r.wgpu = t.reply r.gl := by
  obtain ⟨c, c', alike⟩ := r
  cases alike <;> rfl

/-- Neither request of a pair should draw what the other should not. -/
theorem drawn_eq : t.drawn r.wgpu = t.drawn r.gl := by
  obtain ⟨c, c', alike⟩ := r
  cases alike <;> rfl

theorem isDrawing_eq : r.wgpu.isDrawing = r.gl.isDrawing := by
  obtain ⟨c, c', alike⟩ := r
  cases alike <;> rfl

/-- A frame begins with both or with neither. -/
theorem inFrame_eq (before : Bool) : r.wgpu.inFrame before = r.gl.inFrame before := by
  obtain ⟨c, c', alike⟩ := r
  cases alike <;> rfl

/-- A program in a request to a driver comes as a pair of GLSL texts. -/
theorem exists_glsl {name : String} {p : EffectProgram}
    (h : r.gl = .issue (.compileProgram name p)) :
    ∃ vertex fragment, p.source = .glsl vertex fragment := by
  obtain ⟨c, c', alike⟩ := r
  cases alike with
  | program name' p' vertex fragment text =>
    obtain ⟨-, rfl⟩ := Command.compileProgram.inj (Call.issue.inj h)
    exact ⟨vertex, fragment, rfl⟩
  | same c other => exact absurd h (other name p)

/-- A program in a request to a device comes as one WGSL text. -/
theorem exists_wgsl {name : String} {p : EffectProgram}
    (h : r.wgpu = .issue (.compileProgram name p)) :
    ∃ text, p.source = .wgsl text := by
  obtain ⟨c, c', alike⟩ := r
  cases alike with
  | program name' p' vertex fragment text =>
    obtain ⟨-, rfl⟩ := Command.compileProgram.inj (Call.issue.inj h)
    exact ⟨text, rfl⟩
  | same c other => exact absurd h (other name p)

end Request

/-! ## Ranges -/

/-- A range of instances, or of vertices if there is but one instance. -/
structure Span where
  /-- The first one. -/
  first : Int
  /-- How many there are. -/
  count : Int

namespace Drawing

/-- The range that is drawn. Effects cover their target, in whatever way. -/
def span : Drawing → Option Span
  | .sprites _ _ _ run => some ⟨run.offset.toNat, run.count.toNat⟩
  | .light _ _ => some ⟨0, 1⟩
  | .shadows _ corners => some ⟨0, corners.length⟩
  | .fill _ _ | .effect _ _ _ _ => none

/-- The range ends within the first two gibibytes of its buffer. Buffers of devices are shorter than
that. -/
def Within : Drawing → Prop
  | .sprites _ _ _ run => (run.offset.toNat + run.count.toNat) * SpriteInstance.stride < 2 ^ 31
  | .shadows _ corners => corners.length < 2 ^ 31
  | _ => True

end Drawing

/-- The range of a draw on a driver. Where instances start is where the first attribute does that
belongs to them. -/
def Gl.Drawn.span : Gl.Drawn → Option Span
  | .fill _ _ => none
  | .triangles d =>
    match d.vertices with
    | .consecutive n => some ⟨0, n.toInt⟩
    | .indexed _ _ => none
    | .instanced _ _ n => (d.attributes 1).map fun t => ⟨t.offset.toInt / t.stride.toInt, n.toInt⟩

/-- The range of a draw on a device. -/
def Wgpu.Drawn.span : Wgpu.Drawn → Option Span
  | .fill _ _ => none
  | .vertices _ n => some ⟨0, n⟩
  | .indexed _ _ first last => some ⟨first.toNat, last.toNat - first.toNat⟩

/-- Thirty-two bits mean the same number as a size. -/
theorem toInt32_eq_signedSize (n : UInt32) : n.toInt32 = Gl.signedSize n.toNat := by
  rw [Gl.signedSize, ← Int32.toBitVec_inj]
  simp

/-- An offset in bytes, reckoned in 32 bits, is that of the sizes, whether or not it overflows. -/
theorem toInt32_mul_signedSize (n : UInt32) (stride : Nat) :
    n.toInt32 * Gl.signedSize stride = Gl.signedSize (n.toNat * stride) := by
  rw [toInt32_eq_signedSize, Gl.signedSize, Gl.signedSize, Gl.signedSize, Int32.ofNat_mul]

/-- Below 2³¹ a number is not turned negative by its type. -/
theorem toInt_toInt32_of_lt {n : UInt32} (h : n.toNat < 2 ^ 31) : n.toInt32.toInt = n.toNat := by
  rw [toInt32_eq_signedSize]
  exact Int32.toInt_ofNat_of_lt h

/-- What is drawn at once is triangles of given vertices, which are read from given attributes. -/
theorem Gl.Adapter.of_draw {samplers : Handle .program → List Nat} {a : Gl.Adapter}
    {target : Target} {program : Handle .program} {uniforms : List Gl.Command} {mode : BlendMode}
    {units : Nat → Option (Handle .texture)} {attributes : List Attribute}
    {vertices : Machine.Vertices} {x : Gl.Drawn}
    (h : a.draw samplers target program uniforms mode units attributes vertices = some x) :
    ∃ d : Gl.Draw, x = .triangles d ∧ d.vertices = vertices ∧ d.attributes = fun l =>
    attributes[l]? := by
  obtain ⟨k, -, rfl⟩ := Option.map_eq_some_iff.mp h
  exact ⟨_, rfl, rfl, rfl⟩

/-- Where instances start is read off the first attribute that belongs to them. -/
theorem Gl.span_of_instances {d : Gl.Draw} {square instances : Handle .buffer}
    {indices : Option (Handle .buffer)} {components points count : Int32}
    {fields : List InstanceField} {stride first : Nat} (hs : 0 < stride) (hb : stride < 2 ^ 31)
    (hf : first * stride < 2 ^ 31) (hv : d.vertices = .instanced indices points count)
    (ha : d.attributes = fun l => (Attribute.corner square :: (⟨components, 0⟩ :: fields).map
      (·.attribute instances (signedSize stride) (signedSize (first * stride))))[l]?) :
    (Drawn.triangles d).span = some ⟨first, count.toInt⟩ := by
  have start : (signedSize (first * stride) + 0).toInt / (signedSize stride).toInt = first := by
    rw [Int32.add_zero, signedSize, signedSize, Int32.toInt_ofNat_of_lt hf,
      Int32.toInt_ofNat_of_lt hb, Int.natCast_mul, Int.mul_ediv_cancel _ (by omega)]
  rw [Drawn.span]
  simp only [hv, ha, List.map_cons, List.getElem?_cons_succ,
    List.getElem?_cons_zero, Option.map_some]
  exact congrArg (fun n => some (Span.mk n count.toInt)) start

/-- The range of a draw on a driver is the one of the drawing, as long as its bytes can be
counted. -/
theorem Gl.Adapter.span_of_shown {samplers : Handle .program → List Nat}
    {a : Gl.Adapter} {d : Drawing} {x : Gl.Drawn} {k : Span} (h : a.shown samplers d = some x)
    (hd : d.Within) (hk : d.span = some k) :
    x.span = some k := by
  cases d with
  | fill target color => cases hk
  | sprites target mode id run =>
    obtain rfl := Option.some.inj hk
    obtain ⟨b, -, h⟩ := Option.bind_eq_some_iff.mp h
    obtain ⟨atlas, -, h⟩ := Option.bind_eq_some_iff.mp h
    obtain ⟨d, rfl, vertices, attributes⟩ := of_draw h
    -- the first instance is found from the offset of an attribute, which must not have wrapped
    have bound : (run.offset.toNat + run.count.toNat) * 64 < 2 ^ 31 := hd
    rw [toInt32_mul_signedSize] at attributes
    rw [span_of_instances (by decide) (by decide) (by change run.offset.toNat * 64 < _; omega)
      vertices attributes, toInt_toInt32_of_lt (by omega)]
  | light target light =>
    obtain rfl := Option.some.inj hk
    obtain ⟨d, rfl, vertices, attributes⟩ := of_draw h
    exact @span_of_instances _ _ _ _ _ _ _ _ LightInstance.stride 0 (by decide) (by decide)
      (by decide) vertices attributes
  | shadows target corners =>
    obtain rfl := Option.some.inj hk
    obtain ⟨d, rfl, vertices, -⟩ := of_draw h
    have count : (signedSize corners.length).toInt = corners.length := Int32.toInt_ofNat_of_lt hd
    simp only [Gl.Drawn.span, vertices, count]
  | effect name channels output uniforms => cases hk

/-- The range of a draw on a device is the one of the drawing. -/
theorem Wgpu.Adapter.Shows.span_eq {a : Wgpu.Adapter} {d : Drawing} {x : Wgpu.Drawn} {k : Span}
    (h : a.Shows d x) (hd : d.Within) (hk : d.span = some k) : x.span = some k := by
  cases h with
  | fill hv color => cases hk
  | @sprites target v id b run atlas hv hb ha mode resources =>
    obtain rfl := Option.some.inj hk
    have bound : (run.offset.toNat + run.count.toNat) * 64 < 2 ^ 31 := hd
    have last : (run.offset + run.count).toNat = run.offset.toNat + run.count.toNat := by
      rw [UInt32.toNat_add, Nat.mod_eq_of_lt (by omega)]
    rw [Wgpu.Drawn.span, last]
    exact congrArg (fun n => some (Span.mk run.offset.toNat n)) (by omega)
  | light hv light slice resources => exact hk
  | shadows hv corners slice resources => exact hk
  | effect => cases hk

/-! ## Agreement -/

/-- A drawing with the draw that shows it on a driver, and the one that shows it on a device. -/
structure Row (samplers : Gl.Handle .program → List Nat) (a : Gl.Adapter) (b : Wgpu.Adapter) where
  /-- The drawing. -/
  drawing : Drawing
  /-- The draw on the driver. -/
  gl : Gl.Drawn
  /-- The draw on the device. -/
  wgpu : Wgpu.Drawn
  /-- The driver shows the drawing. -/
  gl_shows : a.shown samplers drawing = some gl
  /-- The device shows the drawing. -/
  wgpu_shows : b.Shows drawing wgpu

section Rows

variable {samplers : Gl.Handle .program → List Nat} {a : Gl.Adapter} {b : Wgpu.Adapter}

/-- Where two adapters show the same drawings one after the other, their draws come in rows. -/
theorem exists_rows {ds : List Drawing} {xs : List Gl.Drawn} {ys : List Wgpu.Drawn}
    (hx : xs.map some = ds.map (a.shown samplers)) (hy : List.Forall₂ b.Shows ds ys) :
    ∃ rows : List (Row samplers a b),
      rows.map (·.drawing) = ds ∧ rows.map (·.gl) = xs ∧ rows.map (·.wgpu) = ys := by
  induction hy generalizing xs with
  | nil =>
    obtain rfl := List.map_eq_nil_iff.mp hx
    exact ⟨[], rfl, rfl, rfl⟩
  | @cons d y ds ys shows _ ih =>
    cases xs with
    | nil => cases hx
    | cons x xs =>
      obtain ⟨hd, hxs⟩ := List.cons.inj hx
      obtain ⟨rows, drawings, gls, wgpus⟩ := ih hxs
      refine ⟨⟨d, x, y, hd.symm, shows⟩ :: rows, ?_, ?_, ?_⟩
      · rw [List.map_cons, drawings]
      · rw [List.map_cons, gls]
      · rw [List.map_cons, wgpus]

end Rows

/-- An adapter on a driver and one on a device agree on a request. -/
structure Agree (samplers : Gl.Handle .program → List Nat) (g : Gl.Session)
    (w : Wgpu.Session) (r : Request) :
    Prop where
  /-- The answers are equal, numbers of new buffers included, or are errors of one variant. -/
  reply : SameReply (r.gl.reply (g.perform r.gl).1) (r.wgpu.reply (w.perform r.wgpu).1)
  /-- All draws come in rows, one for each drawing that is asked for, and both draws of a row have
  its range. -/
  draws : ∃ cs ds, (g.perform r.gl).2.context.commands.toList = g.context.commands.toList ++ cs ∧
    (w.perform r.wgpu).2.platform.commands = w.platform.commands ++ ds ∧
    ∃ rows : List (Row samplers g.adapter w.adapter),
      rows.map (·.drawing) = g.adapter.tables.drawn r.gl ∧
      rows.map (·.gl) = (Gl.Machine.after {} g.context.commands.toList).draws samplers cs ∧
      rows.map (·.wgpu) = (Wgpu.Recorder.after {} w.platform.commands).draws ds ∧
      ∀ row ∈ rows, row.drawing.Within → ∀ k, row.drawing.span = some k →
        row.gl.span = some k ∧ row.wgpu.span = some k
  /-- The units of the driver hold what the channels of an effect read. Groups of the device do so
  by `Wgpu.Adapter.Shows.effect`. -/
  channels : ∀ name channels output uniforms,
    .effect name channels output uniforms ∈ g.adapter.tables.drawn r.gl →
    channels.length = maxChannels ∧ ∀ i < maxChannels,
      (Gl.Machine.after {} (g.perform r.gl).2.context.commands.toList).textures i =
        channels[i]?.map g.adapter.channelOf

/-- Two sessions that were asked for the same so far, on hosts that refuse nothing. -/
structure Matched (g : Gl.Session) (w : Wgpu.Session) (framed : Bool) : Prop where
  /-- They know the same. -/
  tables : w.adapter.tables = g.adapter.tables
  /-- The device records a frame while one is under way. -/
  frame : w.adapter.frame.isSome = framed
  /-- The driver refuses nothing. -/
  driver : g.context.host.Flawless
  /-- The device refuses nothing. -/
  device : w.platform.host.Flawless

section Sessions

variable {samplers : Gl.Handle .program → List Nat} {g : Gl.Session} {w : Wgpu.Session}
  {lost : List Gl.Object} {framed : Bool}

/-- Both sessions obey the tables when they are asked for the same. -/
theorem Matched.obey (h : Matched g w framed) (rests : g.Rests samplers)
    (held : g.Holds lost) (r : Request) (hr : r.gl.isDrawing = true → framed = true) :
    g.Obeys r.gl (g.perform r.gl).1 (g.perform r.gl).2 ∧
      w.Obeys r.wgpu (w.perform r.wgpu).1 (w.perform r.wgpu).2 := by
  refine ⟨Gl.Session.obeys_perform h.driver (rests.fit held) r.gl fun name p => r.exists_glsl, ?_⟩
  refine Wgpu.Session.obeys_perform h.device r.wgpu (fun name p => r.exists_wgsl) fun hd => ?_
  rw [h.frame]
  exact hr (r.isDrawing_eq ▸ hd)

/-- A pair of requests keeps the adapters matched, as both obey the same tables. -/
theorem Matched.perform (h : Matched g w framed) (rests : g.Rests samplers)
    (held : g.Holds lost) (r : Request) (hr : r.gl.isDrawing = true → framed = true) :
    Matched (g.perform r.gl).2 (w.perform r.wgpu).2 (r.gl.inFrame framed) := by
  obtain ⟨og, ow⟩ := h.obey rests held r hr
  refine ⟨?_, ?_, og.host ▸ h.driver, ow.host ▸ h.device⟩
  · rw [ow.tables, og.tables, h.tables, r.after_eq]
  · rw [ow.frame, h.frame, r.inFrame_eq]

/-- And what they answer and draw agrees: either both refuse, or they show the same drawings one by
one. -/
theorem Matched.agree (h : Matched g w framed) (rests : g.Rests samplers)
    (held : g.Holds lost) (r : Request) (hr : r.gl.isDrawing = true → framed = true) :
    Agree samplers g w r := by
  obtain ⟨og, ow⟩ := h.obey rests held r hr
  obtain ⟨cs, gave, shown, -⟩ := rests.answered held r.gl
  obtain ⟨ds, gave', shows⟩ := ow.draws
  have shows := shows (Wgpu.Recorder.after {} w.platform.commands)
  rw [h.tables, r.drawn_eq] at shows
  obtain ⟨rows, drawings, gls, wgpus⟩ := exists_rows shown shows
  refine ⟨?_, ⟨cs, ds, gave, gave', rows, drawings, gls, wgpus, ?_⟩, ?_⟩
  · have reply := ow.reply
    rw [h.tables, r.reply_eq, ← og.reply] at reply
    exact reply.symm
  · exact fun row _ within k hk =>
      ⟨Gl.Adapter.span_of_shown row.gl_shows within hk, row.wgpu_shows.span_eq within hk⟩
  · intro name channels output uniforms hd
    obtain ⟨inputs, clear, -, -, hc, -⟩ := Tables.of_effect_mem_drawn hd
    exact ⟨Tables.length_channels hc, fun i hi => rests.textures_of_effect held hd hi⟩

variable {interface : Interface} {size size' : SurfaceSize} {host : Gl.Host} {o : DeviceOptions}
  {window : WindowId} {p : Platform}

/-- Two sessions know nothing at the start. -/
theorem matched_start (hg : Gl.Session.start interface size { host := host } = .ok g)
    (hw : Wgpu.Session.start size' o window p = .ok w) (driver : host.Flawless)
    (device : p.host.Flawless) :
    Matched g w false := by
  obtain ⟨same, frame, tables⟩ := Wgpu.Session.of_start hw
  refine ⟨?_, by rw [frame]; rfl, ?_, same ▸ device⟩
  · rw [tables, Gl.Session.tables_start hg]
  · exact (Gl.Session.holds_start hg).2.1.host ▸ driver

theorem matched_serve (hg : Gl.Session.start interface size { host := host } = .ok g)
    (hw : Wgpu.Session.start size' o window p = .ok w)
    (rule : Throughout (Gl.SamplesDeclared samplers) g.context.commands.toList)
    (driver : host.Flawless) (device : p.host.Flawless) (requests : List Request)
    (framed : Framed (requests.map (·.gl))) :
    Matched (g.serve (requests.map (·.gl))) (w.serve (requests.map (·.wgpu)))
      ((requests.map (·.gl)).foldl Call.inFrame false) := by
  induction requests using List.reverseRecOn with
  | nil => exact matched_start hg hw driver device
  | append_singleton requests r ih =>
    rw [List.map_append, List.map_singleton] at framed
    obtain ⟨before, hr⟩ := throughout_concat.mp framed
    obtain ⟨rests, -⟩ := Gl.Session.rests_serve hg rule (requests.map (·.gl))
    obtain ⟨lost, held⟩ := Gl.Session.exists_holds hg (requests.map (·.gl))
    simp only [List.map_append, List.map_singleton, Gl.Session.serve_append,
      Wgpu.Session.serve_append, List.foldl_append]
    exact (ih before).perform rests held r hr

/-- **Adapters agree.** An adapter on a driver and one on a device that refuse nothing are asked for
the same from the start, and what draws comes while a frame is under way. Then they agree on every
request. -/
theorem adapters_agree (hg : Gl.Session.start interface size { host := host } = .ok g)
    (hw : Wgpu.Session.start size' o window p = .ok w)
    (rule : Throughout (Gl.SamplesDeclared samplers) g.context.commands.toList)
    (driver : host.Flawless) (device : p.host.Flawless) (requests : List Request)
    (framed : Framed (requests.map (·.gl))) :
    Throughout (fun before r => Agree samplers (g.serve (before.map (·.gl)))
      (w.serve (before.map (·.wgpu))) r)
      requests := by
  intro before r after he
  have split : requests.map (·.gl) = before.map (·.gl) ++ r.gl :: after.map (·.gl) := by
    rw [he, List.map_append, List.map_cons]
  have matched :=
    matched_serve hg hw rule driver device before (Throughout.of_append (split ▸ framed))
  obtain ⟨rests, -⟩ := Gl.Session.rests_serve hg rule (before.map (·.gl))
  obtain ⟨lost, held⟩ := Gl.Session.exists_holds hg (before.map (·.gl))
  exact matched.agree rests held r (framed _ _ _ split)

end Sessions

/-- A frame with some mistakes: sprites go to a target that does not exist, then to the surface, and
an effect reads the target that it is drawn to. -/
def frameWithMistakes : List Request :=
  [⟨_, _, .same (.createBuffer 4) nofun⟩,
   ⟨_, _, .same (.issue (.loadTexture ⟨"atlas", 1, 1, [0, 0, 0, 0]⟩)) nofun⟩,
   ⟨_, _, .program "copy" (.ofEffect .wgsl .empty .replace) "vertex" "fragment" "both"⟩,
   ⟨_, _, .same (.issue (.configureTargets ⟨4, 4⟩ [⟨4, 4⟩, ⟨2, 2⟩])) nofun⟩,
   ⟨_, _, .same (.issue (.beginFrame ⟨⟨0, 0⟩, ⟨2, 2⟩⟩)) nofun⟩,
   ⟨_, _, .same (.issue (.drawSprites (.offscreen 2) .color ⟨0⟩ [⟨"atlas", 0, 1⟩])) nofun⟩,
   ⟨_, _, .same (.issue (.drawSprites .surface .mask ⟨0⟩ [⟨"atlas", 0, 1⟩, ⟨"atlas", 2, 2⟩]))
     nofun⟩,
   ⟨_, _, .same (.issue (.runProgram "copy" [1, 0] (.offscreen 0) [4, 4, 0] none)) nofun⟩,
   ⟨_, _, .same (.issue .endFrame) nofun⟩]

/-- On a driver and a device without refusals the two adapters agree on each request of this frame,
the two mistakes included. -/
theorem adapters_agree_frameWithMistakes :
    ∃ g w, Gl.Session.start .gles3 ⟨4, 4⟩ { host := {} } = .ok g ∧
      Wgpu.Session.start ⟨4, 4⟩ {} default {} = .ok w ∧ Framed (frameWithMistakes.map (·.gl)) ∧
      Throughout (fun before r =>
        Agree Gl.Session.spriteSamplers (g.serve (before.map (·.gl)))
        (w.serve (before.map (·.wgpu))) r)
        frameWithMistakes := by
  have started : ((Wgpu.Session.start ⟨4, 4⟩ {} default {}).toOption.any fun _ => true) = true := by
    decide +kernel
  have framed : Framed (frameWithMistakes.map (·.gl)) := by decide +kernel
  obtain ⟨g, hg, rule⟩ :=
    @Gl.Session.start_of_declared Gl.Session.spriteSamplers .gles3 ⟨4, 4⟩ { host := {} }
    (by decide +kernel)
  obtain ⟨w, hw, -⟩ := exists_ok_of_any started
  exact ⟨g, w, hg, hw, framed, adapters_agree hg hw rule ⟨fun _ _ => rfl, fun _ => rfl, fun _ =>
    rfl, fun _ => rfl⟩
    ⟨fun _ => rfl, fun _ => rfl⟩ frameWithMistakes framed⟩

end LitTiles
