import LitTiles.Batch.Mirror
import LitTiles.Proofs.Backend.Agreement
import LitTiles.Proofs.Batch.Runs
import LitTiles.Proofs.Gl.Storage
import LitTiles.Proofs.Program.StructureLayout
import LitTiles.Proofs.Wgpu.Footage

/-!
# Which instances a run of sprites reads

A device is told the range of instances that it draws. A driver is told where the first one of them
starts, in bytes, in 32 signed bits, and so is the size of the buffer. `reads_exact` says when no
bit of this is lost: buffers of less than 2²⁵ instances have the size that was meant, each field of
each instance of a run is read from its own bytes, these lie within the buffer, and the instances
are those of the range that a device draws. One instance more is too many (`reservation_eq_iff`).
-/

namespace LitTiles

/-! ## Instances in memory -/

namespace SpriteInstance

variable {x : SpriteInstance} {xs : List SpriteInstance} {i k o w : Nat}

/-- The floats of an instance, by field. -/
def parts (x : SpriteInstance) : List (List Scalar) :=
  [x.position.toList, x.size.toList, x.uvMin.toList, x.uvMax.toList, x.tint.toList, x.mask.toList]

/-- Instances as they are written to a buffer. -/
def memory (xs : List SpriteInstance) : List UInt8 := xs.flatMap fun x => floatBytes x.toList

theorem memory_eq (xs : List SpriteInstance) : memory xs = floatBytes (xs.flatMap toList) := by
  induction xs with
  | nil => rfl
  | cons x xs ih =>
    rw [List.flatMap_cons, floatBytes_append, ← ih]
    rfl

theorem drop_flatMap_toList (xs : List SpriteInstance) (i : Nat) :
    (xs.flatMap toList).drop (16 * i) = (xs.drop i).flatMap toList := by
  induction i generalizing xs with
  | zero => rfl
  | succ i ih =>
    cases xs with
    | nil => simp
    | cons x xs =>
      rw [List.drop_succ_cons, ← ih, List.flatMap_cons, Nat.mul_succ, Nat.add_comm,
        ← List.drop_drop, List.drop_left' x.length_toList]

/-- Part of an instance is found in its place among the bytes. -/
theorem slice_memory (hx : xs[i]? = some x) (hw : o + w ≤ 16) :
    ((memory xs).drop (4 * (16 * i + o))).take (4 * w) = floatBytes ((x.toList.drop o).take w) := by
  obtain ⟨hi, rfl⟩ := List.getElem?_eq_some_iff.mp hx
  have here : (xs.flatMap toList).drop (16 * i) = xs[i].toList ++
      (xs.drop (i + 1)).flatMap toList := by
    rw [drop_flatMap_toList, List.drop_eq_getElem_cons hi, List.flatMap_cons]
  have room : w ≤ (xs[i].toList.drop o).length := by
    rw [List.length_drop, length_toList]
    omega
  have start : o ≤ xs[i].toList.length := by
    rw [length_toList]
    omega
  rw [memory_eq, ← floatBytes_drop, ← floatBytes_take, ← List.drop_drop, here,
    List.drop_append_of_le_length start, List.take_append_of_le_length room]

end SpriteInstance

/-! ## Bytes of an attribute -/

namespace Gl

variable {capacity : Nat}

/-- What is asked for a buffer is what is meant unless this takes 2³¹ bytes or more. -/
theorem reservation_eq_iff :
    reservation capacity = ((max capacity 1 * SpriteInstance.stride : Nat) : Int) ↔
    capacity < 2 ^ 25 := by
  have stride : SpriteInstance.stride = 64 := rfl
  rw [reservation, signedSize, stride]
  constructor
  · intro same
    have fits := Int32.toInt_lt (Int32.ofNat (max capacity 1 * 64))
    omega
  · intro small
    exact Int32.toInt_ofNat_of_lt (by omega)

namespace Attribute

/-- Where the item of an instance starts in the buffer, in bytes. -/
def address (t : Attribute) (j : Nat) : Int := t.offset.toInt + j * t.stride.toInt

/-- How many bytes an item has. -/
def width (t : Attribute) : Int := 4 * t.components.toInt

/-- What is read for an instance from a buffer with some contents. -/
def read (t : Attribute) (contents : List UInt8) (j : Nat) : List UInt8 :=
  (contents.drop (t.address j).toNat).take t.width.toNat

/-- What is read for an instance of a draw is a part of an instance: it lies within this instance
and within the buffer, and if instances were written to the buffer it is what was written for this
part. -/
structure ReadsPart (t : Attribute) (size : Nat) (instances : List SpriteInstance)
    (j i part : Nat) : Prop where
  /-- It starts within the instance. -/
  start : ((i * SpriteInstance.stride : Nat) : Int) ≤ t.address j
  /-- It ends within the instance. -/
  stop : t.address j + t.width ≤ ((i + 1) * SpriteInstance.stride : Nat)
  /-- It ends within the buffer. -/
  room : t.address j + t.width ≤ size
  /-- It is the part. -/
  bytes : ∃ x floats, instances[i]? = some x ∧ x.parts[part]? = some floats ∧
    t.read (SpriteInstance.memory instances) j = floatBytes floats

end Attribute

/-- A field is a part of an instance. -/
theorem exists_part {k : Nat} {f : InstanceField} (h : spriteFields[k]? = some f) :
    ∃ o w, f = ⟨signedSize w, signedSize (4 * o)⟩ ∧ o + w ≤ 16 ∧
      ∀ x : SpriteInstance, x.parts[k]? = some ((x.toList.drop o).take w) := by
  match k, h with
  | 0, rfl => exact ⟨0, 2, rfl, by decide, fun _ => rfl⟩
  | 1, rfl => exact ⟨2, 2, rfl, by decide, fun _ => rfl⟩
  | 2, rfl => exact ⟨4, 2, rfl, by decide, fun _ => rfl⟩
  | 3, rfl => exact ⟨6, 2, rfl, by decide, fun _ => rfl⟩
  | 4, rfl => exact ⟨8, 4, rfl, by decide, fun _ => rfl⟩
  | 5, rfl => exact ⟨12, 4, rfl, by decide, fun _ => rfl⟩

/-- An attribute that starts at an instance finds a part of it and of the instances behind it, as
long as these lie in the first two gibibytes. -/
theorem reads_part {k : Nat} {f : InstanceField} (hf : spriteFields[k]? = some f)
    (b : Handle .buffer) {instances : List SpriteInstance} {first j size : Nat}
    (hj : first + j < instances.length) (room : instances.length * SpriteInstance.stride ≤ size)
    (small : size < 2 ^ 31) :
    (f.attribute b (signedSize SpriteInstance.stride)
      (signedSize (first * SpriteInstance.stride))).ReadsPart size instances j (first + j) k := by
  obtain ⟨o, w, rfl, within, part⟩ := exists_part hf
  have stride : SpriteInstance.stride = 64 := rfl
  rw [stride] at room ⊢
  -- the attribute that field `k` is read by, with its strides and offsets as plain numbers; 2³¹ is
  -- far enough for none of them to wrap
  let t : Attribute := InstanceField.attribute b (signedSize 64) (signedSize (first * 64))
    ⟨signedSize w, signedSize (4 * o)⟩
  have offset : t.offset.toInt = (first * 64 + 4 * o : Nat) := by
    change (Int32.ofNat (first * 64) + Int32.ofNat (4 * o)).toInt = _
    rw [← Int32.ofNat_add]
    exact Int32.toInt_ofNat_of_lt (by omega)
  have address : t.address j = (4 * (16 * (first + j) + o) : Nat) := by
    have step : t.stride.toInt = (64 : Nat) := Int32.toInt_ofNat_of_lt (by decide)
    rw [Attribute.address, offset, step]
    omega
  have width : t.width = (4 * w : Nat) := by
    have components : t.components.toInt = w := Int32.toInt_ofNat_of_lt (by omega)
    rw [Attribute.width, components]
    omega
  change t.ReadsPart size instances j (first + j) k
  refine ⟨?_, ?_, ?_, ?_⟩
  · rw [stride, address]
    omega
  · rw [stride, address, width]
    omega
  · rw [address, width]
    omega
  -- the bytes at this address are the part of the instance, word for word
  · refine ⟨instances[first + j], _, List.getElem?_eq_getElem hj, part _, ?_⟩
    rw [Attribute.read, address, width, Int.toNat_natCast, Int.toNat_natCast]
    exact SpriteInstance.slice_memory (List.getElem?_eq_getElem hj) within

end Gl

/-! ## Runs -/

namespace Tables

/-- The runs that are drawn: all of them, or none where something is missing. -/
def runs (t : Tables) (target : Target) (id : BufferId) (calls : List DrawCall) : List DrawCall :=
  if (calls.all fun c => t.textures.contains c.texture) && t.buffers.contains id &&
    (t.reach target).isOk then calls
  else []

theorem drawn_drawSprites (t : Tables) (target : Target) (mode : SpriteMode) (id : BufferId)
    (calls : List DrawCall) :
    t.drawn (.issue (.drawSprites target mode id calls)) = (t.runs target id calls).map
    (.sprites target mode id) := by
  rw [drawn, drawings, runs]
  cases hf : calls.find? fun c => !t.textures.contains c.texture with
  | some c =>
    have missing : (calls.all fun c => t.textures.contains c.texture) = false := by
      refine List.all_eq_false.mpr ⟨c, List.mem_of_find?_eq_some hf, ?_⟩
      simpa using List.find?_some hf
    rw [missing]
    rfl
  | none =>
    have known : (calls.all fun c => t.textures.contains c.texture) = true := by
      refine List.all_eq_true.mpr fun c hc => ?_
      simpa using List.find?_eq_none.mp hf c hc
    rw [known]
    cases t.buffers.contains id with
    | false => rfl
    | true =>
      cases calls with
      | nil => cases (t.reach target).isOk <;> rfl
      | cons c calls => cases t.reach target <;> rfl

end Tables

/-- A draw on a driver reads the instances of a run from a buffer that instances were written to. -/
structure Gl.Draw.ReadsRun (d : Gl.Draw) (b : Gl.InstanceBuffer) (instances : List SpriteInstance)
    (run : DrawCall) : Prop where
  /-- As many instances are drawn as the run has. -/
  count : ∃ indices points n, d.vertices = .instanced indices points n ∧ n.toInt = run.count.toNat
  /-- There is an attribute for each field, which advances per instance and finds its part of every
  instance of the run. -/
  fields : ∀ k f, spriteFields[k]? = some f → ∃ t, d.attributes (k + 1) = some t ∧
    t.buffer = some b.buffer ∧ t.divisor = 1 ∧ ∀ j < run.count.toNat,
      t.ReadsPart (max b.capacity 1 * SpriteInstance.stride) instances j (run.offset.toNat + j) k
  /-- There are no others. -/
  others : ∀ l, spriteFields.length < l → d.attributes l = none

/-- A draw on a device reads the instances of a run, which lie within their buffer. -/
structure Wgpu.Drawn.ReadsRun (x : Wgpu.Drawn) (b : Wgpu.InstanceBuffer)
    (run : DrawCall) : Prop where
  /-- It draws a range, with the instances of this buffer. -/
  range : ∃ d points, x = .indexed d points run.offset (run.offset + run.count) ∧
    d.pass.vertices 1 = some b.slice
  /-- The end of the range is what it was meant to be. -/
  stop : (run.offset + run.count).toNat = run.offset.toNat + run.count.toNat
  /-- It lies within the buffer. -/
  room : run.offset.toNat + run.count.toNat ≤ b.capacity

/-- What holds of each item may be used where items are related to others. -/
theorem forall₂_of_forall {α β : Type} {P : α → Prop} {R S : α → β → Prop}
    {xs : List α} {ys : List β} (h : List.Forall₂ R xs ys) (hp : ∀ x ∈ xs, P x)
    (step : ∀ x y, P x → R x y → S x y) : List.Forall₂ S xs ys :=
  ((List.forall₂_and_left xs ys).mpr ⟨hp, h⟩).imp fun x y both => step x y both.1 both.2

variable {m : Mirror} {source : Layer}

/-- The runs of a mirror lie within what is kept of its layer. -/
theorem Mirror.inside_written {run : DrawCall} (hr : run ∈ (m.written source).drawCalls) :
    run.offset.toNat + run.count.toNat ≤ (m.kept source).length ∧
    (m.kept source).length ≤ m.capacity :=
  ⟨DrawCall.inside_ofSprites hr, List.length_take_le ..⟩

theorem Tables.mem_of_mem_runs {t : Tables} {target : Target} {id : BufferId}
    {calls : List DrawCall} {run : DrawCall} (h : run ∈ t.runs target id calls) : run ∈ calls := by
  rw [runs] at h
  split at h
  · exact h
  · cases h

/-- An adapter on a driver that shows a run reads its instances, if nothing is cut off. -/
theorem Gl.Adapter.readsRun_of_shown {samplers : Handle .program → List Nat} {a : Gl.Adapter}
    {target : Target} {mode : SpriteMode} {id : BufferId} {b : Gl.InstanceBuffer}
    (hb : a.buffers.lookup id = some b) {run : DrawCall} {instances : List SpriteInstance}
    (inside : run.offset.toNat + run.count.toNat ≤ instances.length)
    (fits : instances.length ≤ b.capacity) (small : b.capacity < 2 ^ 25) {x : Drawn}
    (h : a.shown samplers (.sprites target mode id run) = some x) :
    ∃ d : Gl.Draw, x = .triangles d ∧ d.ReadsRun b instances run := by
  obtain ⟨b', hb', h⟩ := Option.bind_eq_some_iff.mp h
  obtain rfl := Option.some.inj (hb'.symm.trans hb)
  obtain ⟨atlas, -, h⟩ := Option.bind_eq_some_iff.mp h
  obtain ⟨d, rfl, vertices, attributes⟩ := of_draw h
  have stride : SpriteInstance.stride = 64 := rfl
  rw [toInt32_mul_signedSize] at attributes
  refine ⟨d, rfl, ⟨_, _, _, vertices, toInt_toInt32_of_lt (by omega)⟩, fun k f hf =>
    ?_, fun l hl => ?_⟩
  -- each field is the attribute one location above its number, as the corners come first
  · refine ⟨_, ?_, rfl, rfl, fun j hj => reads_part hf b'.buffer ?_ ?_ ?_⟩
    · rw [attributes]
      simp only [List.getElem?_cons_succ, List.getElem?_map, hf, Option.map_some]
    · omega
    · rw [stride]
      omega
    · rw [stride]
      omega
  -- above the last field nothing is enabled
  · rw [attributes]
    refine List.getElem?_eq_none ?_
    rw [List.length_cons, List.length_map]
    exact hl

/-- Sprites of a mirror are drawn on a driver: the draws read the instances of the runs. -/
theorem Gl.Session.draws_written {samplers : Gl.Handle .program → List Nat} {s : Gl.Session}
    {lost : List Gl.Object} (rests : s.Rests samplers) (held : s.Holds lost) {id : BufferId}
    {b : Gl.InstanceBuffer} (hb : s.adapter.buffers.lookup id = some b)
    (hm : m.capacity = b.capacity) (small : b.capacity < 2 ^ 25) (target : Target)
    (mode : SpriteMode) :
    let runs := (m.written source).drawCalls
    let s' := (s.perform (.issue (.drawSprites target mode id runs))).2
    ∃ cs, s'.context.commands.toList = s.context.commands.toList ++ cs ∧
      List.Forall₂ (fun run x => ∃ d : Gl.Draw, x = .triangles d ∧
          d.ReadsRun b ((m.kept source).map .ofSprite) run)
        (s.adapter.tables.runs target id runs)
        ((Machine.after {} s.context.commands.toList).draws samplers cs) := by
  intro runs s'
  obtain ⟨cs, gave, shown, -⟩ := rests.answered held (.issue (.drawSprites target mode id runs))
  rw [Tables.drawn_drawSprites, List.map_map] at shown
  refine ⟨cs, gave, ?_⟩
  have shows : List.Forall₂ (fun run x =>
      s.adapter.shown samplers (.sprites target mode id run) = some x)
      (s.adapter.tables.runs target id runs)
        ((Machine.after {} s.context.commands.toList).draws samplers cs) :=
    List.forall₂_map_left_iff.mp
      (List.forall₂_map_right_iff.mp (List.forall₂_eq_eq_eq ▸ shown.symm))
  -- every run that is drawn is one of the runs that were written, so it ends within the buffer
  refine forall₂_of_forall shows (fun run hr =>
    Mirror.inside_written (Tables.mem_of_mem_runs hr)) ?_
  rintro run x ⟨inside, fits⟩ h
  refine Adapter.readsRun_of_shown hb ?_ ?_ small h <;> rw [List.length_map]
  · exact inside
  · exact hm ▸ fits

/-- Sprites of a mirror are drawn on a device, if a frame is under way: the draws read the same
instances. -/
theorem Wgpu.Session.draws_written (s : Wgpu.Session) {id : BufferId} {b : Wgpu.InstanceBuffer}
    (hb : s.adapter.buffers.lookup id = some b) (hm : m.capacity = b.capacity)
    (small : b.capacity < UInt32.size) (target : Target) (mode : SpriteMode) :
    let runs := (m.written source).drawCalls
    let s' := (s.perform (.issue (.drawSprites target mode id runs))).2
    ∃ cs, s'.platform.commands = s.platform.commands ++ cs ∧
      ∀ rec : Recorder, List.Forall₂ (fun run (x : Drawn) => x.ReadsRun b run)
        (if s.adapter.frame.isSome then s.adapter.tables.runs target id runs else [])
          (rec.draws cs) := by
  intro runs s'
  have h := s.leads_issue (.drawSprites target mode id runs)
  cases hf : s.adapter.frame with
  | none =>
    obtain ⟨-, -, gave, -⟩ := leads_unseen hf rfl h
    exact ⟨[], gave.commands, fun rec => .nil⟩
  | some f =>
    obtain ⟨cs, gave, shows⟩ := (drew_drawSprites hf h).draws
    refine ⟨cs, gave, fun rec => ?_⟩
    have drawn : given (s.adapter.tables.drawings (.drawSprites target mode id runs)) =
        s.adapter.tables.drawn (.issue (.drawSprites target mode id runs)) := rfl
    have shows := shows rec
    rw [drawn, Tables.drawn_drawSprites] at shows
    refine forall₂_of_forall (List.forall₂_map_left_iff.mp shows)
      (fun run hr => Mirror.inside_written (Tables.mem_of_mem_runs hr)) ?_
    rintro run x ⟨inside, fits⟩ shows
    cases shows with
    | sprites hv hb' ha mode resources =>
      obtain rfl := Option.some.inj (hb.symm.trans hb')
      refine ⟨⟨_, _, rfl, rfl⟩, ?_, by omega⟩
      -- the end of the run does not wrap, as it is within the capacity
      rw [UInt32.toNat_add, Nat.mod_eq_of_lt]
      change _ < UInt32.size
      omega

/-! ## At any time -/

/-- On a driver no byte is addressed wrongly for buffers of less than 2²⁵ instances. -/
structure Gl.Session.Exact (samplers : Gl.Handle .program → List Nat) (s : Gl.Session) : Prop where
  /-- A new buffer is asked for in the size that is meant if and only if it is that small. -/
  created : ∀ capacity id, (s.perform (.createBuffer capacity)).1 = .ok id → ∃ made b size,
    (s.perform (.createBuffer capacity)).2.adapter.buffers.lookup id = some ⟨b, capacity⟩ ∧
      (s.perform (.createBuffer capacity)).2.context.commands.toList = s.context.commands.toList ++
        (made ++ [.bindBuffer .vertices b, .bufferSize .vertices size .dynamic]) ∧
      (size.toInt = ((max capacity 1 * SpriteInstance.stride : Nat) : Int) ↔ capacity < 2 ^ 25)
  /-- It still has this size. -/
  sized : ∀ id b, s.adapter.buffers.lookup id = some b → b.capacity < 2 ^ 25 →
    s.context.sizes b.buffer = some ((max b.capacity 1 * SpriteInstance.stride : Nat) : Int)
  /-- The sprites that are kept of a layer are written to its start. -/
  written : ∀ (m : Mirror) (source : Layer) id b, s.adapter.buffers.lookup id = some b →
    m.capacity = b.capacity →
    (s.perform
      (.issue (.writeInstances id ((m.kept source).map .ofSprite)))).2.context.commands.toList =
      s.context.commands.toList ++ [.bindBuffer .vertices b.buffer,
        .bufferSubData .vertices (SpriteInstance.memory ((m.kept source).map .ofSprite))]
  /-- Draws of the runs of a mirror read, of each instance of a run, each field from its own bytes
  in the buffer. -/
  drawn : ∀ (m : Mirror) (source : Layer) id b, s.adapter.buffers.lookup id = some b →
    m.capacity = b.capacity →
    b.capacity < 2 ^ 25 → ∀ target mode,
    let runs := (m.written source).drawCalls
    ∃ cs, (s.perform (.issue (.drawSprites target mode id runs))).2.context.commands.toList =
        s.context.commands.toList ++ cs ∧
      List.Forall₂ (fun run x => ∃ d : Gl.Draw, x = .triangles d ∧
          d.ReadsRun b ((m.kept source).map .ofSprite) run)
        (s.adapter.tables.runs target id runs)
        ((Machine.after {} s.context.commands.toList).draws samplers cs)

/-- On a device draws of the runs of a mirror read the ranges of instances that the runs name, in a
frame, and there are none elsewhere. -/
def Wgpu.Session.Exact (s : Wgpu.Session) : Prop :=
  ∀ (m : Mirror) (source : Layer) id b, s.adapter.buffers.lookup id = some b →
    m.capacity = b.capacity →
    b.capacity < UInt32.size → ∀ target mode,
    let runs := (m.written source).drawCalls
    ∃ cs, (s.perform (.issue (.drawSprites target mode id runs))).2.platform.commands =
      s.platform.commands ++ cs ∧
      ∀ rec : Recorder, List.Forall₂ (fun run (x : Drawn) => x.ReadsRun b run)
        (if s.adapter.frame.isSome then s.adapter.tables.runs target id runs else []) (rec.draws cs)

namespace Gl.Session

variable {s : Session} {lost : List Object} {samplers : Handle .program → List Nat}

theorem commands_createBuffer {capacity : Nat} {id : BufferId}
    (h : (s.perform (.createBuffer capacity)).1 = .ok id) :
    ∃ made b,
      (s.perform (.createBuffer capacity)).2.adapter.buffers.lookup id = some ⟨b, capacity⟩ ∧
      (s.perform (.createBuffer capacity)).2.context.commands.toList =
        s.context.commands.toList ++ (made ++
          [.bindBuffer .vertices b,
            .bufferSize .vertices (signedSize (max capacity 1 * SpriteInstance.stride))
              .dynamic]) := by
  obtain ⟨made, y, hm, outcome⟩ := Adapter.leads_createBuffer (s.leads_createBuffer capacity)
  rcases outcome with ⟨e, -, he, -⟩ | ⟨b, -, hid, ha, gave⟩
  · rw [h] at he
    cases he
  · obtain rfl := Except.ok.inj (h.symm.trans hid)
    obtain ⟨cs, asked, -⟩ := ContextM.writes_create (P := fun _ => True) (fun _ => trivial) _ _ _ hm
    refine ⟨cs, b, ?_, by rw [gave.commands, asked, List.append_assoc]⟩
    rw [ha]
    exact List.lookup_cons_self

theorem commands_writeInstances {id : BufferId} {b : InstanceBuffer}
    (hb : s.adapter.buffers.lookup id = some b) {instances : List SpriteInstance}
    (fits : instances.length ≤ b.capacity) :
    (s.perform (.issue (.writeInstances id instances))).2.context.commands.toList =
    s.context.commands.toList ++
      [.bindBuffer .vertices b.buffer,
        .bufferSubData .vertices (SpriteInstance.memory instances)] := by
  obtain ⟨-, -, gave⟩ := Adapter.leads_execute_of_spares (c := .writeInstances id instances) trivial
    (s.leads_issue (.writeInstances id instances))
  rw [gave.commands, Adapter.commands, hb]
  simp only [List.take_of_length_le fits]
  rfl

/-- **A driver is told the bytes that are meant.** At any time, buffers of less than 2²⁵ instances
have the size that was meant for them, and larger ones are asked for in another size. For every
mirror of a layer in a buffer that small, each attribute reads, for each instance of a run, the
bytes of its own field of this instance, which lie within the buffer. A device draws the same
instances. -/
theorem reads_exact {interface : Interface} {size : SurfaceSize} {host : Host} {g : Session}
    (hg : Session.start interface size { host := host } = .ok g)
    (rule : Throughout (SamplesDeclared samplers) g.context.commands.toList) (before : List Call) :
    (g.serve before).Exact samplers ∧ ∀ w : Wgpu.Session, w.Exact := by
  obtain ⟨lost, held⟩ := exists_holds hg before
  obtain ⟨rests, -⟩ := rests_serve hg rule before
  refine ⟨⟨fun capacity id h => ?_, fun id b hb small => ?_, fun m source id b hb hm => ?_,
    fun m source id b hb hm small => draws_written rests held hb hm small⟩,
    fun w m source id b hb hm small => w.draws_written hb hm small⟩
  · obtain ⟨made, b, hb, commands⟩ := commands_createBuffer h
    exact ⟨made, b, _, hb, commands, reservation_eq_iff⟩
  · rw [← reservation_eq_iff.mpr small]
    exact stocked_serve hg before _ (mem_of_lookup hb)
  · refine commands_writeInstances hb ?_
    rw [List.length_map, ← hm]
    exact List.length_take_le ..

/-- A buffer of the largest capacity that is addressed as it should be. -/
theorem reads_exact_largest : ∃ g, Session.start .gles3 ⟨8, 8⟩ { host := {} } = .ok g ∧
    Throughout (SamplesDeclared spriteSamplers) g.context.commands.toList ∧
    (g.serve [.createBuffer 33554431]).Exact spriteSamplers ∧ ∀ w : Wgpu.Session, w.Exact := by
  obtain ⟨g, hg, rule⟩ :=
    @start_of_declared spriteSamplers .gles3 ⟨8, 8⟩ { host := {} } (by decide +kernel)
  exact ⟨g, hg, rule, reads_exact hg rule [.createBuffer 33554431]⟩

/-- For one instance more a size is asked for that is less than nothing. -/
theorem asks_for_less_than_nothing :
    ∃ g made b, Session.start .gles3 ⟨8, 8⟩ { host := {} } = .ok g ∧
    (g.perform (.createBuffer 33554432)).2.context.commands.toList = g.context.commands.toList ++
      (made ++ [.bindBuffer .vertices b, .bufferSize .vertices (-2147483648) .dynamic]) := by
  have answered : ((Session.start .gles3 ⟨8, 8⟩ { host := {} }).toOption.any fun g =>
      decide ((g.perform (.createBuffer 33554432)).1.toOption = some ⟨0⟩)) = true := by
    decide +kernel
  obtain ⟨g, hg, created⟩ := exists_ok_of_any answered
  cases made : (g.perform (.createBuffer 33554432)).1 with
  | error e =>
    rw [made] at created
    cases created
  | ok id =>
    obtain ⟨made, b, -, commands⟩ := commands_createBuffer made
    exact ⟨g, made, b, hg, commands⟩

end Gl.Session

end LitTiles
