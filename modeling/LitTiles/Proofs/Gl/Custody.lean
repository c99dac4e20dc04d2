import LitTiles.Proofs.Gl.Calls
import LitTiles.Proofs.Gl.Making
import LitTiles.Proofs.Table

/-!
# Who holds the objects of a GL context

`Session.Holds` is the invariant of a session: the objects that are alive on its context are those
that the adapter has in its tables and fields, each once, and those that were lost for good. All
calls keep it, and add to what was lost only in three cases. A link and the making of a target may
lose objects where the driver refuses one; and if 2³² instance buffers were made, a new one takes
the place of an old one that is still there.
-/

namespace LitTiles

namespace Gl

open ContextM AdapterM

/-! ## What an adapter holds -/

namespace Adapter

/-- The objects of an adapter, in the order in which it disposes of them. -/
def objects (a : Adapter) : List Object :=
  a.targets.flatMap (·.objects) ++ a.buffers.map (·.2.buffer.object) ++
    a.atlases.map (·.2.object) ++
    a.effects.map (·.2.program.object) ++ a.fixedObjects

/-- Everything is disposed of. -/
theorem dispose_eq (a : Adapter) : a.dispose = deleteAll a.objects := by
  simp only [dispose, deleteTargets, objects, fixedObjects, deleteAll, List.map_append,
    List.map_flatMap, List.map_map]
  cases a.vertexArray <;> simp [RenderTarget.delete_eq, deleteAll, Function.comp_def, Handle.object]

/-- Deleting the targets is deleting their textures and framebuffers in the order of the table. -/
theorem deleteTargets_eq (a : Adapter) :
    a.deleteTargets = deleteAll (a.targets.flatMap (·.objects)) := by
  simp [deleteTargets, RenderTarget.delete_eq, deleteAll, List.map_flatMap]

/-- The tables of an adapter hold no key twice. -/
structure Tabled (a : Adapter) : Prop where
  /-- Textures by name. -/
  atlases : Keyed a.atlases
  /-- Effects by name. -/
  effects : Keyed a.effects
  /-- Instance buffers by number. -/
  buffers : Keyed a.buffers

end Adapter

namespace Session

/-- The objects that are alive are those of the adapter, and those that were lost. -/
structure Holds (s : Session) (lost : List Object) : Prop where
  /-- Everything was done properly. -/
  sound : s.context.Sound
  /-- Nothing else is alive. -/
  alive : s.context.alive.Perm (s.adapter.objects ++ lost)
  /-- No key is in use twice. -/
  tabled : s.adapter.Tabled

variable {s s' : Session} {a : Adapter} {x y : Context} {lost left os : List Object}
  {cs : List Command}

/-- No object is held twice. -/
theorem Holds.nodup_objects (h : s.Holds lost) : s.adapter.objects.Nodup :=
  (List.nodup_append.mp (h.alive.nodup_iff.mp h.sound.nodup)).1

/-- Some objects were made, and all are in the hands of the adapter or lost. -/
theorem Holds.gains (h : s.Holds lost) {new : List Object} (hg : s.context.Gains x new)
    (hp : (new ++ (s.adapter.objects ++ lost)).Perm (a.objects ++ left)) (ha : a.Tabled) :
    (⟨a, x⟩ : Session).Holds left :=
  ⟨hg.sound, (hg.alive.trans (h.alive.append_left _)).trans hp, ha⟩

/-- Objects of the adapter are used. -/
theorem Holds.use (h : (⟨a, x⟩ : Session).Holds lost) (hg : x.Gave cs y)
    (hc : ∀ c ∈ cs, c.Spares ∧ ∀ o ∈ c.uses, o ∈ a.objects) : (⟨a, y⟩ : Session).Holds lost := by
  obtain ⟨sound, same⟩ := h.sound.use hg fun c hm =>
    ⟨(hc c hm).1, fun o ho => h.alive.mem_iff.mpr (List.mem_append_left _ ((hc c hm).2 o ho))⟩
  exact ⟨sound, same ▸ h.alive, h.tabled⟩

/-- Objects that the adapter let go are deleted. -/
theorem Holds.delete (h : (⟨a, x⟩ : Session).Holds (os ++ lost)) (hg : x.Gave (deleteAll os) y) :
    (⟨a, y⟩ : Session).Holds lost := by
  have others : x.alive.Perm (os ++ (a.objects ++ lost)) :=
    h.alive.trans (List.perm_append_comm_assoc _ _ _)
  obtain ⟨sound, rest⟩ := h.sound.delete hg others
  exact ⟨sound, rest, h.tabled⟩

end Session

/-! ## What plain calls use -/

namespace Adapter

variable {a : Adapter} {cs : List Command}

/-- Commands that use objects of an adapter, and neither make nor delete any. -/
def Serves (a : Adapter) (cs : List Command) : Prop :=
  ∀ c ∈ cs, c.Spares ∧ ∀ o ∈ c.uses, o ∈ a.objects

theorem serves_nil : a.Serves [] := List.forall_mem_nil _

/-- Two lists that only use what the adapter has, in a row. -/
theorem Serves.append {ds : List Command} (h : a.Serves cs) (h' : a.Serves ds) :
    a.Serves (cs ++ ds) :=
  List.forall_mem_append.mpr ⟨h, h'⟩

/-- A list for each entry, all of which only use what the adapter has. -/
theorem serves_flatMap {α : Type} {l : List α} {f : α → List Command}
    (h : ∀ v ∈ l, a.Serves (f v)) :
    a.Serves (l.flatMap f) := by
  intro c hc
  obtain ⟨v, hv, hc⟩ := List.mem_flatMap.mp hc
  exact h v hv c hc

/-- Commands without objects. -/
theorem serves_of_uses_nil (h : ∀ c ∈ cs, c.Spares ∧ c.uses = []) : a.Serves cs := fun c hc =>
  ⟨(h c hc).1, fun o ho => by rw [(h c hc).2] at ho; cases ho⟩

/-- What was made on connecting is held throughout. -/
theorem mem_objects_of_fixed {o : Object} (h : o ∈ a.fixedObjects) : o ∈ a.objects :=
  List.mem_append_right _ h

/-- The objects of a target are held while the table has it. -/
theorem mem_objects_of_target {t : RenderTarget} {o : Object} (h : t ∈ a.targets)
    (ho : o ∈ t.objects) :
    o ∈ a.objects := by
  simp only [objects, List.mem_append, List.mem_flatMap]
  exact .inl (.inl (.inl (.inl ⟨t, h, ho⟩)))

/-- An instance buffer that is found by its name is held. -/
theorem mem_objects_of_buffer {id : BufferId} {b : InstanceBuffer}
    (h : a.buffers.lookup id = some b) :
    b.buffer.object ∈ a.objects := by
  simp only [objects, List.mem_append, List.mem_map]
  exact .inl (.inl (.inl (.inr ⟨_, mem_of_lookup h, rfl⟩)))

/-- So is a texture that is found by its name. -/
theorem mem_objects_of_atlas {name : String} {t : Handle .texture}
    (h : a.atlases.lookup name = some t) :
    t.object ∈ a.objects := by
  simp only [objects, List.mem_append, List.mem_map]
  exact .inl (.inl (.inr ⟨_, mem_of_lookup h, rfl⟩))

/-- So is the program of an effect that is found. -/
theorem mem_objects_of_effect {name : String} {e : LinkedEffect}
    (h : a.effects.lookup name = some e) :
    e.program.object ∈ a.objects := by
  simp only [objects, List.mem_append, List.mem_map]
  exact .inl (.inr ⟨_, mem_of_lookup h, rfl⟩)

/-- A target that the check lets through is in the table. -/
theorem target?_mem {i : Nat} {t : RenderTarget} (h : a.target? i = .ok t) : t ∈ a.targets := by
  rw [target?] at h
  split at h
  · rename_i t' ht
    obtain rfl := Except.ok.inj h
    exact List.mem_of_getElem? ht
  · cases h

/-- Binding a target uses its framebuffer; the surface needs none. -/
theorem serves_bindTarget {target : Target} (h : a.bindTarget target = .ok cs) : a.Serves cs := by
  cases target with
  | surface =>
    obtain rfl := Except.ok.inj h
    exact serves_of_uses_nil (by simp)
  | offscreen i =>
    obtain ⟨t, ht, h⟩ := bind_eq_ok_iff.mp h
    obtain rfl := Except.ok.inj h
    have there := mem_objects_of_target (target?_mem ht) List.mem_cons_self
    simpa [Serves] using there

/-- Selecting a fixed program uses that program. Uniforms are no objects. -/
theorem serves_select {f : FixedProgram} (hf : f.program.object ∈ a.objects) (view : Rect) :
    a.Serves (f.select view) := by
  simp only [FixedProgram.select]
  refine List.forall_mem_cons.mpr ⟨?_, ?_⟩
  · simpa using hf
  · refine serves_of_uses_nil ?_
    simp only [List.mem_append, Option.mem_toList, Option.map_eq_some_iff]
    rintro c (⟨l, -, rfl⟩ | ⟨l, -, rfl⟩) <;> exact ⟨⟨rfl, rfl⟩, rfl⟩

theorem serves_applyBlend (mode : BlendMode) : a.Serves (applyBlend mode) := by
  refine serves_of_uses_nil ?_
  cases mode <;> simp [applyBlend, blendFactors]

/-- The corners and their indices were made on connecting. -/
theorem serves_bindSquare : a.Serves a.bindSquare := by
  have corners : a.corners.object ∈ a.objects := mem_objects_of_fixed (by simp [fixedObjects])
  have indices : a.indices.object ∈ a.objects := mem_objects_of_fixed (by simp [fixedObjects])
  simp [Serves, bindSquare, corners, indices]

/-- So was the stream. -/
theorem serves_fillStream (bytes : List UInt8) : a.Serves (a.fillStream bytes) := by
  have stream : a.stream.object ∈ a.objects := mem_objects_of_fixed (by simp [fixedObjects])
  simp [Serves, fillStream, stream]

/-- Binding instances uses the buffer they are in. -/
theorem serves_bindInstances {buffer : Handle .buffer} (hb : buffer.object ∈ a.objects)
    (stride start : Int32) (fields : List InstanceField) :
    a.Serves (bindInstances buffer stride start fields) := by
  refine List.forall_mem_cons.mpr ⟨?_, ?_⟩
  · simpa using hb
  · refine serves_flatMap fun f hf => serves_of_uses_nil ?_
    simp

theorem serves_releaseInstances (fields : List InstanceField) :
    a.Serves (releaseInstances fields) := by
  refine serves_flatMap fun f hf => serves_of_uses_nil ?_
  simp

/-- A run uses the buffer and its texture; a run whose texture is not known gives no command. -/
theorem serves_drawRun {buffer : Handle .buffer} (hb : buffer.object ∈ a.objects)
    (call : DrawCall) :
    a.Serves (a.drawRun buffer call) := by
  rw [drawRun]
  split
  · exact serves_nil
  · rename_i t ht
    refine (serves_bindInstances hb _ _ _).append ?_
    simpa [Serves] using
      mem_objects_of_atlas ht

/-- Channels sample targets, or the empty texture. -/
theorem mem_objects_of_channelTexture {output : Target} {slot : Nat} {t : Handle .texture}
    (h : a.channelTexture output slot = .ok t) : t.object ∈ a.objects := by
  obtain ⟨target, ht, h⟩ := bind_eq_ok_iff.mp h
  obtain rfl := Except.ok.inj h
  split
  · exact mem_objects_of_fixed (by simp [fixedObjects])
  · exact mem_objects_of_target (target?_mem ht) (by simp [RenderTarget.objects])

/-- All textures bound to channels are held, by the lemma on one channel and an induction on the
inputs. -/
theorem mem_objects_of_channelTextures {inputs : List Nat} {output : Target}
    {ts : List (Handle .texture)} (h : a.channelTextures inputs output = .ok ts) :
    ∀ t ∈ ts, t.object ∈ a.objects := by
  obtain ⟨used, hu, h⟩ := bind_eq_ok_iff.mp h
  obtain rfl := Except.ok.inj h
  intro t ht
  rcases List.mem_append.mp ht with ht | ht
  · obtain ⟨slot, -, hs⟩ := exists_of_mem_mapM hu t ht
    exact mem_objects_of_channelTexture hs
  · rw [List.eq_of_mem_replicate ht]
    exact mem_objects_of_fixed (by simp [fixedObjects])

/-- An effect uses its program, the textures of its channels, and the square. -/
theorem serves_effectCommands {e : LinkedEffect} {ts : List (Handle .texture)}
    (he : e.program.object ∈ a.objects) (ht : ∀ t ∈ ts, t.object ∈ a.objects)
    (uniforms : List Scalar) (clear : Option Color) :
    a.Serves (a.effectCommands e ts uniforms clear) := by
  -- block by block: only the program and the textures are used, the rest names no object
  have filled : a.Serves ((clear.map fill).getD []) := by
    refine serves_of_uses_nil ?_
    cases clear <;> simp [fill]
  have used : a.Serves [.useProgram e.program] := by simpa [Serves] using he
  have bound : a.Serves (ts.zipIdx.flatMap fun p =>
      [.activeTexture p.2, .bindTexture (some p.1)]) := by
    refine serves_flatMap fun p hm => ?_
    have there := ht p.1 (List.fst_mem_of_mem_zipIdx hm)
    simpa [Serves] using there
  have units : a.Serves e.bindUnits := by
    refine serves_of_uses_nil fun c hc => ?_
    obtain ⟨⟨l, unit⟩, -, hc⟩ := List.mem_filterMap.mp hc
    obtain ⟨l, -, rfl⟩ := Option.map_eq_some_iff.mp hc
    exact ⟨⟨rfl, rfl⟩, rfl⟩
  have uploaded : a.Serves (e.upload uniforms) := by
    refine serves_of_uses_nil fun c hc => ?_
    obtain ⟨u, -, hc⟩ := List.mem_filterMap.mp hc
    obtain ⟨l, -, rfl⟩ := Option.map_eq_some_iff.mp hc
    exact ⟨⟨rfl, rfl⟩, rfl⟩
  refine filled.append (used.append (bound.append (units.append (uploaded.append
    ((serves_applyBlend _).append (serves_bindSquare.append ?_))))))
  exact serves_of_uses_nil (by simp)

/-- Sprites use their buffer, the square and the textures of the runs. -/
theorem serves_spriteCommands {mode : SpriteMode} {b : InstanceBuffer} {calls : List DrawCall}
    (hb : b.buffer.object ∈ a.objects) : a.Serves (a.spriteCommands mode b calls) := by
  have program : (a.spriteProgram mode).program.object ∈ a.objects := by
    refine mem_objects_of_fixed ?_
    cases mode <;> simp [spriteProgram, fixedObjects]
  exact (serves_select program _).append ((serves_applyBlend _).append (serves_bindSquare.append
    ((serves_flatMap fun call _ => serves_drawRun hb call).append (serves_releaseInstances _))))

/-- A light uses the stream and the square. -/
theorem serves_lightCommands (light : LightInstance) : a.Serves (a.lightCommands light) := by
  have program : a.light.program.object ∈ a.objects := mem_objects_of_fixed (by simp [fixedObjects])
  have stream : a.stream.object ∈ a.objects := mem_objects_of_fixed (by simp [fixedObjects])
  exact (serves_select program _).append ((serves_applyBlend _).append (serves_bindSquare.append
    ((serves_fillStream _).append ((serves_bindInstances stream _ _ _).append
      ((serves_of_uses_nil (by simp)).append (serves_releaseInstances _))))))

/-- Shadows use the stream alone. -/
theorem serves_shadowCommands (triangles : List Vec2) : a.Serves (a.shadowCommands triangles) := by
  have program : a.shadow.program.object ∈ a.objects :=
    mem_objects_of_fixed (by simp [fixedObjects])
  exact (serves_select program _).append ((serves_applyBlend _).append ((serves_fillStream _).append
    (serves_of_uses_nil (by simp))))

/-- A call that makes no objects uses those of the adapter. -/
theorem serves_commands (c : LitTiles.Command) : a.Serves (given (a.commands c)) := by
  cases hc : a.commands c with
  | error e => exact serves_nil
  | ok cs =>
    change a.Serves cs
    cases orders_of_commands hc with
    | nothing => exact serves_nil
    | write hb instances => simpa [Serves] using mem_objects_of_buffer hb
    | @begin view v hv =>
      have there : v.object ∈ a.objects := mem_objects_of_fixed (by simp [fixedObjects, hv])
      simpa [Serves] using there
    | clear hb color => exact (serves_bindTarget hb).append (serves_of_uses_nil (by simp [fill]))
    | sprites hb hid mode calls =>
      exact (serves_bindTarget hb).append (serves_spriteCommands (mem_objects_of_buffer hid))
    | light hb light => exact (serves_bindTarget hb).append (serves_lightCommands light)
    | shadows hb triangles => exact (serves_bindTarget hb).append (serves_shadowCommands triangles)
    | effect hb he ht uniforms clear =>
      exact (serves_bindTarget hb).append (serves_effectCommands (mem_objects_of_effect he)
        (mem_objects_of_channelTextures ht) uniforms clear)
    | finish => exact serves_of_uses_nil (by simp)

end Adapter

/-! ## Each call -/

namespace Session

/-- After a call the adapter holds all that is alive, but for what was lost before and what the call
left behind, which is new. -/
structure Leaves (s s' : Session) (lost left : List Object) : Prop where
  /-- Who holds what. -/
  holds : s'.Holds (left ++ lost)
  /-- The context went on. -/
  later : s.context.Later s'.context
  /-- What was left behind was made by the call. -/
  fresh : ∀ o ∈ left, s.context.requested o.kind < o.number

variable {s s' : Session} {x y z : Context} {lost : List Object}

/-- A texture that is loaded takes the place of one that is deleted; nothing is left behind in any
case. -/
theorem Holds.loadTexture {t : Texture} {r : Except RenderError Unit} (h : s.Holds lost)
    (hl : (Adapter.loadTexture t).Leads s r s') : s.Leaves s' lost [] := by
  rcases Adapter.leads_loadTexture hl with ⟨e, -, -, rfl⟩ | ⟨-, made, y, hm, outcome⟩
  · exact ⟨h, .refl _, List.forall_mem_nil _⟩
  rcases makes_createTexture _ _ _ _ _ _ _ _ h.sound hm with
    ⟨texture, rfl, gains, -⟩ | ⟨e, left, rfl, -, gains, hleft⟩
  · rcases outcome with ⟨e, he, -⟩ | ⟨texture', ht, -, ha, gave⟩
    · cases he
    obtain rfl := Except.ok.inj ht
    -- the new texture is held before the one of the same name is given back
    have held : (⟨s'.adapter, y⟩ : Session).Holds
        (((s.adapter.atlases.lookup t.name).map (·.object)).toList ++ lost) := by
      rw [ha]
      refine h.gains gains ?_ { h.tabled with atlases := h.tabled.atlases.insert _ _ }
      refine List.perm_iff_count.mpr fun o => ?_
      have := (h.tabled.atlases.map_perm t.name (·.object)).count_eq o
      simp only [Adapter.objects, Adapter.fixedObjects, List.map_cons,
        List.count_append, List.count_cons, List.count_nil] at this ⊢
      omega
    refine ⟨held.delete ?_, gains.later.trans gave.later, List.forall_mem_nil _⟩
    cases hk : s.adapter.atlases.lookup t.name <;> simpa [hk, deleteAll, Handle.object] using gave
  -- a refused texture leaves nothing behind
  · rcases outcome with ⟨e', -, -, rfl⟩ | ⟨texture, he, -⟩
    · obtain rfl : left = [] := by simpa using hleft
      exact ⟨h.gains gains (.refl _) h.tabled, gains.later, List.forall_mem_nil _⟩
    · cases he

/-- A program that is compiled takes the place of one that is deleted. Where it cannot be linked,
objects are left behind if the driver refused one while another one was there. -/
theorem Holds.compileProgram {name : String} {p : EffectProgram} {r : Except RenderError Unit}
    (h : s.Holds lost) (hl : (Adapter.compileProgram name p).Leads s r s') :
    ∃ left, s.Leaves s' lost left ∧ (left ≠ [] ↔ Spoiled s.context s'.context) := by
  obtain ⟨linked, y, hlink, outcome⟩ := Adapter.leads_compileProgram hl
  rcases makes_linkSource _ _ _ _ _ h.sound hlink with
    ⟨program, rfl, gains, granted⟩ | ⟨e, left, rfl, -, gains, hleft⟩
  · rcases outcome with ⟨e, he, -⟩ | ⟨program', made, z, hp, hm, outcome⟩
    · cases he
    obtain rfl := Except.ok.inj hp
    obtain ⟨effect, cs, rfl, rfl, -, -, -, gave, hcs⟩ := LinkedEffect.leads_make hm
    -- locating the uniforms uses the new program and nothing else
    have asked := gains.use gave fun c hc => ⟨(hcs c hc).uses.1, fun o ho =>
      List.mem_singleton.mpr ((hcs c hc).uses.2 o ho)⟩
    rcases outcome with ⟨e, he⟩ | ⟨effect', he, -, ha, gave'⟩
    · cases he
    obtain rfl := Except.ok.inj he
    -- the new program is held before the one of the same name is given back
    have held : (⟨s'.adapter, z⟩ : Session).Holds
        (((s.adapter.effects.lookup name).map (·.program.object)).toList ++ lost) := by
      rw [ha]
      refine h.gains asked ?_ { h.tabled with effects := h.tabled.effects.insert _ _ }
      refine List.perm_iff_count.mpr fun o => ?_
      have := (h.tabled.effects.map_perm name (·.program.object)).count_eq o
      simp only [Adapter.objects, Adapter.fixedObjects, List.map_cons,
        List.count_append, List.count_cons, List.count_nil] at this ⊢
      omega
    refine ⟨[], ⟨held.delete ?_, asked.later.trans gave'.later, List.forall_mem_nil _⟩,
      not_spoiled_of_granted ((granted.gave gave).gave gave')⟩
    cases hk : s.adapter.effects.lookup name <;> simpa [hk, deleteAll, Handle.object] using gave'
  · rcases outcome with ⟨e', -, -, rfl⟩ | ⟨program, made, z, hp, -⟩
    · exact ⟨left, ⟨h.gains gains (List.perm_append_comm_assoc _ _ _) h.tabled, gains.later,
        gains.fresh⟩, hleft⟩
    · cases hp

/-- Targets are made one after the other. Only a framebuffer that is refused leaves something
behind. -/
theorem Built.gains {c : Capabilities} {sizes : List (SurfaceSize × Nat)} {ts : List RenderTarget}
    {r : Except RenderError Unit} (hb : Adapter.Built c sizes x ts r z) (hx : x.Sound) :
    ∃ left, x.Gains z (left ++ ts.flatMap (·.objects)) ∧
    (left ≠ [] ↔ ¬ x.GrantedOf .framebuffer z) := by
  induction hb with
  | done x =>
    exact ⟨[], hx.gains, iff_of_false (fun hn => hn rfl) fun hn => hn (x.gave_nil.granted _)⟩
  | failed hm =>
    rcases makes_renderTarget _ _ _ _ _ _ hx hm with ⟨t, he, -⟩ | ⟨e, left, -, -, gains, hleft⟩
    · cases he
    · exact ⟨left, by simpa using gains, hleft⟩
  | @next size i rest x y z t ts r hm hrest ih =>
    rcases makes_renderTarget _ _ _ _ _ _ hx hm with ⟨t', ht, gains, granted⟩ | ⟨e, left, he, -⟩
    · obtain rfl := Except.ok.inj ht
      obtain ⟨left, gains', hleft⟩ := ih gains.sound
      refine ⟨left, (gains.trans gains').perm ?_,
        hleft.trans (not_congr ⟨fun hf => ?_, fun hf => ?_⟩)⟩
      · rw [List.append_assoc, List.flatMap_cons]
        exact List.perm_append_comm.append_left _
      · exact gains.later.grantedOf_trans (granted _) hf
      · exact gains.later.granted_right hf
    · cases he

/-- Targets that are made anew take the place of the old ones, which are deleted. -/
theorem Holds.configureTargets {surface : SurfaceSize} {sizes : List SurfaceSize}
    {r : Except RenderError Unit} (h : s.Holds lost)
    (hl : (Adapter.configureTargets surface sizes).Leads s r s') :
    ∃ left, s.Leaves s' lost left ∧
      (left ≠ [] ↔ ¬ s.context.GrantedOf .framebuffer s'.context) := by
  obtain ⟨y, ts, z, gave, built, gave', ha⟩ := Adapter.leads_configureTargets hl
  -- the old targets are given back first, so the tables hold what is fixed and the buffers
  have emptied : Holds
      (⟨{ s.adapter with targets := [], surface := surface }, y⟩ : Session) lost := by
    rw [Adapter.deleteTargets_eq] at gave
    refine Holds.delete (h.gains h.sound.gains ?_ ⟨h.tabled.1, h.tabled.2, h.tabled.3⟩) gave
    refine List.perm_iff_count.mpr fun o => ?_
    simp only [Adapter.objects, Adapter.fixedObjects, List.count_append,
      List.flatMap_nil, List.count_nil]
    omega
  obtain ⟨left, gains, hleft⟩ := Built.gains built emptied.sound
  -- what was built before a refusal is left over, the rest went into the table
  have filled : (⟨s'.adapter, z⟩ : Session).Holds (left ++ lost) := by
    rw [ha]
    refine emptied.gains gains ?_ ⟨h.tabled.1, h.tabled.2, h.tabled.3⟩
    refine List.perm_iff_count.mpr fun o => ?_
    simp only [Adapter.objects, Adapter.fixedObjects, List.count_append,
      List.flatMap_nil, List.count_nil]
    omega
  have later : s.context.Later s'.context := (gave.later.trans gains.later).trans gave'.later
  have rest : s'.Holds (left ++ lost) := filled.use gave' (List.forall_mem_nil _)
  refine ⟨left, ⟨rest, later, fun o ho => ?_⟩, hleft.trans (not_congr ⟨fun hf => ?_, fun hf => ?_⟩)⟩
  · rw [← gave.requested]
    exact gains.fresh o (List.mem_append_left _ ho)
  · exact gave.later.grantedOf_trans (gave.granted _)
      (gains.later.grantedOf_trans hf (gave'.granted _))
  · exact gave.later.granted_right (gave'.later.granted_left hf)

/-- A buffer that is made may take the place of another one, which is not deleted. This comes to
pass only if its number is in use already. -/
theorem Holds.createBuffer {capacity : Nat} {r : Except RenderError BufferId} (h : s.Holds lost)
    (hl : (Adapter.createBuffer capacity).Leads s r s') :
    ∃ left, s'.Holds (left ++ lost) ∧ s.context.Later s'.context ∧
      (s.adapter.buffers.lookup ⟨s.adapter.nextBuffer⟩ = none → left = []) := by
  obtain ⟨made, y, hm, outcome⟩ := Adapter.leads_createBuffer hl
  rcases leads_create hm with ⟨⟨reason, rfl⟩, asked, -⟩ | ⟨buffer, rfl, number, asked, -⟩
  · rcases outcome with ⟨e, -, -, rfl⟩ | ⟨buffer, he, -⟩
    · exact ⟨[], h.gains (h.sound.gains.refused asked) (.refl _) h.tabled,
        asked.later, fun _ => rfl⟩
    · cases he
  · rcases outcome with ⟨e, he, -⟩ | ⟨buffer', hb, -, ha, gave⟩
    · cases he
    obtain rfl := Except.ok.inj hb
    have gains := h.sound.gains.made asked number rfl rfl
    -- a buffer that already stands under this id is left over, hence the condition on the counter
    have held : (⟨s'.adapter, y⟩ : Session).Holds
        (((s.adapter.buffers.lookup ⟨s.adapter.nextBuffer⟩).map (·.buffer.object)).toList ++
          lost) := by
      rw [ha]
      refine h.gains gains ?_ ⟨h.tabled.atlases, h.tabled.effects, h.tabled.buffers.insert _ _⟩
      refine List.perm_iff_count.mpr fun o => ?_
      have := (h.tabled.buffers.map_perm ⟨s.adapter.nextBuffer⟩ (·.buffer.object)).count_eq o
      simp only [Adapter.objects, Adapter.fixedObjects, List.map_cons,
        List.count_append, List.count_cons, List.count_nil] at this ⊢
      omega
    have there : buffer.object ∈ s'.adapter.objects := by
      have found : s'.adapter.buffers.lookup ⟨s.adapter.nextBuffer⟩ = some ⟨buffer, capacity⟩ := by
        rw [ha]
        exact List.lookup_cons_self
      exact Adapter.mem_objects_of_buffer found
    refine ⟨_, held.use gave ?_, asked.later.trans gave.later, fun hk => by rw [hk]; rfl⟩
    simpa using there

/-- A buffer that is given back is deleted. -/
theorem Holds.freeBuffer {id : BufferId} {r : Except RenderError Unit} (h : s.Holds lost)
    (hl : (Adapter.freeBuffer id).Leads s r s') : s.Leaves s' lost [] := by
  rcases Adapter.leads_freeBuffer hl with ⟨-, ha, gave⟩ | ⟨b, hb, ha, gave⟩
  · have same : (⟨s'.adapter, s.context⟩ : Session).Holds lost := by
      rw [ha]
      exact h
    exact ⟨same.use gave (List.forall_mem_nil _), gave.later, List.forall_mem_nil _⟩
  · have held : (⟨s'.adapter, s.context⟩ : Session).Holds ([b.buffer.object] ++ lost) := by
      rw [ha]
      refine h.gains h.sound.gains ?_ ⟨h.tabled.atlases, h.tabled.effects,
        h.tabled.buffers.filter _⟩
      refine List.perm_iff_count.mpr fun o => ?_
      have := (h.tabled.buffers.map_perm id (·.buffer.object)).count_eq o
      rw [hb] at this
      simp only [Adapter.objects, Adapter.fixedObjects, List.count_append, Option.map_some,
        Option.toList_some, List.count_nil] at this ⊢
      omega
    exact ⟨held.delete gave, gave.later, List.forall_mem_nil _⟩

/-- A call that makes no objects leaves everything where it is. -/
theorem Holds.execute_of_spares {c : LitTiles.Command} {r : Except RenderError Unit}
    (h : s.Holds lost) (hc : c.SparesObjects) (hl : (Adapter.execute c).Leads s r s') :
    s.Leaves s' lost [] := by
  obtain ⟨ha, -, gave⟩ := Adapter.leads_execute_of_spares hc hl
  have served := h.use gave (s.adapter.serves_commands c)
  refine ⟨?_, gave.later, List.forall_mem_nil _⟩
  have same : (s.adapter.looking c).objects = s.adapter.objects := by cases c <;> rfl
  have tables : (s.adapter.looking c).Tabled := by
    cases c <;> exact ⟨h.tabled.1, h.tabled.2, h.tabled.3⟩
  refine ⟨served.sound, ?_, ha ▸ tables⟩
  rw [ha, same]
  exact served.alive

/-- **Every call keeps account of the objects.** If no object is refused, and no buffer number is
used again while it is in use, then nothing is left behind. -/
theorem Holds.perform (h : s.Holds lost) (c : Call) :
    ∃ left, (s.perform c).2.Holds (left ++ lost) ∧ s.context.Later (s.perform c).2.context ∧
      (s.context.Granted (s.perform c).2.context →
        (∀ capacity, c = .createBuffer capacity →
          s.adapter.buffers.lookup ⟨s.adapter.nextBuffer⟩ = none) →
        left = []) := by
  cases c with
  | createBuffer capacity =>
    obtain ⟨left, holds, later, hleft⟩ := h.createBuffer (s.leads_createBuffer capacity)
    exact ⟨left, holds, later, fun _ hn => hleft (hn capacity rfl)⟩
  | freeBuffer id =>
    obtain ⟨r, hl⟩ := s.leads_freeBuffer id
    have leaves := h.freeBuffer hl
    exact ⟨[], leaves.holds, leaves.later, fun _ _ => rfl⟩
  | issue c =>
    have hl := s.leads_issue c
    by_cases hc : c.SparesObjects
    · have leaves := h.execute_of_spares hc hl
      exact ⟨[], leaves.holds, leaves.later, fun _ _ => rfl⟩
    cases c with
    | loadTexture t =>
      have leaves := h.loadTexture hl
      exact ⟨[], leaves.holds, leaves.later, fun _ _ => rfl⟩
    | compileProgram name p =>
      obtain ⟨left, leaves, hleft⟩ := h.compileProgram hl
      -- spoiled means that something was refused, which the grants exclude
      refine ⟨left, leaves.holds, leaves.later, fun hg _ => ?_⟩
      exact by_contra fun hn => (hleft.mp hn).1 hg
    | configureTargets surface sizes =>
      obtain ⟨left, leaves, hleft⟩ := h.configureTargets hl
      refine ⟨left, leaves.holds, leaves.later, fun hg _ => ?_⟩
      exact by_contra fun hn => hleft.mp hn (hg .framebuffer)
    | _ => exact absurd trivial hc

end Session

end Gl

end LitTiles
