import LitTiles.Gl.Program
import LitTiles.Program.Wgsl
import LitTiles.Proofs.Effect.Resolution
import LitTiles.Proofs.Program.StructureLayout

/-!
# How uniforms reach a shader

The uniforms of an effect are packed without gaps (`Effect.Built.tight`). From such a block a GL
context is sent the floats of one uniform after the other (`Gl.sendsSlices`), and a WGSL program
finds the same floats where the layout of its structure has the member (`structureHolds_repack`).
-/

namespace LitTiles

/-- The floats of a packed block that belong to a uniform. -/
def Uniform.slice (u : Uniform) (packed : List Scalar) : List Scalar :=
  (packed.drop u.offset).take u.type.components

/-- Number of floats of some uniforms without gaps. -/
def packedLength (us : List Uniform) : Nat := (us.map (·.type.components)).sum

variable {e : Effect} {us : List Uniform} {u : Uniform} {packed : List Scalar} {k : Nat}

/-! ## The table -/

theorem packedLength_append (us vs : List Uniform) :
    packedLength (us ++ vs) = packedLength us + packedLength vs := by
  simp [packedLength]

/-- The uniforms of a table follow each other without gaps. -/
structure Effect.Tight (e : Effect) : Prop where
  /-- Each uniform starts where those before it end. -/
  offset : ∀ k u, e.uniforms[k]? = some u → u.offset = packedLength (e.uniforms.take k)
  /-- The block ends with the last one. -/
  length : e.uniformLength = packedLength e.uniforms

theorem Effect.Tight.uniform (h : e.Tight) (name : String) (type : ValueType) :
    (e.uniform name type).Tight where
  offset := by
    intro k u hu
    have hlt := (List.getElem?_eq_some_iff.mp hu).1
    simp only [Effect.uniform, List.length_append, List.length_singleton] at hu hlt ⊢
    by_cases hk : k < e.uniforms.length
    · rw [List.getElem?_append_left hk] at hu
      rw [List.take_append_of_le_length hk.le]
      exact h.offset k u hu
    · -- it is the new one
      obtain rfl : k = e.uniforms.length := by omega
      rw [List.getElem?_append_right (Nat.le_refl _), Nat.sub_self] at hu
      obtain rfl := Option.some.inj hu
      rw [List.take_left]
      exact h.length
  length := by
    change _ = packedLength (e.uniforms ++ _)
    rw [packedLength_append, ← h.length]
    rfl

theorem Effect.Built.tight (h : e.Built) : e.Tight := by
  induction h with
  | empty =>
    have none : (⟨[], [], 0⟩ : Effect).Tight := ⟨by simp, rfl⟩
    exact (none.uniform _ _).uniform _ _
  | statement s _ ih => exact ⟨ih.offset, ih.length⟩
  | uniform name type _ ih => exact ih.uniform name type

/-- A packed block has all floats of every uniform. -/
theorem Effect.Tight.room (h : e.Tight) (hu : e.uniforms[k]? = some u) :
    u.offset + u.type.components ≤ e.uniformLength := by
  obtain ⟨hlt, rfl⟩ := List.getElem?_eq_some_iff.mp hu
  have parts : packedLength (e.uniforms.take (k + 1)) + packedLength (e.uniforms.drop (k + 1)) =
      packedLength e.uniforms := by rw [← packedLength_append, List.take_append_drop]
  have last : packedLength (e.uniforms.take (k + 1)) =
      packedLength (e.uniforms.take k) + e.uniforms[k].type.components := by
    rw [List.take_succ_eq_append_getElem hlt, packedLength_append]
    rfl
  rw [h.offset k _ hu, h.length]
  omega

theorem fitted_eq_slice (h : u.offset + u.type.components ≤ packed.length) :
    fitted u.type.components (packed.drop u.offset) = u.slice packed := by
  have enough : u.type.components - (packed.drop u.offset).length = 0 := by
    rw [List.length_drop]
    omega
  rw [fitted, enough, List.replicate_zero, List.append_nil]
  rfl

theorem length_slice (h : u.offset + u.type.components ≤ packed.length) :
    (u.slice packed).length = u.type.components := by
  rw [← fitted_eq_slice h, length_fitted]

/-! ## GL -/

namespace Gl

open Context

variable {α β : Type}

theorem run_bind_ok {m : ContextM α} {x x' : Context} {v : α} (h : m.run.run x = (.ok v, x'))
    (f : α → ContextM β) : (m >>= f).run.run x = (f v).run.run x' := by
  change (ExceptT.bindCont f (m.run.run x).1 : StateM Context _).run (m.run.run x).2 = _
  rw [h]
  rfl

/-- A context always answers where a uniform is, and the question is all that happens. -/
theorem run_locate (program : Handle .program) (name : String) (x : Context) :
    ∃ answer x', (locate program name).run.run x = (.ok answer, x') ∧
      x'.commands.toList = x.commands.toList ++ [.uniformLocation program name answer] := by
  have start : (get : ContextM Context).run.run x = (.ok x, x) := rfl
  rw [locate, run_bind_ok start]
  dsimp only
  generalize (if (x.host.missingUniforms x.sought).contains name = true then none else _) = answer
  exact ⟨answer, _, rfl, Array.toList_push⟩

/-- Nor does anything else happen when many uniforms are looked up. -/
theorem run_mapM_locate (program : Handle .program) (name : α → String) (found : α → Option Nat → β)
    (xs : List α) (x : Context) :
    ∃ answers x', answers.length = xs.length ∧
      (xs.mapM fun a => do return found a (← locate program (name a))).run.run x =
        (.ok ((xs.zip answers).map fun p => found p.1 p.2), x') ∧
      x'.commands.toList = x.commands.toList ++
        (xs.zip answers).map fun p => .uniformLocation program (name p.1) p.2 := by
  induction xs generalizing x with
  | nil => exact ⟨[], x, rfl, rfl, by simp⟩
  | cons a xs ih =>
    obtain ⟨answer, x₁, hrun, hcommands⟩ := run_locate program (name a) x
    obtain ⟨answers, x₂, hlength, hruns, hcommands'⟩ := ih x₁
    refine ⟨answer :: answers, x₂, congrArg (· + 1) hlength, ?_, ?_⟩
    · have first : (do return found a (← locate program (name a)) : ContextM β).run.run x =
          (.ok (found a answer), x₁) := by
        rw [run_bind_ok hrun]
        rfl
      rw [List.mapM_cons, run_bind_ok first, run_bind_ok hruns]
      rfl
    · rw [hcommands', hcommands, List.append_assoc]
      rfl

/-- What a context is asked and sent for the uniforms of a table: it is asked for their locations in
the order of the table, and where it finds one it is sent the floats of that uniform. -/
def SendsSlices (us : List Uniform) (packed : List Scalar) (program : Handle .program)
    (blend : BlendMode) (x : Context) : Prop :=
  ∃ linked x' locations more,
    (LinkedEffect.make program us blend).run.run x = (.ok linked, x') ∧
    locations.length = us.length ∧
    x'.commands.toList = x.commands.toList ++
      (us.zip locations).map (fun p =>
        .uniformLocation program (uniformMemberName p.1.name) p.2) ++ more ∧
    linked.upload packed =
      (us.zip locations).filterMap fun p => p.2.map (.uniformFloats · (p.1.slice packed))

/-- All contexts are sent the floats of the uniforms that they find. -/
theorem sendsSlices (he : e.Built) (hp : packed.length = e.uniformLength)
    (program : Handle .program) (blend : BlendMode) (x : Context) :
    SendsSlices e.uniforms packed program blend x := by
  obtain ⟨locations, x₁, hlength, hrun, hcommands⟩ :=
    run_mapM_locate program (fun u : Uniform => uniformMemberName u.name)
      LinkedUniform.mk e.uniforms x
  obtain ⟨channels, x₂, -, hrun', hcommands'⟩ :=
    run_mapM_locate program channelSamplerName (fun _ location => location)
      (List.range maxChannels) x₁
  simp only [bind_pure] at hrun'
  have run : (LinkedEffect.make program e.uniforms blend).run.run x =
      (.ok ⟨program, blend, (e.uniforms.zip locations).map fun p => ⟨p.1, p.2⟩,
        ((List.range maxChannels).zip channels).map (·.2)⟩, x₂) := by
    rw [LinkedEffect.make, run_bind_ok hrun, run_bind_ok hrun']
    rfl
  rw [hcommands] at hcommands'
  refine ⟨_, x₂, locations, _, run, hlength, hcommands', ?_⟩
  simp only [LinkedEffect.upload, List.filterMap_map]
  apply List.filterMap_congr
  rintro ⟨u, location⟩ hmem
  obtain ⟨k, hk⟩ := List.mem_iff_getElem?.mp (List.of_mem_zip hmem).1
  simp only [Function.comp_apply, fitted_eq_slice (hp ▸ he.tight.room hk)]

end Gl

/-! ## WGSL -/

/-- A uniform is the `k`-th member of the structure of a table, and starts at a byte. -/
def IsMember (us : List Uniform) (k : Nat) (u : Uniform) (start : Nat) : Prop :=
  us[k]? = some u ∧ (memberOffsets 0 (us.map (·.type)))[k]? = some start

/-- A block is what WGSL makes of the structure of a table, with the floats of a packed block. -/
structure StructureHolds (us : List Uniform) (packed block : List Scalar) : Prop where
  /-- All uniforms are members. -/
  complete : ∀ (k : Nat) (u : Uniform), us[k]? = some u → ∃ start, IsMember us k u start
  /-- A member has its floats where it starts. -/
  members : ∀ k u start, IsMember us k u start →
    ((floatBytes block).drop start).take u.type.byteSize = floatBytes (u.slice packed)
  /-- A member ends before later ones start. -/
  apart : ∀ k u start k' u' start', k < k' → IsMember us k u start → IsMember us k' u' start' →
    start + u.type.byteSize ≤ start'
  /-- Floats outside all members are zero. -/
  rest : ∀ i < block.length,
    (∀ k u start, IsMember us k u start → 4 * i + 4 ≤ start ∨ start + u.type.byteSize ≤ 4 * i) →
      block[i]? = some 0
  /-- The block ends at a row of 16 bytes. -/
  aligned : 16 ∣ (floatBytes block).length
  /-- The block has room for the structure. -/
  room : structureSize (us.map (·.type)) ≤ (floatBytes block).length

/-- The places of a layout belong to the uniforms of the table, one by one. -/
theorem map_getElem?_members (us : List Uniform) (k : Nat) :
    (BlockLayout.ofUniforms us).members[k]?.map (fun m => (m.source, m.length)) =
      us[k]?.map fun u => (u.offset, u.type.components) := by
  have fields := congrArg (·[k]?) (BlockLayout.map_place us 0)
  simp only [List.getElem?_map] at fields
  exact fields

/-- Members start where the rules of WGSL say. -/
theorem isMember_iff {start : Nat} : IsMember us k u start ↔
    us[k]? = some u ∧ ∃ m, (BlockLayout.ofUniforms us).members[k]? = some m ∧
    4 * m.start = start := by
  have offsets : memberOffsets 0 (us.map (·.type)) =
      (BlockLayout.ofUniforms us).members.map (4 * ·.start) := BlockLayout.memberOffsets_eq us 0
  rw [IsMember, offsets, List.getElem?_map, Option.map_eq_some_iff]

/-- The place of a member has its source and its length. -/
theorem IsMember.exists_place {start : Nat} (h : IsMember us k u start) :
    ∃ m, (BlockLayout.ofUniforms us).members[k]? = some m ∧ m.source = u.offset ∧
      m.length = u.type.components ∧ 4 * m.start = start := by
  obtain ⟨hu, m, hm, hstart⟩ := isMember_iff.mp h
  have fields := map_getElem?_members us k
  rw [hm, hu] at fields
  obtain ⟨hsource, hlength⟩ := Prod.mk.inj (Option.some.inj fields)
  exact ⟨m, hm, hsource, hlength, hstart⟩

/-- Every place is that of a member. -/
theorem exists_isMember {m : BlockMember} (hm : (BlockLayout.ofUniforms us).members[k]? = some m) :
    ∃ u, IsMember us k u (4 * m.start) ∧ m.length = u.type.components := by
  have fields := map_getElem?_members us k
  rw [hm] at fields
  obtain ⟨u, hu, hfields⟩ := Option.map_eq_some_iff.mp fields.symm
  exact ⟨u, isMember_iff.mpr ⟨hu, m, hm, rfl⟩, (Prod.mk.inj hfields).2.symm⟩

/-- What is uploaded for a WGSL program is the structure that it declares. -/
theorem structureHolds_repack (he : e.Built) (hp : packed.length = e.uniformLength) :
    StructureHolds e.uniforms packed ((BlockLayout.ofUniforms e.uniforms).repack packed) := by
  have bytes : (floatBytes ((BlockLayout.ofUniforms e.uniforms).repack packed)).length =
      (BlockLayout.ofUniforms e.uniforms).byteLength := by
    rw [length_floatBytes, BlockLayout.length_repack, BlockLayout.byteLength, Nat.mul_comm]
  constructor
  -- every uniform has its place
  · intro k u hu
    have fields := map_getElem?_members e.uniforms k
    rw [hu] at fields
    obtain ⟨m, hm, -⟩ := Option.map_eq_some_iff.mp fields
    exact ⟨4 * m.start, isMember_iff.mpr ⟨hu, m, hm, rfl⟩⟩
  -- the bytes at its place are the floats at its offset
  · intro k u start hmember
    obtain ⟨m, hm, hsource, hlength, rfl⟩ := hmember.exists_place
    have slice := BlockLayout.slice_repack packed (List.mem_of_getElem? hm)
    rw [hsource, hlength, fitted_eq_slice (hp ▸ he.tight.room hmember.1)] at slice
    rw [u.type.byteSize_eq, ← floatBytes_drop, ← floatBytes_take, slice]
  -- places follow one another in the order of the uniforms
  · intro k u start k' u' start' hlt hmember hmember'
    obtain ⟨m, hm, -, hlength, rfl⟩ := hmember.exists_place
    obtain ⟨m', hm', -, -, rfl⟩ := hmember'.exists_place
    obtain ⟨hk, rfl⟩ := List.getElem?_eq_some_iff.mp hm
    obtain ⟨hk', rfl⟩ := List.getElem?_eq_some_iff.mp hm'
    have apart :=
      List.pairwise_iff_getElem.mp (BlockLayout.apart_place e.uniforms 0) k k' hk hk' hlt
    rw [u.type.byteSize_eq, ← hlength, ← Nat.mul_add]
    exact Nat.mul_le_mul_left 4 apart
  -- a float that no member covers is padding
  · intro i hi houtside
    rw [BlockLayout.length_repack] at hi
    apply BlockLayout.getElem?_repack_of_outside hi
    intro m hm hcovers
    obtain ⟨k, hk⟩ := List.mem_iff_getElem?.mp hm
    obtain ⟨u, hmember, hlength⟩ := exists_isMember hk
    have outside := houtside k u _ hmember
    have := hcovers.1
    have := hcovers.2
    rw [u.type.byteSize_eq, ← hlength] at outside
    omega
  -- the size is rounded up to the alignment of the structure, and no further
  · rw [bytes, BlockLayout.byteLength]
    exact Nat.mul_dvd_mul (dvd_roundUp _ 4) (Nat.dvd_refl 4)
  · rw [bytes]
    exact BlockLayout.structureSize_le e.uniforms

/-! ## Both -/

/-- **Uniforms reach a shader identically on every adapter.** The floats of a uniform have their
place in the packed block. A GL context is asked where the uniforms are, and those that it finds are
sent these floats; a WGSL program declares them in the order of the table, and has the same floats
where the rules of the language place the member. -/
theorem uniforms_reach_shaders (he : e.Built) (hp : packed.length = e.uniformLength) :
    (∀ (k : Nat) (u : Uniform), e.uniforms[k]? = some u →
      u.offset = packedLength (e.uniforms.take k) ∧ (u.slice packed).length = u.type.components) ∧
    (∀ (program : Gl.Handle .program) (blend : BlendMode) (x : Gl.Context),
      Gl.SendsSlices e.uniforms packed program blend x) ∧
    (e.generate Wgsl.language).uniforms =
      e.uniforms.map (fun u => u.name ++ ": " ++ u.type.wgslName ++ ",") ∧
    StructureHolds e.uniforms packed ((BlockLayout.ofUniforms e.uniforms).repack packed) := by
  refine ⟨?_, ?_, rfl, structureHolds_repack he hp⟩
  · intro k u hu
    exact ⟨he.tight.offset k u hu, length_slice (hp ▸ he.tight.room hu)⟩
  · intro program blend x
    exact Gl.sendsSlices he hp program blend x

/-- Three floats with one behind them, a pair, and four floats that start at the next row. -/
theorem uniforms_reach_shaders_mixed :
    let e :=
  (((Effect.empty.uniform "tint" .vec3).uniform "gain" .float).uniform "dir" .vec2).uniform
      "rect" .vec4
    let packed := (List.range 13).map Scalar.ofNat
    (e.Built ∧ packed.length = e.uniformLength ∧
      memberOffsets 0 (e.uniforms.map (·.type)) = [0, 8, 16, 28, 32, 48]) ∧
    StructureHolds e.uniforms packed ((BlockLayout.ofUniforms e.uniforms).repack packed) := by
  intro e packed
  have built : e.Built := (((Effect.Built.empty.uniform _ _).uniform _ _).uniform _ _).uniform _ _
  have length : packed.length = e.uniformLength := by decide
  exact ⟨⟨built, length, by decide⟩, (uniforms_reach_shaders built length).2.2.2⟩

end LitTiles
