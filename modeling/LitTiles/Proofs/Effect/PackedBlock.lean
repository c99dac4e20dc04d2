import LitTiles.Proofs.Program.UniformTransfer

/-!
# What is in a packed block

The floats of a block belong to the entries of the uniform table, one stretch to each
(`Effect.Tight.apart`). A value is written to the first entry of its name
(`Effect.uniform?_eq_some_iff`) and fills that stretch, with zeros where the value is short; every
other entry keeps what it has (`Effect.Tight.holds_write`, `Effect.Tight.getElem?_write`). So after
any number of writes an entry has the value of the last one that reaches it
(`Effect.Tight.holds_writeAll`), and zeros if none does.

The program writes to a slice of the block and would stop if that slice did not exist.
`Effect.pack?` packs with these checks; for an effect that was built they never fail
(`Effect.Tight.writeAll?_eq`).
-/

namespace LitTiles

/-- As `overwrite`, but only what lies inside the block can be replaced. -/
def overwrite? (block : List Scalar) (offset : Nat) (xs : List Scalar) : Option (List Scalar) :=
  if offset + xs.length ≤ block.length then some (overwrite block offset xs) else none

/-- The stretch of a uniform has some floats, with zeros where they are too few. -/
def Uniform.Holds (u : Uniform) (block xs : List Scalar) : Prop :=
  ∀ j < u.type.components, block[u.offset + j]? = some (xs.getD j 0)

theorem getElem?_fitted {n j : Nat} (xs : List Scalar) (hj : j < n) :
    (fitted n xs)[j]? = some (xs.getD j 0) := by
  rw [fitted, List.getElem?_append, List.length_take, List.getD_eq_getElem?_getD]
  by_cases inside : j < xs.length
  · rw [if_pos (by omega), List.getElem?_take_of_lt hj, List.getElem?_eq_getElem inside,
      Option.getD_some]
  · rw [if_neg (by omega), List.getElem?_replicate, if_pos (by omega),
      List.getElem?_eq_none (by omega), Option.getD_none]

namespace Effect

/-- As `write`, with the checks. -/
def write? (e : Effect) (block : List Scalar) (name : String) (value : List Scalar) :
    Option (List Scalar) :=
  match e.uniform? name with
  | none => some block
  | some u => overwrite? block u.offset (fitted u.type.components value)

/-- As `pack`, with the checks. -/
def pack? (e : Effect) (resolution : SurfaceSize) (time : Scalar)
    (overrides : List UniformOverride) :
    Option (List Scalar) := do
  let zeros := List.replicate e.uniformLength (0 : Scalar)
  let block ← e.write? zeros resolutionName resolution.toList
  let block ← e.write? block timeName [time]
  overrides.foldlM (fun block o => e.write? block o.name o.value.components) block

/-- The value of a built-in uniform; other uniforms have none. -/
def builtIn (resolution : SurfaceSize) (time : Scalar) (name : String) : List Scalar :=
  if name = resolutionName then resolution.toList else if name = timeName then [time] else []

/-- A uniform is the `k`-th entry of the table, and the first one of its name. -/
def IsFirst (e : Effect) (k : Nat) (u : Uniform) : Prop :=
  e.uniforms[k]? = some u ∧ ∀ v ∈ e.uniforms.take k, v.name ≠ u.name

/-- A block is what a resolution, a time and some overrides are for an effect. -/
structure Packs (e : Effect) (resolution : SurfaceSize) (time : Scalar)
    (overrides : List UniformOverride) (block : List Scalar) : Prop where
  /-- An entry that repeats a name is zero. -/
  repeated : ∀ k u, e.uniforms[k]? = some u → (∃ v ∈ e.uniforms.take k, v.name = u.name) →
    u.Holds block []
  /-- The first entry of a name has the last override. -/
  overridden : ∀ k u before o after, e.IsFirst k u → overrides = before ++ o :: after →
    o.name = u.name → (∀ o' ∈ after, o'.name ≠ u.name) → u.Holds block o.value.components
  /-- Without an override it has the built-in value. -/
  otherwise : ∀ k u, e.IsFirst k u → (∀ o ∈ overrides, o.name ≠ u.name) →
    u.Holds block (builtIn resolution time u.name)

variable {e : Effect} {u u' : Uniform} {k k' : Nat} {block : List Scalar} {name : String}

/-! ## Entries of the table -/

/-- Names are looked up from the start of the table. -/
theorem uniform?_eq_some_iff : e.uniform? name = some u ↔ ∃ k, e.IsFirst k u ∧ u.name = name := by
  rw [uniform?, List.find?_eq_some_iff_append]
  constructor
  · rintro ⟨hname, before, after, htable, hbefore⟩
    obtain rfl : u.name = name := beq_iff_eq.mp hname
    refine ⟨before.length, ⟨?_, ?_⟩, rfl⟩
    · rw [htable, List.getElem?_append_right (Nat.le_refl _), Nat.sub_self, List.getElem?_cons_zero]
    · intro v hv
      rw [htable, List.take_left] at hv
      have other := hbefore v hv
      simpa using other
  · rintro ⟨k, ⟨hu, hfirst⟩, rfl⟩
    obtain ⟨hk, rfl⟩ := List.getElem?_eq_some_iff.mp hu
    refine ⟨beq_self_eq_true _, e.uniforms.take k, e.uniforms.drop (k + 1), ?_, ?_⟩
    · rw [List.getElem_cons_drop, List.take_append_drop]
    · intro v hv
      simpa using hfirst v hv

/-- Entries lie behind each other. -/
theorem Tight.apart (h : e.Tight) (hu : e.uniforms[k]? = some u) (hu' : e.uniforms[k']? = some u')
    (hlt : k < k') : u.offset + u.type.components ≤ u'.offset := by
  obtain ⟨hk, rfl⟩ := List.getElem?_eq_some_iff.mp hu
  have start : (e.uniforms.take k').take (k + 1) = e.uniforms.take k ++ [e.uniforms[k]] := by
    rw [List.take_take, min_eq_left hlt, List.take_succ_eq_append_getElem hk]
  have parts := congrArg packedLength (List.take_append_drop (k + 1) (e.uniforms.take k'))
  have own : packedLength [e.uniforms[k]] = e.uniforms[k].type.components := rfl
  rw [start, packedLength_append, packedLength_append, own] at parts
  rw [h.offset k _ hu, h.offset k' _ hu', ← parts]
  exact Nat.le_add_right _ _

/-- The stretch of an entry is inside the block. -/
theorem Tight.room_fitted (h : e.Tight) (hb : block.length = e.uniformLength)
    (hu : e.uniforms[k]? = some u) (value : List Scalar) :
    u.offset + (fitted u.type.components value).length ≤ block.length := by
  rw [length_fitted, hb]
  exact h.room hu

/-! ## One write -/

/-- A write is inside the block. -/
theorem Tight.write?_eq (h : e.Tight) (hb : block.length = e.uniformLength) (name : String)
    (value : List Scalar) : e.write? block name value = some (e.write block name value) := by
  unfold write? write
  cases hu : e.uniform? name with
  | none => rfl
  | some u =>
    obtain ⟨k, hfirst, -⟩ := uniform?_eq_some_iff.mp hu
    exact if_pos (h.room_fitted hb hfirst.1 value)

/-- Nor does it change the length of the block. -/
theorem Tight.length_write (h : e.Tight) (hb : block.length = e.uniformLength) (name : String)
    (value : List Scalar) : (e.write block name value).length = e.uniformLength := by
  unfold write
  cases hu : e.uniform? name with
  | none => exact hb
  | some u =>
    obtain ⟨k, hfirst, -⟩ := uniform?_eq_some_iff.mp hu
    exact (length_overwrite (h.room_fitted hb hfirst.1 value)).trans hb

/-- A value fills the first entry of its name. -/
theorem Tight.holds_write (h : e.Tight) (hb : block.length = e.uniformLength) (hu : e.IsFirst k u)
    (value : List Scalar) : u.Holds (e.write block u.name value) value := by
  intro j hj
  simp only [write, uniform?_eq_some_iff.mpr ⟨k, hu, rfl⟩]
  rw [BlockLayout.getElem?_overwrite (h.room_fitted hb hu.1 value), length_fitted,
    if_pos (by omega), Nat.add_sub_cancel_left, getElem?_fitted value hj]

/-- Other entries keep what they have. -/
theorem Tight.getElem?_write (h : e.Tight) (hb : block.length = e.uniformLength)
    (hu : e.uniforms[k]? = some u) (hother : ¬ (e.IsFirst k u ∧ u.name = name))
    (value : List Scalar) {j : Nat} (hj : j < u.type.components) :
    (e.write block name value)[u.offset + j]? = block[u.offset + j]? := by
  unfold write
  cases hfound : e.uniform? name with
  | none => rfl
  | some v =>
    obtain ⟨i, hfirst, hname⟩ := uniform?_eq_some_iff.mp hfound
    have different : i ≠ k := by
      rintro rfl
      obtain rfl := Option.some.inj (hu.symm.trans hfirst.1)
      exact hother ⟨hfirst, hname⟩
    have room := h.room_fitted hb hfirst.1 value
    have outside : ¬ (v.offset ≤ u.offset + j ∧ u.offset + j < v.offset + v.type.components) := by
      rcases Nat.lt_or_gt_of_ne different with hlt | hlt
      · have := h.apart hfirst.1 hu hlt
        omega
      · have := h.apart hu hfirst.1 hlt
        omega
    exact (BlockLayout.getElem?_overwrite room _).trans (if_neg (by rwa [length_fitted]))

/-! ## Many writes -/

/-- Writes values one after the other. -/
def writeAll (e : Effect) (block : List Scalar)
    (writes : List (String × List Scalar)) : List Scalar :=
  writes.foldl (fun block w => e.write block w.1 w.2) block

/-- All that is written to the block of an invocation. -/
def writes (resolution : SurfaceSize) (time : Scalar) (overrides : List UniformOverride) :
    List (String × List Scalar) :=
  (resolutionName, resolution.toList) :: (timeName, [time]) ::
    overrides.map fun o => (o.name, o.value.components)

theorem pack_eq_writeAll (e : Effect) (resolution : SurfaceSize) (time : Scalar)
    (overrides : List UniformOverride) :
    e.pack resolution time overrides =
      e.writeAll (List.replicate e.uniformLength 0) (writes resolution time overrides) := by
  rw [writeAll, writes, List.foldl_cons, List.foldl_cons, List.foldl_map]
  rfl

theorem pack?_eq_foldlM (e : Effect) (resolution : SurfaceSize) (time : Scalar)
    (overrides : List UniformOverride) :
    e.pack? resolution time overrides =
      (writes resolution time overrides).foldlM (fun block w => e.write? block w.1 w.2)
        (List.replicate e.uniformLength 0) := by
  rw [writes, List.foldlM_cons, pack?]
  simp only [List.foldlM_cons, List.foldlM_map]

theorem Tight.length_writeAll (h : e.Tight) (hb : block.length = e.uniformLength)
    (ws : List (String × List Scalar)) : (e.writeAll block ws).length = e.uniformLength := by
  induction ws generalizing block with
  | nil => exact hb
  | cons w ws ih => exact ih (h.length_write hb w.1 w.2)

theorem Tight.writeAll?_eq (h : e.Tight) (hb : block.length = e.uniformLength)
    (ws : List (String × List Scalar)) :
    ws.foldlM (fun block w => e.write? block w.1 w.2) block = some (e.writeAll block ws) := by
  induction ws generalizing block with
  | nil => rfl
  | cons w ws ih =>
    rw [List.foldlM_cons, h.write?_eq hb]
    exact ih (h.length_write hb w.1 w.2)

/-- Writes that do not reach an entry leave it alone. -/
theorem Tight.getElem?_writeAll (h : e.Tight) (hb : block.length = e.uniformLength)
    (hu : e.uniforms[k]? = some u) {ws : List (String × List Scalar)}
    (hother : ∀ w ∈ ws, ¬ (e.IsFirst k u ∧ u.name = w.1)) {j : Nat} (hj : j < u.type.components) :
    (e.writeAll block ws)[u.offset + j]? = block[u.offset + j]? := by
  induction ws generalizing block with
  | nil => rfl
  | cons w ws ih =>
    obtain ⟨hw, hws⟩ := List.forall_mem_cons.mp hother
    exact (ih (h.length_write hb w.1 w.2) hws).trans (h.getElem?_write hb hu hw w.2 hj)

/-- The last value of its name is what the first entry of the name has in the end. -/
theorem Tight.holds_writeAll (h : e.Tight) (hb : block.length = e.uniformLength)
    (hu : e.IsFirst k u) (before after : List (String × List Scalar)) (value : List Scalar)
    (hafter : ∀ w ∈ after, w.1 ≠ u.name) :
    u.Holds (e.writeAll block (before ++ (u.name, value) :: after)) value := by
  intro j hj
  have hbefore := h.length_writeAll hb before
  have hwritten := h.length_write hbefore u.name value
  rw [writeAll, List.foldl_append, List.foldl_cons]
  have unreached : ∀ w ∈ after, ¬ (e.IsFirst k u ∧ u.name = w.1) := fun w hw hreached =>
    hafter w hw hreached.2.symm
  have untouched := h.getElem?_writeAll hwritten hu.1 unreached hj
  exact untouched.trans (h.holds_write hbefore hu value j hj)

/-- An entry that no write reaches stays zero. -/
theorem Tight.holds_writeAll_nil (h : e.Tight) (hu : e.uniforms[k]? = some u)
    {ws : List (String × List Scalar)} (hother : ∀ w ∈ ws, ¬ (e.IsFirst k u ∧ u.name = w.1)) :
    u.Holds (e.writeAll (List.replicate e.uniformLength 0) ws) [] := by
  intro j hj
  have room := h.room hu
  rw [h.getElem?_writeAll List.length_replicate hu hother hj, List.getElem?_replicate,
    if_pos (by omega)]
  rfl

/-! ## The block of an invocation -/

/-- The block has the length of the table, whatever is overridden. -/
theorem Tight.length_pack (h : e.Tight) (resolution : SurfaceSize) (time : Scalar)
    (overrides : List UniformOverride) :
    (e.pack resolution time overrides).length = e.uniformLength := by
  rw [pack_eq_writeAll]
  exact h.length_writeAll List.length_replicate _

theorem Tight.packs (h : e.Tight) (resolution : SurfaceSize) (time : Scalar)
    (overrides : List UniformOverride) :
    e.Packs resolution time overrides (e.pack resolution time overrides) := by
  rw [pack_eq_writeAll]
  constructor
  -- the first of two uniforms of one name is not reached by any value
  · intro k u hu hrepeated
    apply h.holds_writeAll_nil hu
    rintro w - ⟨hfirst, -⟩
    obtain ⟨v, hv, hname⟩ := hrepeated
    exact hfirst.2 v hv hname
  -- of several overrides the last one counts, as the others are written before it
  · rintro k u before o after hu rfl hname hafter
    have length : (List.replicate e.uniformLength (0 : Scalar)).length = e.uniformLength :=
      List.length_replicate
    have others : ∀ w ∈ after.map fun o => (o.name, o.value.components), w.1 ≠ u.name :=
      List.forall_mem_map.mpr hafter
    have last :=
      h.holds_writeAll length hu (writes resolution time before) _ o.value.components others
    rw [← hname] at last
    simpa only [writes, List.map_append, List.map_cons, List.cons_append] using last
  -- without an override the two built-in values come through, and anything else stays zero
  · intro k u hu hnone
    have others : ∀ w ∈ overrides.map fun o => (o.name, o.value.components), w.1 ≠ u.name :=
      List.forall_mem_map.mpr hnone
    rw [builtIn]
    split_ifs with hresolution htime
    · have time : timeName ≠ u.name := by
        rw [hresolution]
        decide
      rw [writes, ← hresolution]
      exact h.holds_writeAll List.length_replicate hu [] _ _
        (List.forall_mem_cons.mpr ⟨time, others⟩)
    · rw [writes, ← htime]
      exact h.holds_writeAll List.length_replicate hu
        [(resolutionName, resolution.toList)] _ _ others
    · apply h.holds_writeAll_nil hu.1
      rintro w hw ⟨-, hname⟩
      rcases List.mem_cons.mp hw with rfl | hw
      · exact hresolution hname
      rcases List.mem_cons.mp hw with rfl | hw
      · exact htime hname
      · exact others w hw hname.symm

/-- **The packed block of an effect.** Packing never leaves the block, and the block has a float for
each component of the table, whose entries follow each other. An entry that repeats a name is zero.
The first entry of a name has the components of the last override, with zeros where that has fewer;
without an override, the resolution and the time are what they are and all other uniforms are
zero. -/
theorem pack_spec (he : e.Built) (resolution : SurfaceSize) (time : Scalar)
    (overrides : List UniformOverride) :
    e.pack? resolution time overrides = some (e.pack resolution time overrides) ∧
    (e.pack resolution time overrides).length = e.uniformLength ∧
    e.uniformLength = packedLength e.uniforms ∧
    (∀ k u, e.uniforms[k]? = some u → u.offset = packedLength (e.uniforms.take k)) ∧
    e.Packs resolution time overrides (e.pack resolution time overrides) := by
  have h := he.tight
  have checked : e.pack? resolution time overrides = some (e.pack resolution time overrides) := by
    rw [pack?_eq_foldlM, pack_eq_writeAll]
    exact h.writeAll?_eq List.length_replicate _
  exact ⟨checked, h.length_pack resolution time overrides, h.length, h.offset,
    h.packs resolution time overrides⟩

/-- Names that are declared again, a built-in one among them, and overrides that are too long or too
short. -/
theorem pack_spec_repeated :
    let e :=
  (((Effect.empty.uniform "tint" .vec3).uniform "time" .vec2).uniform "tint" .vec2).uniform
      "gain" .float
    let overrides : List UniformOverride :=
      [⟨"tint", .vec4 1 2 3 4⟩, ⟨"time", .vec2 5 6⟩, ⟨"tint", .vec2 7 8⟩, ⟨"glow", .float 9⟩]
    let block := (SurfaceSize.mk 320 240).toList ++ [5, 7, 8, 0, 0, 0, 0, 0, 0]
    e.Built ∧ e.pack? ⟨320, 240⟩ 0 overrides = some block ∧
      e.Packs ⟨320, 240⟩ 0 overrides block := by
  intro e overrides block
  have built : e.Built := (((Built.empty.uniform _ _).uniform _ _).uniform _ _).uniform _ _
  have packed : e.pack ⟨320, 240⟩ 0 overrides = block := rfl
  obtain ⟨checked, -, -, -, packs⟩ := pack_spec built ⟨320, 240⟩ 0 overrides
  exact ⟨built, packed ▸ checked, packed ▸ packs⟩

end Effect

end LitTiles
