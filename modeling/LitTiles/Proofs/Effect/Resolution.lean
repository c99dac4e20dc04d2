import LitTiles.Proofs.Frame.Command

/-!
# Where the resolution is packed

Effects are built up from the empty one by statements and uniforms (`Effect.Built`). So whatever an
effect declares, its resolution has the first two places of the block (`Built.laid`), and packing
puts the size of the output there, unless it is overridden under its own name (`Laid.prefix_pack`).
-/

namespace LitTiles

/-- What is written behind the start of a block leaves the start alone. -/
theorem prefix_overwrite {start block xs : List Scalar} {offset : Nat} (hp : start <+: block)
    (hl : start.length ≤ offset) : start <+: overwrite block offset xs := by
  rw [overwrite, List.append_assoc]
  exact (List.prefix_take_iff.mpr ⟨hp, hl⟩).trans (List.prefix_append _ _)

/-- A value of the right length fits as it is. -/
theorem fitted_of_length {n : Nat} {xs : List Scalar} (hl : xs.length = n) : fitted n xs = xs := by
  subst hl
  simp [fitted]

namespace Effect

variable {e : Effect}

/-- An effect that was built from the empty one. -/
inductive Built : Effect → Prop
  /-- Nothing but the built-in uniforms. -/
  | empty : Built Effect.empty
  /-- One more statement. -/
  | statement {e : Effect} (s : Statement) (h : Built e) : Built (e.statement s)
  /-- One more uniform. -/
  | uniform {e : Effect} (name : String) (type : ValueType) (h : Built e) :
    Built (e.uniform name type)

/-- The resolution has the first two places of the block. -/
structure Laid (e : Effect) : Prop where
  /-- It is the first place of its name. -/
  resolution : e.uniform? resolutionName = some ⟨resolutionName, .vec2, 0⟩
  /-- All other names have places behind it. -/
  others : ∀ name u, name ≠ resolutionName → e.uniform? name = some u → 2 ≤ u.offset
  /-- The block has room for it. -/
  room : 2 ≤ e.uniformLength

/-- A uniform that is declared is found, unless one of its name was declared before. -/
theorem uniform?_uniform (e : Effect) (name name' : String) (type : ValueType) :
    (e.uniform name type).uniform? name' = (e.uniform? name').or
      (if name = name' then some ⟨name, type, e.uniformLength⟩ else none) := by
  simp only [uniform?, uniform, List.find?_append, List.find?_singleton, beq_iff_eq]

theorem laid_empty : Laid empty where
  resolution := by decide
  others := by
    intro name u hn hu
    have time : ∀ u' ∈ empty.uniforms, u'.name ≠ resolutionName → 2 ≤ u'.offset := by decide
    have hname : u.name = name := by simpa using List.find?_some hu
    exact time u (List.mem_of_find?_eq_some hu) (hname ▸ hn)
  room := by decide

/-- A further uniform comes behind those that are there. -/
theorem Laid.uniform (h : e.Laid) (name : String) (type : ValueType) :
    (e.uniform name type).Laid where
  resolution := by
    rw [uniform?_uniform, h.resolution]
    rfl
  others := by
    intro name' u hn hu
    rw [uniform?_uniform] at hu
    cases hf : e.uniform? name' with
    | some u' =>
      rw [hf] at hu
      obtain rfl := Option.some.inj hu
      exact h.others name' u' hn hf
    | none =>
      rw [hf, Option.none_or] at hu
      split at hu
      · obtain rfl := Option.some.inj hu
        exact h.room
      · cases hu
  room := h.room.trans (Nat.le_add_right _ _)

/-- Whatever was built with the builder has its resolution where a pass writes it. By induction on
how it was built. -/
theorem Built.laid (h : e.Built) : e.Laid := by
  induction h with
  | empty => exact laid_empty
  | statement s _ ih => exact ⟨ih.resolution, ih.others, ih.room⟩
  | uniform name type _ ih => exact ih.uniform name type

/-- A value of another name leaves the resolution alone. -/
theorem Laid.prefix_write (h : e.Laid) {start block value : List Scalar} {name : String}
    (hp : start <+: block) (hl : start.length = 2) (hn : name ≠ resolutionName) :
    start <+: e.write block name value := by
  unfold write
  cases hu : e.uniform? name with
  | none => exact hp
  | some u => exact prefix_overwrite hp (hl ▸ h.others name u hn hu)

/-- So do overrides of other names, one after the other. -/
theorem Laid.prefix_overrides (h : e.Laid) {start block : List Scalar}
    {overrides : List UniformOverride} (hp : start <+: block) (hl : start.length = 2)
    (ho : ∀ o ∈ overrides, o.name ≠ resolutionName) :
    start <+: overrides.foldl (fun block o => e.write block o.name o.value.components) block := by
  induction overrides generalizing block with
  | nil => exact hp
  | cons o overrides ih =>
    refine ih ?_ fun o' ho' => ho o' (List.mem_cons_of_mem o ho')
    exact h.prefix_write hp hl (ho o List.mem_cons_self)

/-- The block starts with the resolution, if it is not overridden. -/
theorem Laid.prefix_pack (h : e.Laid) (resolution : SurfaceSize) (time : Scalar)
    {overrides : List UniformOverride} (ho : ∀ o ∈ overrides, o.name ≠ resolutionName) :
    resolution.toList <+: e.pack resolution time overrides := by
  have first : resolution.toList <+:
      e.write (List.replicate e.uniformLength 0) resolutionName resolution.toList := by
    have fits : fitted ValueType.vec2.components resolution.toList = resolution.toList :=
      fitted_of_length rfl
    simp only [write, h.resolution, overwrite, List.take_zero, List.nil_append, fits]
    exact List.prefix_append _ _
  exact h.prefix_overrides (h.prefix_write first rfl (by decide)) rfl ho

/-! ## Effects of the library -/

theorem Built.declare (h : e.Built) (name : String) (type : ValueType) :
    (e.declare name type).Built :=
  h.statement _

theorem Built.assign (h : e.Built) (op : Assignment) (target expr : String) :
    (e.assign op target expr).Built := h.statement _

theorem Built.set (h : e.Built) (target expr : String) : (e.set target expr).Built := h.assign ..

theorem Built.add (h : e.Built) (target expr : String) : (e.add target expr).Built := h.assign ..

theorem built_withUv : withUv.Built := (Built.empty.declare _ _).set _ _

/-- The effects of the library are built with the builder. -/
theorem built_blur (axis : String) : (blur axis).Built := by
  have start := ((built_withUv.uniform "radius" .float).declare "texel" .vec2).set "texel"
    (axis ++ " * uniforms.radius / uniforms.resolution")
  exact ((((start.set _ _).add _ _).add _ _).add _ _).add _ _

theorem built_vignette : vignette.Built := by
  have start :=
    ((built_withUv.uniform "strength" .float).uniform "radius" .float).uniform "softness" .float
  exact (((((start.declare _ _).declare _ _).set _ _).set _ _).set _ _).assign .mul _ _

theorem built_grayscale : grayscale.Built := by
  have start := (built_withUv.uniform "amount" .float).declare "luma" .float
  exact (((((start.set _ _).statement _).set _ _).set _ _).statement _)

end Effect

/-! ## Registered effects -/

namespace Registry

variable {g : Registry}

/-- All registered effects were built. -/
def Built (g : Registry) : Prop := ∀ name e, g.find? name = some e → e.effect.Built

/-- All effects that are registered from the start are built with the builder. -/
theorem built_builtIns : ∀ b ∈ builtIns, b.2.1.Built := by
  have copy : Effect.copy.Built := Effect.built_withUv.set _ _
  have light : Effect.light.Built := Effect.built_withUv.set _ _
  simp only [builtIns, List.forall_mem_cons, List.not_mem_nil, false_imp_iff,
    implies_true, and_true]
  exact ⟨copy, copy, light, Effect.built_blur _, Effect.built_blur _, Effect.built_vignette,
    Effect.built_grayscale⟩

theorem Built.insert (h : g.Built) {name : String} {e : RegisteredEffect} (he : e.effect.Built) :
    (g.insert name e).Built := by
  intro name' e' hf
  by_cases hn : name' = name
  · rw [hn, find?_insert_self] at hf
    obtain rfl := Option.some.inj hf
    exact he
  · rw [find?_insert_of_ne e hn] at hf
    exact h name' e' hf

end Registry

end LitTiles
