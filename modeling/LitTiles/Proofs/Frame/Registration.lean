import LitTiles.Proofs.Backend.Shelf
import LitTiles.Proofs.Effect.PackedBlock
import LitTiles.Proofs.Gl.Flawless
import LitTiles.Proofs.Wgpu.Flawless

/-!
# The registry and its backend

Effects are known twice: to the registry, which packs their uniforms, and to the backend, which runs
them. A `Desk` is a registry with its backend, and remembers what compiled last under each name.
Whatever it is used for, both sides hold just that (`Desk.InStep`), although compiling may fail at
any time.

So a stage either has a fault (`Stage.fault?`), and then the backend is not called at all, or it is
run by exactly one call, with as many floats as the effect has that compiled last
(`registry_in_step`).
-/

namespace LitTiles

/-! ## Faults -/

namespace Stage

variable {registry : Registry} {frame : FrameContext} {s : Stage}

/-- The first fault of a stage, if its effect is known or not. -/
def fault? (s : Stage) (known : Bool) : Option RenderError :=
  if known = false then some (.unknownProgram s.effect)
  else if maxChannels < s.inputs.length
    then some (.tooManyInputs s.effect s.inputs.length maxChannels)
  else match s.inputs.find? (OffscreenSlot.count ≤ ·), s.output with
    | some bad, _ => some (.unknownTarget bad)
    | none, .offscreen i => if OffscreenSlot.count ≤ i then some (.unknownTarget i) else none
    | none, .surface => none

/-- A stage with a fault is checked with this fault. -/
theorem command_of_fault {err : RenderError}
    (h : s.fault? (registry.find? s.effect).isSome = some err) :
    s.command registry frame = .error err := by
  -- the checks of the stage are made in the order in which faults are named
  have failed : s.check registry frame = .error err := by
    unfold check Registry.get
    unfold fault? at h
    cases hk : registry.find? s.effect with
    | none =>
      rw [hk, Option.isSome_none, if_pos rfl] at h
      obtain rfl := Option.some.inj h
      rfl
    | some e =>
      rw [hk, Option.isSome_some, if_neg nofun] at h
      by_cases hc : maxChannels < s.inputs.length
      · rw [if_pos hc] at h
        obtain rfl := Option.some.inj h
        simp [bind, Except.bind, hc, throw, throwThe, MonadExceptOf.throw]
      · rw [if_neg hc] at h
        cases hi : s.inputs.find? (OffscreenSlot.count ≤ ·) with
        | some bad =>
          rw [hi] at h
          obtain rfl := Option.some.inj h
          simp [bind, Except.bind, hc, throw, throwThe, MonadExceptOf.throw]
        | none =>
          rw [hi] at h
          cases ho : s.output with
          | surface =>
            rw [ho] at h
            cases h
          | offscreen i =>
            rw [ho] at h
            dsimp only at h
            split at h
            · rename_i hr
              obtain rfl := Option.some.inj h
              have missing : (slotSizes frame.surface)[i]? = none := by
                rw [List.getElem?_eq_none_iff, length_slotSizes]
                exact hr
              simp [bind, Except.bind, hc, FrameContext.sizeOf, missing]
            · cases h
  rw [command, failed]
  rfl

/-- A stage without fault is sound. -/
theorem sound_of_fault_eq_none (h : s.fault? (registry.find? s.effect).isSome = none) :
    s.Sound registry := by
  unfold fault? at h
  split at h
  · cases h
  split at h
  · cases h
  rename_i known channels
  have inputs : s.inputs.find? (OffscreenSlot.count ≤ ·) = none := by
    cases hi : s.inputs.find? (OffscreenSlot.count ≤ ·) with
    | none => rfl
    | some bad =>
      rw [hi] at h
      cases h
  refine ⟨Bool.not_eq_false _ ▸ known, Nat.not_lt.mp channels,
    by simpa using inputs, fun i ho => ?_⟩
  rw [inputs, ho] at h
  dsimp only at h
  split at h
  · cases h
  · omega

end Stage

/-! ## Desks -/

/-- What a registry is used for, and the backend that it compiles on. -/
inductive Use where
  /-- An effect is registered. -/
  | register (name : String) (effect : Effect) (built : effect.Built) (blend : BlendMode)
  /-- A stage is run. -/
  | run (stage : Stage) (frame : FrameContext)
  /-- The backend is called for something else. -/
  | call (c : Call) (other : c.compiles = false)

/-- A registry with its backend. -/
structure Desk (ρ : Type) where
  /-- The registry. -/
  registry : Registry
  /-- The backend. -/
  backend : ρ
  /-- The effect that compiled last under each name. -/
  last : String → Option RegisteredEffect

namespace Desk

variable {ρ κ : Type} {b : Backend ρ} {shelf : Shelf b κ} {i : Interface} {d : Desk ρ}

/-- Nothing was registered yet. -/
def start (i : Interface) (r : ρ) : Desk ρ := ⟨{ interface := i }, r, fun _ => none⟩

/-- The calls that are made to run a stage. -/
def calls (b : Backend ρ) (d : Desk ρ) (s : Stage) (frame : FrameContext) : List Exchange :=
  (Stage.run d.registry frame s : Action Registry Unit).heard b d.registry d.backend

/-- What running a stage answers. -/
def answer (b : Backend ρ) (d : Desk ρ) (s : Stage) (frame : FrameContext) :
    Except RenderError Unit :=
  ((Stage.run d.registry frame s : Action Registry Unit).play b d.registry d.backend).1

/-- What compiled last, if something was compiled among some calls. -/
def lastAfter (d : Desk ρ) (name : String) (e : RegisteredEffect) (h : List Exchange) :
    String → Option RegisteredEffect :=
  if h.any (·.compiled?.isSome) then Function.update d.last name (some e) else d.last

/-- A desk after one use. -/
def use (b : Backend ρ) (d : Desk ρ) : Use → Desk ρ
  | .register name effect _ blend =>
    let register := Registry.register name effect blend
    let (_, registry, backend) := register.play b d.registry d.backend
    ⟨registry, backend, d.lastAfter name ⟨effect, blend⟩ (register.heard b d.registry d.backend)⟩
  | .run stage frame =>
    let (_, registry, backend) :=
      (Stage.run d.registry frame stage : Action Registry Unit).play b d.registry d.backend
    ⟨registry, backend, d.last⟩
  | .call c _ => { d with backend := (b.perform c d.backend).2 }

/-- A desk after some uses. -/
def serve (b : Backend ρ) (d : Desk ρ) (uses : List Use) : Desk ρ := uses.foldl (use b) d

/-- The program that was compiled last under a name. -/
def program (i : Interface) (d : Desk ρ) (name : String) : Option EffectProgram :=
  (d.last name).map fun e => .ofEffect i.dialect e.effect e.blend

/-- **The registry and the backend are in step**: for each name both hold what compiled last. -/
structure InStep (shelf : Shelf b κ) (i : Interface) (d : Desk ρ) : Prop where
  /-- Effects are compiled for one interface. -/
  interface : d.registry.interface = i
  /-- The registry. -/
  registry : ∀ name, d.registry.find? name = d.last name
  /-- The backend. -/
  backend : shelf.Holds (d.program i) d.backend
  /-- All effects were built. -/
  built : ∀ name e, d.last name = some e → e.effect.Built

theorem inStep_start {r : ρ} (hr : shelf.entries r = []) : InStep shelf i (start i r) :=
  ⟨rfl, fun _ => rfl, shelf.holds_of_empty hr, nofun⟩

theorem InStep.register (h : InStep shelf i d) (name : String) (effect : Effect)
    (built : effect.Built) (blend : BlendMode) :
    InStep shelf i (d.use b (.register name effect built blend)) := by
  let register := Registry.register name effect blend
  obtain ⟨heard, outcome⟩ := Registry.leads_register (register.leads_heard b d.registry d.backend)
  have backend := h.backend.run (register.run.run d.registry)
  change shelf.Holds ((register.heard b d.registry d.backend).foldl Exchange.learn _)
    (register.play b d.registry d.backend).2.2 at backend
  have after : d.use b (.register name effect built blend) =
      ⟨(register.play b d.registry d.backend).2.1,
    (register.play b d.registry d.backend).2.2,
    d.lastAfter name ⟨effect, blend⟩ (register.heard b d.registry d.backend)⟩ := rfl
  rw [after, heard]
  rw [heard] at backend
  -- the registry remembers the effect if the backend took it, and else nothing changes on either
  -- side
  rcases outcome with ⟨ok, registry⟩ | ⟨e, failed, registry⟩
  · rw [ok] at backend ⊢
    rw [registry]
    refine ⟨h.interface, fun name' => ?_, ?_, fun name' e' he => ?_⟩
    · change _ = Function.update d.last name (some ⟨effect, blend⟩) name'
      by_cases hn : name' = name
      · rw [hn, Registry.find?_insert_self, Function.update_self]
      · rw [Registry.find?_insert_of_ne _ hn, Function.update_of_ne hn]
        exact h.registry name'
    · refine (congrArg (shelf.Holds · _) ?_).mp backend
      funext name'
      rw [h.interface]
      change Function.update (d.program i) name _ name' =
        (Function.update d.last name _ name').map _
      by_cases hn : name' = name
      · subst hn
        rw [Function.update_self, Function.update_self]
        rfl
      · rw [Function.update_of_ne hn, Function.update_of_ne hn]
        rfl
    · change Function.update d.last name (some ⟨effect, blend⟩) name' = some e' at he
      by_cases hn : name' = name
      · rw [hn, Function.update_self] at he
        obtain rfl := Option.some.inj he
        exact built
      · rw [Function.update_of_ne hn] at he
        exact h.built name' e' he
  · rw [failed] at backend ⊢
    rw [registry]
    exact ⟨h.interface, h.registry, backend, h.built⟩

/-- What is wrong with a stage is told without a call, and otherwise there is exactly one. -/
theorem InStep.run (h : InStep shelf i d) (s : Stage) (frame : FrameContext) :
    InStep shelf i (d.use b (.run s frame)) := by
  let run : Action Registry Unit := Stage.run d.registry frame s
  obtain ⟨registry, outcome⟩ := Stage.leads_run.mp (run.leads_heard b d.registry d.backend)
  have backend := h.backend.run (run.run.run d.registry)
  change shelf.Holds ((run.heard b d.registry d.backend).foldl Exchange.learn _)
    (run.play b d.registry d.backend).2.2 at backend
  have nothing : (run.heard b d.registry d.backend).foldl Exchange.learn (d.program i) =
      d.program i := by
    rcases outcome with ⟨err, -, heard, -⟩ | ⟨c, hc, heard⟩
    · rw [heard]
      rfl
    · rw [heard]
      obtain ⟨e, size, -, rfl⟩ := Stage.command_eq_ok_iff.mp hc
      rfl
  rw [nothing] at backend
  have after : d.use b (.run s frame) =
      ⟨(run.play b d.registry d.backend).2.1, (run.play b d.registry d.backend).2.2, d.last⟩ := rfl
  rw [after, registry]
  exact ⟨h.interface, h.registry, backend, h.built⟩

theorem InStep.use (h : InStep shelf i d) (u : Use) : InStep shelf i (d.use b u) := by
  cases u with
  | register name effect built blend => exact h.register name effect built blend
  | run s frame => exact h.run s frame
  | call c other =>
    refine ⟨h.interface, h.registry, ?_, h.built⟩
    have backend := h.backend.perform c
    rwa [Exchange.learn_of_others other] at backend

theorem InStep.serve (h : InStep shelf i d) (uses : List Use) :
    InStep shelf i (d.serve b uses) := by
  induction uses generalizing d with
  | nil => exact h
  | cons u uses ih => exact ih (h.use u)

/-! ## Running a stage -/

/-- How a stage is run: a fault is answered without a call, and without a fault there is exactly one
call, of an effect that the backend has, with no more inputs than there are channels, all of them
slots, and as many floats as the effect has that compiled last. -/
def Runs (shelf : Shelf b κ) (i : Interface) (d : Desk ρ) (s : Stage)
    (frame : FrameContext) : Prop :=
  match s.fault? (d.last s.effect).isSome with
  | some fault => d.calls b s frame = [] ∧ d.answer b s frame = .error fault
  | none => ∃ p k uniforms, d.program i s.effect = some p ∧
      (shelf.entries d.backend).lookup s.effect = some k ∧ shelf.Made s.effect p k ∧
      s.inputs.length ≤ 8 ∧ (∀ slot ∈ s.inputs, slot < 8) ∧ uniforms.length = p.uniformLength ∧
      d.calls b s frame = [⟨.issue (.runProgram s.effect s.inputs s.output uniforms s.clear),
        d.answer b s frame⟩]

theorem InStep.runs (h : InStep shelf i d) (s : Stage) (frame : FrameContext) :
    d.Runs shelf i s frame := by
  obtain ⟨-, outcome⟩ := Stage.leads_run.mp
    ((Stage.run d.registry frame s : Action Registry Unit).leads_heard b d.registry d.backend)
  unfold Runs
  split
  · rename_i fault hf
    rw [← h.registry] at hf
    have command : s.command d.registry frame = .error fault := Stage.command_of_fault hf
    rcases outcome with ⟨err, he, heard, answer⟩ | ⟨c, hc, -⟩
    · obtain rfl := Except.error.inj (command.symm.trans he)
      exact ⟨heard, answer⟩
    · cases command.symm.trans hc
  -- no fault means that the stage has its command, with the values of the last effect of the name
  · rename_i hf
    rw [← h.registry] at hf
    have sound := Stage.sound_of_fault_eq_none hf
    rcases outcome with ⟨err, he, -⟩ | ⟨c, hc, heard⟩
    · exact absurd he (sound.command_ne_error err)
    obtain ⟨e, size, checked, rfl⟩ := Stage.command_eq_ok_iff.mp hc
    obtain ⟨known, -⟩ := Stage.check_eq_ok_iff.mp checked
    rw [h.registry] at known
    have program : d.program i s.effect = some (.ofEffect i.dialect e.effect e.blend) := by
      rw [Desk.program, known]
      rfl
    have kept := h.backend s.effect
    rw [program] at kept
    generalize hk : (shelf.entries d.backend).lookup s.effect = found at kept
    cases kept with
    | @some _ k made =>
      exact ⟨_, k, _, program, rfl, made, sound.channels, sound.inputs,
        (h.built _ _ known).tight.length_pack size frame.time s.overrides, heard⟩

/-- All uses leave the registry and the backend in step, and stages run accordingly. -/
def StaysInStep (shelf : Shelf b κ) (i : Interface) (r : ρ) (uses : List Use) : Prop :=
  let d := (start i r).serve b uses
  InStep shelf i d ∧ ∀ s frame, d.Runs shelf i s frame

theorem staysInStep {r : ρ} (hr : shelf.entries r = []) (uses : List Use) :
    StaysInStep shelf i r uses := by
  have inStep := (inStep_start hr (i := i)).serve uses
  exact ⟨inStep, inStep.runs⟩

end Desk

/-- **The registry and its backend stay in step.** Whatever effects are registered on an adapter
that was just made, and whatever it is used for in between, the registry and the adapter hold the
same effects, those that compiled last, and stages are either refused without a call or run by one
call that fits. -/
theorem registry_in_step (uses : List Use) :
    (∀ {i size host g}, Gl.Session.start i size { host := host } = .ok g →
      Desk.StaysInStep Gl.Session.shelf i g uses) ∧
    ∀ {size o window p w}, Wgpu.Session.start size o window p = .ok w →
      Desk.StaysInStep Wgpu.Session.shelf .wgpu w uses := by
  refine ⟨fun h => Desk.staysInStep ?_ uses, fun h => Desk.staysInStep ?_ uses⟩
  · exact List.map_eq_nil_iff.mp (congrArg Tables.effects (Gl.Session.tables_start h))
  · obtain ⟨-, -, tables⟩ := Wgpu.Session.of_start h
    exact List.map_eq_nil_iff.mp (congrArg Tables.effects tables)

/-- An effect is registered twice, and run in between. -/
theorem registry_in_step_registeredTwice :
    let uses :=
  [.register "tint" .empty .empty .replace,
    .run { effect := "tint", output := .surface } ⟨⟨4, 4⟩, 0⟩,
      .register "tint" (Effect.empty.uniform "gain" .float) (.uniform _ _ .empty) .alpha]
    ∃ g w, Gl.Session.start .gles3 ⟨4, 4⟩ { host := {} } = .ok g ∧
      Wgpu.Session.start ⟨4, 4⟩ {} default {} = .ok w ∧
      Desk.StaysInStep Gl.Session.shelf .gles3 g uses ∧
      Desk.StaysInStep Wgpu.Session.shelf .wgpu w uses := by
  intro uses
  have context :
      ((Gl.Session.start .gles3 ⟨4, 4⟩ { host := {} }).toOption.any fun _ => true) = true := by
    decide +kernel
  have device : ((Wgpu.Session.start ⟨4, 4⟩ {} default {}).toOption.any fun _ => true) = true := by
    decide +kernel
  obtain ⟨g, hg, -⟩ := exists_ok_of_any context
  obtain ⟨w, hw, -⟩ := exists_ok_of_any device
  exact ⟨g, w, hg, hw, (registry_in_step uses).1 hg, (registry_in_step uses).2 hw⟩

end LitTiles
