import LitTiles.Frame.Stage
import LitTiles.Proofs.Backend.Contract
import LitTiles.Proofs.Backend.Simulation
import LitTiles.Proofs.Table
import Mathlib.Data.List.Forall2

/-!
# Stages as commands

A stage comes down to one command or to its first fault (`Stage.command`), and running it is giving
this command or answering this fault (`Stage.leads_run`). Which stages have a command can be told
without looking at the frame: those that are `Sound` (`Stage.exists_command_iff`). Stages that use
no more than the built-in effects are sound as soon as the registry is `Equipped`, which it stays.
-/

namespace LitTiles

namespace Registry

/-- The built-in effects are registered. -/
def Equipped (r : Registry) : Prop := ∀ b ∈ builtIns, (r.find? b.1).isSome

instance (r : Registry) : Decidable r.Equipped :=
  inferInstanceAs (Decidable (∀ b ∈ builtIns, (r.find? b.1).isSome))

theorem find?_insert_of_ne {r : Registry} {name name' : String} (e : RegisteredEffect)
    (h : name' ≠ name) : (r.insert name e).find? name' = r.find? name' :=
  (lookup_replace r.entries name name' e).trans (if_neg h)

/-- Replacing an effect takes none away. -/
theorem Equipped.insert {r : Registry} (h : r.Equipped) (name : String) (e : RegisteredEffect) :
    (r.insert name e).Equipped := by
  intro b hb
  by_cases hn : b.1 = name
  · rw [hn, find?_insert_self]
    rfl
  · rw [find?_insert_of_ne e hn]
    exact h b hb

/-- An effect is registered if the backend compiles it; otherwise nothing changes. -/
theorem leads_register {name : String} {effect : Effect} {blend : BlendMode} {g g' : Registry}
    {h : List Exchange} {x : Except RenderError Unit}
    (hl : (register name effect blend).Leads g h x g') :
    h = [⟨.issue (.compileProgram name (.ofEffect g.interface.dialect effect blend)), x⟩] ∧
      ((x = .ok () ∧ g' = g.insert name ⟨effect, blend⟩) ∨ ∃ e, x = .error e ∧ g' = g) := by
  simp only [register, Action.leads_getThe_bind, Action.leads_issue_bind, Action.leads_say_bind,
    Action.leads_modify] at hl
  rcases hl with ⟨e, rfl, rfl, rfl⟩ | ⟨rest, rfl, rfl, rfl, rfl⟩
  · exact ⟨rfl, .inr ⟨e, rfl, rfl⟩⟩
  · exact ⟨rfl, .inl ⟨rfl, rfl⟩⟩

end Registry

/-- Whether there is a target. -/
def Target.isKnown : Target → Bool
  | .surface => true
  | .offscreen i => i < OffscreenSlot.count

namespace Stage

variable {σ : Type} {registry : Registry} {frame : FrameContext} {s : Stage}

/-- The command that runs a stage by an effect, onto an output of a size. -/
def invocation (s : Stage) (frame : FrameContext) (e : RegisteredEffect) (size : SurfaceSize) :
    Command :=
  .runProgram s.effect s.inputs s.output (e.effect.pack size frame.time s.overrides) s.clear

/-- The command that runs a stage, or the first fault of the stage. -/
def command (registry : Registry) (frame : FrameContext) (s : Stage) : Except RenderError Command :=
  (s.check registry frame).map fun p => s.invocation frame p.1 p.2

/-- The commands of some stages, one for each, in order. -/
def Commands (registry : Registry) (frame : FrameContext) : List Stage → List Command → Prop :=
  List.Forall₂ fun s c => s.command registry frame = .ok c

/-- A stage without fault. -/
structure Sound (registry : Registry) (s : Stage) : Prop where
  /-- Its effect is registered. -/
  known : (registry.find? s.effect).isSome
  /-- There is a channel for each input. -/
  channels : s.inputs.length ≤ maxChannels
  /-- The inputs exist. -/
  inputs : ∀ i ∈ s.inputs, i < OffscreenSlot.count
  /-- The output exists. -/
  output : ∀ i, s.output = .offscreen i → i < OffscreenSlot.count

instance : Decidable (s.Sound registry) :=
  decidable_of_iff ((registry.find? s.effect).isSome ∧ s.inputs.length ≤ maxChannels ∧
    (∀ i ∈ s.inputs, i < OffscreenSlot.count) ∧ s.output.isKnown = true) <| by
    have out : s.output.isKnown = true ↔ ∀ i, s.output = .offscreen i →
        i < OffscreenSlot.count := by
      cases s.output <;> simp [Target.isKnown]
    rw [out]
    exact ⟨fun ⟨h₁, h₂, h₃, h₄⟩ => ⟨h₁, h₂, h₃, h₄⟩, fun h =>
      ⟨h.known, h.channels, h.inputs, h.output⟩⟩

/-! ## Which stages have a command -/

theorem exists_sizeOf_iff {target : Target} :
    (∃ size, frame.sizeOf target = .ok size) ↔
      ∀ i, target = .offscreen i → i < OffscreenSlot.count := by
  cases target with
  | surface => simp [FrameContext.sizeOf]
  | offscreen i =>
    simp only [FrameContext.sizeOf, Target.offscreen.injEq, forall_eq']
    cases hs : (slotSizes frame.surface)[i]? with
    | none =>
      have hi := List.getElem?_eq_none_iff.mp hs
      rw [length_slotSizes] at hi
      simpa using hi
    | some size =>
      obtain ⟨hi, -⟩ := List.getElem?_eq_some_iff.mp hs
      rw [length_slotSizes] at hi
      simpa using hi

/-- A check that succeeds has found the effect and the size of the output, and no fault. -/
theorem check_eq_ok_iff {e : RegisteredEffect} {size : SurfaceSize} :
    s.check registry frame = .ok (e, size) ↔
      registry.find? s.effect = some e ∧ s.inputs.length ≤ maxChannels ∧
        (∀ i ∈ s.inputs, i < OffscreenSlot.count) ∧ frame.sizeOf s.output = .ok size := by
  have inRange : s.inputs.find? (OffscreenSlot.count ≤ ·) = none ↔
      ∀ i ∈ s.inputs, i < OffscreenSlot.count := by simp
  rw [← inRange, ← Nat.not_lt]
  unfold check Registry.get
  cases registry.find? s.effect with
  | none => simp [bind, Except.bind]
  | some e' =>
    by_cases hc : maxChannels < s.inputs.length
    · simp [bind, Except.bind, hc, throw, throwThe, MonadExceptOf.throw]
    · cases s.inputs.find? (OffscreenSlot.count ≤ ·) with
      | some bad => simp [bind, Except.bind, hc, throw, throwThe, MonadExceptOf.throw]
      | none =>
        cases frame.sizeOf s.output with
        | error err => simp [bind, Except.bind, hc]
        | ok size' => simp [bind, Except.bind, hc, pure, Except.pure]

/-- The command of a stage, once the effect and the size of the output are known. -/
theorem command_eq_ok_iff {c : Command} :
    s.command registry frame = .ok c ↔ ∃ e size,
      s.check registry frame = .ok (e, size) ∧ c = s.invocation frame e size := by
  rw [command]
  cases s.check registry frame with
  | error err => simp [Except.map]
  | ok p =>
    obtain ⟨e, size⟩ := p
    simp only [Except.map, Except.ok.injEq, Prod.mk.injEq]
    constructor
    · rintro rfl
      exact ⟨e, size, ⟨rfl, rfl⟩, rfl⟩
    · rintro ⟨_, _, ⟨rfl, rfl⟩, rfl⟩
      rfl

/-- A stage has a command if and only if it is sound. -/
theorem exists_command_iff : (∃ c, s.command registry frame = .ok c) ↔ s.Sound registry := by
  constructor
  · rintro ⟨c, hc⟩
    obtain ⟨e, size, he, -⟩ := command_eq_ok_iff.mp hc
    obtain ⟨hk, hch, hin, hs⟩ := check_eq_ok_iff.mp he
    exact ⟨Option.isSome_of_eq_some hk, hch, hin, exists_sizeOf_iff.mp ⟨size, hs⟩⟩
  · rintro ⟨hk, hch, hin, hout⟩
    obtain ⟨e, he⟩ := Option.isSome_iff_exists.mp hk
    obtain ⟨size, hs⟩ : ∃ size, frame.sizeOf s.output = .ok size := exists_sizeOf_iff.mpr hout
    exact ⟨_, command_eq_ok_iff.mpr ⟨e, size, check_eq_ok_iff.mpr ⟨he, hch, hin, hs⟩, rfl⟩⟩

/-- A sound stage has no fault. -/
theorem Sound.command_ne_error (h : s.Sound registry) (err : RenderError) :
    s.command registry frame ≠ .error err := by
  obtain ⟨c, hc⟩ : ∃ c, s.command registry frame = .ok c := exists_command_iff.mpr h
  rw [hc]
  simp

theorem exists_commands {stages : List Stage} (h : ∀ s ∈ stages, s.Sound registry)
    (frame : FrameContext) : ∃ cs, Commands registry frame stages cs := by
  induction stages with
  | nil => exact ⟨[], List.Forall₂.nil⟩
  | cons s stages ih =>
    obtain ⟨cs, hcs⟩ := ih fun s' hs' => h s' (List.mem_cons_of_mem s hs')
    obtain ⟨c, hc⟩ := exists_command_iff.mpr (h s List.mem_cons_self)
    exact ⟨c :: cs, List.Forall₂.cons hc hcs⟩

/-- The commands of stages are determined by the stages. -/
theorem Commands.unique {stages : List Stage} {cs cs' : List Command}
    (h : Commands registry frame stages cs) (h' : Commands registry frame stages cs') :
    cs = cs' := by
  induction h generalizing cs' with
  | nil =>
    cases h'
    rfl
  | cons hc _ ih =>
    cases h' with
    | cons hc' hrest => rw [Except.ok.inj (hc.symm.trans hc'), ih hrest]

/-- A stage is sound if it runs a built-in effect from slots to a slot or to the surface. -/
theorem sound_of_slots (he : registry.Equipped) (hb : s.effect ∈ Registry.builtIns.map (·.1))
    (hc : s.inputs.length ≤ maxChannels)
    (hi : ∀ i ∈ s.inputs, ∃ slot : OffscreenSlot, slot.index = i)
    (ho : s.output = .surface ∨ ∃ slot : OffscreenSlot, s.output = slot.target) :
    s.Sound registry := by
  obtain ⟨b, hb, hn⟩ := List.mem_map.mp hb
  refine ⟨hn ▸ he b hb, hc, fun i hmem => ?_, fun i hout => ?_⟩
  · obtain ⟨slot, rfl⟩ := hi i hmem
    exact slot.index_lt
  · rw [hout] at ho
    obtain ⟨slot, hslot⟩ := ho.resolve_left nofun
    exact Target.offscreen.inj hslot ▸ slot.index_lt

/-! ## Running stages -/

theorem leads_forM_say {β : Type} {bs : List β} {severity : Severity} {speaker : Speaker}
    {text : β → String} {st t : σ} {h : List Exchange} {x : Except RenderError Unit} :
    (bs.forM fun b => (Action.say severity speaker (text b) : Action σ Unit)).Leads st h x t ↔
      h = [] ∧ x = .ok () ∧ t = st := by
  induction bs with
  | nil => exact Action.leads_forM_nil
  | cons b bs ih => exact Action.leads_say_bind.trans ih

/-- Running a stage is giving its command, or answering its fault. -/
theorem leads_run {st t : σ} {h : List Exchange} {x : Except RenderError Unit} :
    (run registry frame s : Action σ Unit).Leads st h x t ↔ t = st ∧
      ((∃ err, s.command registry frame = .error err ∧ h = [] ∧ x = .error err) ∨
        ∃ c, s.command registry frame = .ok c ∧ h = [⟨.issue c, x⟩]) := by
  -- the records about overrides call nothing, so what is issued is one call
  have issued : ∀ e size h' r, (do
      (e.effect.undeclared s.overrides).forM fun name =>
        Action.say .trace .uniforms ("ignoring override for undeclared uniform `" ++ name ++ "`")
      Action.issue (s.invocation frame e size) : Action σ Unit).Leads r h' x t ↔
        h' = [⟨.issue (s.invocation frame e size), x⟩] ∧ t = r := fun e size h' r =>
    (Action.leads_silent_bind fun _ _ _ => leads_forM_say).trans Action.leads_issue
  rw [run, Action.leads_bind, command]
  constructor
  · rintro (⟨err, rfl, hl⟩ | ⟨p, h₁, h₂, r, rfl, hl, hrest⟩)
    · obtain ⟨rfl, he, rfl⟩ := Action.leads_known.mp hl
      rw [← he]
      exact ⟨rfl, .inl ⟨err, rfl, rfl, rfl⟩⟩
    · obtain ⟨rfl, hp, rfl⟩ := Action.leads_known.mp hl
      obtain ⟨rfl, rfl⟩ := (issued p.1 p.2 h₂ r).mp hrest
      rw [← hp]
      exact ⟨rfl, .inr ⟨_, rfl, rfl⟩⟩
  · rintro ⟨rfl, ⟨err, he, rfl, rfl⟩ | ⟨c, hc, rfl⟩⟩
    · cases hcheck : s.check registry frame with
      | error err' =>
        rw [hcheck] at he
        obtain rfl := Except.error.inj he
        exact .inl ⟨err', rfl, Action.leads_known.mpr ⟨rfl, rfl, rfl⟩⟩
      | ok p =>
        rw [hcheck] at he
        cases he
    · cases hcheck : s.check registry frame with
      | error err' =>
        rw [hcheck] at hc
        cases hc
      | ok p =>
        rw [hcheck] at hc
        obtain rfl := Except.ok.inj hc
        exact .inr ⟨p, [], _, t, rfl, Action.leads_known.mpr ⟨rfl, rfl, rfl⟩,
          (issued p.1 p.2 _ t).mpr ⟨rfl, rfl⟩⟩

theorem leads_run_ok {st t : σ} {h : List Exchange} :
    (run registry frame s : Action σ Unit).Leads st h (.ok ()) t ↔
      ∃ c, s.command registry frame = .ok c ∧ h = [.done c] ∧ t = st := by
  rw [leads_run]
  constructor
  · rintro ⟨rfl, ⟨err, -, -, hx⟩ | ⟨c, hc, rfl⟩⟩
    · cases hx
    · exact ⟨c, hc, rfl, rfl⟩
  · rintro ⟨c, hc, rfl, rfl⟩
    exact ⟨rfl, .inr ⟨c, hc, rfl⟩⟩

/-- Stages that are run with success were given one command each, in order. -/
theorem leads_runAll_ok {stages : List Stage} {st t : σ} {h : List Exchange} :
    (runAll registry frame stages : Action σ Unit).Leads st h (.ok ()) t ↔
      ∃ cs, Commands registry frame stages cs ∧ h = cs.map .done ∧ t = st := by
  induction stages generalizing h with
  | nil =>
    rw [runAll, Action.leads_forM_nil]
    constructor
    · rintro ⟨rfl, -, rfl⟩
      exact ⟨[], List.Forall₂.nil, rfl, rfl⟩
    · rintro ⟨cs, hcs, rfl, rfl⟩
      cases hcs
      exact ⟨rfl, rfl, rfl⟩
  | cons s stages ih =>
    rw [runAll, Action.leads_forM_cons_ok]
    constructor
    -- the command of the first stage comes first, and the rest is what the other stages issue
    · rintro ⟨h₁, h₂, r, rfl, hs, hrest⟩
      obtain ⟨c, hc, rfl, rfl⟩ := leads_run_ok.mp hs
      obtain ⟨cs, hcs, rfl, rfl⟩ := ih.mp hrest
      exact ⟨c :: cs, List.Forall₂.cons hc hcs, rfl, rfl⟩
    · rintro ⟨cs, hcs, rfl, rfl⟩
      cases hcs with
      | cons hc hcs =>
        exact ⟨[_], _, t, rfl, leads_run_ok.mpr ⟨_, hc, rfl, rfl⟩, ih.mpr ⟨_, hcs, rfl, rfl⟩⟩

/-! ## The contract of stages -/

/-- A call that runs a program is the command of one of some stages. -/
def RunsFor (registry : Registry) (frame : FrameContext) (stages : List Stage)
    (call : Call) : Prop :=
  ∀ name inputs output uniforms clear,
    call = .issue (.runProgram name inputs output uniforms clear) →
      ∃ s ∈ stages, s.command registry frame = .ok (.runProgram name inputs output uniforms clear)

/-- An error is the fault of one of some stages. -/
def FaultOf (registry : Registry) (frame : FrameContext) (stages : List Stage) (err : RenderError) :
    Prop :=
  ∃ s ∈ stages, s.command registry frame = .error err

theorem RunsFor.mono {stages stages' : List Stage} {call : Call}
    (h : RunsFor registry frame stages call) (hs : stages ⊆ stages') :
    RunsFor registry frame stages' call := by
  intro name inputs output uniforms clear he
  obtain ⟨s, hmem, hc⟩ := h name inputs output uniforms clear he
  exact ⟨s, hs hmem, hc⟩

theorem FaultOf.mono {stages stages' : List Stage} {err : RenderError}
    (h : FaultOf registry frame stages err) (hs : stages ⊆ stages') :
    FaultOf registry frame stages' err := by
  obtain ⟨s, hmem, he⟩ := h
  exact ⟨s, hs hmem, he⟩

/-- Sound stages have no fault. -/
theorem not_faultOf_of_sound {stages : List Stage} (hs : ∀ s ∈ stages, s.Sound registry)
    (err : RenderError) : ¬ FaultOf registry frame stages err := by
  rintro ⟨s, hmem, he⟩
  exact (hs s hmem).command_ne_error err he

/-- The command of a stage runs a program. -/
theorem runsFor_of_command {stages : List Stage} {c : Command} (hmem : s ∈ stages)
    (hc : s.command registry frame = .ok c) : RunsFor registry frame stages (.issue c) := by
  rintro name inputs output uniforms clear he
  exact ⟨s, hmem, Call.issue.inj he ▸ hc⟩

/-- Stages make no calls but their commands, and have no errors but their faults. -/
theorem meets_run {c : Contract σ}
    (hc : ∀ command, s.command registry frame = .ok command → c.calls (.issue command))
    (he : ∀ err, s.command registry frame = .error err → c.errors err) :
    (run registry frame s).Meets c := by
  intro st h x t hk hl
  obtain ⟨rfl, ⟨err, herr, rfl, rfl⟩ | ⟨command, hcommand, rfl⟩⟩ := leads_run.mp hl
  · exact Action.meets_known (x := .error err) (fun _ hx => Except.error.inj hx ▸ he err herr)
      t [] _ t hk (Action.leads_known.mpr ⟨rfl, rfl, rfl⟩)
  · exact Action.meets_issue (hc command hcommand) t _ x t hk (Action.leads_issue.mpr ⟨rfl, rfl⟩)

/-- What stages do depends on nothing but the registry and the frame. -/
theorem simulates_runAll {τ : Type} {R : σ → τ → Prop} (stages : List Stage) :
    Action.Simulates R (runAll registry frame stages : Action τ Unit)
      (runAll registry frame stages : Action σ Unit) := by
  refine .forM fun s _ => Action.simulates_of_blind (fun st h x t => leads_run.mp)
    fun r h x hd => ?_
  exact leads_run.mpr ⟨rfl, hd⟩

end Stage

end LitTiles
