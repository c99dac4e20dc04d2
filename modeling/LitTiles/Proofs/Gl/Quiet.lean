import LitTiles.Proofs.Gl.Drawing
import LitTiles.Proofs.Gl.Making

/-!
# Making objects quietly

The commands that make objects draw nothing, and leave the state of a context idle: they are
`Quiet`. Those that make programs, textures and targets are about nothing else (`Command.Builds`),
and those that make programs are about programs alone (`Command.Links`). `Context.Wrote` says that
all commands from one state of a context to the other are of some kind, and `ContextM.Writes` that
all commands of a computation are. The functions that make objects write quiet commands, whatever
comes of them.

A program that was linked starts without uniforms (`uniforms_of_link`). What its stages are is still
to be seen in the log, so that a driver finds samplers there or nowhere (`samplers_eq_nil`).
-/

namespace LitTiles.Gl

open Context ContextM

/-! ## Quiet commands -/

/-- The command draws nothing, and neither sets uniforms nor touches attributes or the active
unit. -/
@[simp] def Command.Quiet : Command → Prop
  | uniformFloats _ _ | uniformInt _ _ | enableAttribute _ | disableAttribute _
  | attributePointer _ _ _ _
  | attributeDivisor _ _ | activeTexture _ | clear | drawArrays _ | drawElements _
  | drawElementsInstanced _ _ => False
  | _ => True

/-- Forgetting a deleted buffer takes sources away from attributes; none is enabled by it. -/
theorem VertexArray.Idle.forget {v : VertexArray} (hv : v.Idle) (b : Handle .buffer) :
    (v.forget b).Idle := by
  intro l hl
  have := hv l hl
  simp only [VertexArray.forget]
  split <;> exact this

namespace Machine

variable {m : Machine} {samplers : Handle .program → List Nat}
  {places : List (Handle .program × List Nat)} {c : Command} {cs : List Command}
    {p : Handle .program}

/-- A quiet command preserves `Idle`. The cases that need an argument are the deletions, which reset
vertex arrays, and linking, which clears the uniforms of a program; the loud commands are excluded
by `Quiet`. -/
theorem Idle.apply (h : m.Idle places) (hc : c.Quiet) : (m.apply c).Idle places := by
  cases c with
  -- a deleted handle is forgotten by the state that reads it, and forgetting keeps idleness
  | delete kind handle =>
    cases kind with
    | buffer =>
      exact ⟨h.unit, arrays_fetch h.arrays ((h.arrays m.array).forget handle) handle, h.uniforms⟩
    | texture => exact ⟨h.unit, h.arrays, h.uniforms⟩
    | framebuffer => exact ⟨h.unit, h.arrays, h.uniforms⟩
    | vertexArray =>
      refine ⟨h.unit, fun v => ?_, h.uniforms⟩
      change (Function.update m.arrays (some handle) {} v).Idle
      by_cases hv : v = some handle
      · subst hv
        rw [Function.update_self]
        exact fun l _ => ⟨rfl, rfl⟩
      · rw [Function.update_of_ne hv]
        exact h.arrays v
    | shader => exact h
    | program => exact h
  -- linking clears the uniforms of the program
  | linkProgram q =>
    refine ⟨h.unit, h.arrays, fun e he l hl => ?_⟩
    change Function.update m.uniforms q (fun _ => none) e.1 l = none
    by_cases hq : e.1 = q
    · rw [hq, Function.update_self]
    · rw [Function.update_of_ne hq]
      exact h.uniforms e he l hl
  | bindBuffer target b =>
    cases target with
    | vertices => exact ⟨h.unit, h.arrays, h.uniforms⟩
    | indices =>
      have kept : VertexArray.Idle { m.bound with indices := some b } := h.arrays m.array
      exact ⟨h.unit, arrays_fetch (f := fun v => { v with indices := some b }) h.arrays kept b,
        h.uniforms⟩
  | uniformFloats => exact hc.elim
  | uniformInt => exact hc.elim
  | enableAttribute => exact hc.elim
  | disableAttribute => exact hc.elim
  | attributePointer => exact hc.elim
  | attributeDivisor => exact hc.elim
  | activeTexture => exact hc.elim
  | _ => exact ⟨h.unit, h.arrays, h.uniforms⟩

/-- A quiet command is no draw. -/
theorem drawn_of_quiet (hc : c.Quiet) : m.drawn samplers c = none := by
  cases c <;> first | rfl | exact hc.elim

variable (samplers) in
/-- Quiet commands keep the state idle. -/
theorem Idle.quiet (h : m.Idle places) (hc : ∀ c ∈ cs, c.Quiet) :
    m.draws samplers cs = [] ∧ (m.after cs).Idle places := by
  induction cs generalizing m with
  | nil => exact ⟨rfl, h⟩
  | cons c cs ih =>
    obtain ⟨hc, hcs⟩ := List.forall_mem_cons.mp hc
    obtain ⟨hd, idle⟩ := ih (h.apply hc) hcs
    exact ⟨by rw [draws_cons, drawn_of_quiet hc, hd]; rfl, idle⟩

/-- Quiet commands give a program no uniforms. -/
theorem uniforms_apply (h : m.uniforms p = fun _ => none) (hc : c.Quiet) :
    (m.apply c).uniforms p = fun _ => none := by
  cases c with
  | delete kind handle => cases kind <;> exact h
  | linkProgram q =>
    change Function.update m.uniforms q (fun _ => none) p = _
    by_cases hq : p = q
    · rw [hq, Function.update_self]
    · rw [Function.update_of_ne hq]
      exact h
  | bindBuffer target b => cases target <;> exact h
  | uniformFloats => exact hc.elim
  | uniformInt => exact hc.elim
  | _ => exact h

/-- A program without uniforms stays without them under quiet commands. By induction on them. -/
theorem uniforms_quiet (h : m.uniforms p = fun _ => none) (hc : ∀ c ∈ cs, c.Quiet) :
    (m.after cs).uniforms p = fun _ => none := by
  induction cs generalizing m with
  | nil => exact h
  | cons c cs ih =>
    obtain ⟨hc, hcs⟩ := List.forall_mem_cons.mp hc
    exact ih (uniforms_apply h hc) hcs

/-- A program that is linked quietly has no uniforms. -/
theorem uniforms_of_link (hp : .linkProgram p ∈ cs) (hc : ∀ c ∈ cs, c.Quiet) :
    (m.after cs).uniforms p = fun _ => none := by
  obtain ⟨before, later, rfl⟩ := List.append_of_mem hp
  rw [after_append, after_cons]
  refine uniforms_quiet ?_ fun c hm => hc c (List.mem_append_right _ (List.mem_cons_of_mem _ hm))
  exact Function.update_self ..

end Machine

/-! ## What computations write -/

namespace Context

variable {P : Command → Prop} {x y z : Context} {cs : List Command} {k : ObjectKind}

/-- All commands from one state of a context to the other are of some kind. -/
def Wrote (P : Command → Prop) (x x' : Context) : Prop :=
  ∃ cs, x'.commands.toList = x.commands.toList ++ cs ∧ ∀ c ∈ cs, P c

theorem Wrote.refl (x : Context) : x.Wrote P x := ⟨[], by simp, fun _ hc => nomatch hc⟩

/-- What was written in two stretches is of the kind if both parts are. -/
theorem Wrote.trans (h : x.Wrote P y) (h' : y.Wrote P z) : x.Wrote P z := by
  obtain ⟨cs, hcs, hc⟩ := h
  obtain ⟨ds, hds, hd⟩ := h'
  exact ⟨cs ++ ds, by rw [hds, hcs, List.append_assoc], List.forall_mem_append.mpr ⟨hc, hd⟩⟩

theorem Gave.wrote (h : x.Gave cs y) (hc : ∀ c ∈ cs, P c) : x.Wrote P y := ⟨cs, h.commands, hc⟩

/-- A kind of commands may be replaced by a wider one. -/
theorem Wrote.mono {Q : Command → Prop} (h : x.Wrote P y) (hPQ : ∀ c, P c → Q c) : x.Wrote Q y := by
  obtain ⟨cs, hcs, hc⟩ := h
  exact ⟨cs, hcs, fun c hm => hPQ c (hc c hm)⟩

end Context

namespace ContextM

variable {α β : Type} {P : Command → Prop} {m : ContextM α} {f : α → ContextM β} {cs : List Command}
  {x x' : Context}

/-- What a sequence answers comes from both of its parts. -/
theorem leads_bind_ok {w : β} (h : (m >>= f).Leads x (.ok w) x') :
    ∃ v y, m.Leads x (.ok v) y ∧ (f v).Leads y (.ok w) x' := by
  rcases leads_bind h with ⟨e, he, -⟩ | h
  · cases he
  · exact h

/-- A computation gives commands of some kind only. -/
def Writes (m : ContextM α) (P : Command → Prop) : Prop := ∀ x r x', m.Leads x r x' → x.Wrote P x'

/-- The same for computations: `Links` widens to `Builds`, and `Builds` to `Quiet`. -/
theorem Writes.mono {Q : Command → Prop} (hm : m.Writes P) (hPQ : ∀ c, P c → Q c) : m.Writes Q :=
  fun x r x' h => (hm x r x' h).mono hPQ

theorem writes_pure {v : α} : (pure v : ContextM α).Writes P := by
  intro x r x' h
  obtain ⟨-, rfl⟩ := leads_pure h
  exact .refl _

/-- A refusal writes nothing. -/
theorem writes_throw {e : RenderError} : (throw e : ContextM α).Writes P := by
  intro x r x' h
  obtain ⟨-, rfl⟩ := leads_throw h
  exact .refl _

/-- A look into the tables writes nothing. -/
theorem writes_ofExcept {known : Except RenderError α} :
    (ofExcept known : ContextM α).Writes P := by
  intro x r x' h
  obtain ⟨-, rfl⟩ := leads_ofExcept h
  exact .refl _

/-- The rule of sequencing. If the first part is refused, what it wrote until then is all that was
written. -/
theorem writes_bind (hm : m.Writes P) (hf : ∀ v, (f v).Writes P) : (m >>= f).Writes P := by
  intro x r x' h
  rcases leads_bind h with ⟨e, -, hm'⟩ | ⟨v, y, hm', h⟩
  · exact hm _ _ _ hm'
  · exact (hm _ _ _ hm').trans (hf v _ _ _ h)

/-- A row of commands of the kind. -/
theorem writes_giveAll (hc : ∀ c ∈ cs, P c) : (Context.giveAll cs).Writes P := fun _ _ _ h =>
  (leads_giveAll h).2.wrote hc

/-- One command of the kind. -/
theorem writes_give {c : Command} (hc : P c) : (Context.give c).Writes P := fun _ _ _ h =>
  (leads_give h).2.wrote fun _ hm => List.mem_singleton.mp hm ▸ hc

/-- A request writes the command that makes its object, or nothing if it is refused, so one command
has to be of the kind. -/
theorem writes_created {k : ObjectKind} {refused : String → RenderError}
    {command : Handle k → Command} {r : Except RenderError (Handle k)}
    (h : Created x refused command r x') (hc : ∀ o, P (command o)) :
    x.Wrote P x' := by
  rcases h with ⟨-, asked, -⟩ | ⟨o, -, -, asked, -⟩
  · exact ⟨[], asked.commands, fun _ hm => nomatch hm⟩
  · exact ⟨_, asked.commands, fun _ hm => List.mem_singleton.mp hm ▸ hc o⟩

/-- A request for an object of a kind of its own, whatever it is named. -/
theorem writes_create {k : ObjectKind} {refused : String → RenderError}
    (hc : ∀ o, P (.create k o)) :
    (Context.create k refused).Writes P := fun _ _ _ h => writes_created (leads_create h) hc

/-- A request for a shader. -/
theorem writes_createShader {stage : ShaderStage} {refused : String → RenderError}
    (hc : ∀ o, P (.createShader stage o)) : (Context.createShader stage refused).Writes P :=
  fun _ _ _ h => writes_created (leads_createShader h) hc

/-- Compiling at the front of a `do` block; the rest is looked at for every log. -/
theorem writes_compileShader_bind {s : Handle .shader} {f : Option String → ContextM α}
    (hc : P (.compileShader s)) (hf : ∀ v, (f v).Writes P) :
    (Context.compileShader s >>= f).Writes P := by
  intro x r x' h
  obtain ⟨n, y, gave, h⟩ := leads_compileShader_bind h
  exact (gave.wrote fun _ hm => List.mem_singleton.mp hm ▸ hc).trans (hf _ _ _ _ h)

/-- Linking at the front of a `do` block, likewise for every log. -/
theorem writes_linkProgram_bind {p : Handle .program} {f : Option String → ContextM α}
    (hc : P (.linkProgram p)) (hf : ∀ v, (f v).Writes P) :
    (Context.linkProgram p >>= f).Writes P := by
  intro x r x' h
  obtain ⟨n, y, gave, h⟩ := leads_linkProgram_bind h
  exact (gave.wrote fun _ hm => List.mem_singleton.mp hm ▸ hc).trans (hf _ _ _ _ h)

/-- Asking for the status of a framebuffer writes nothing itself. -/
theorem writes_checkFramebuffer_bind {f : Nat → ContextM α} (hf : ∀ v, (f v).Writes P) :
    (Context.checkFramebuffer >>= f).Writes P := by
  intro x r x' h
  obtain ⟨n, y, gave, h⟩ := leads_checkFramebuffer_bind h
  exact (gave.wrote fun _ hm => nomatch hm).trans (hf _ _ _ _ h)

/-- A question for a location writes one command, whatever it is answered. -/
theorem writes_locate {p : Handle .program} {name : String}
    (hc : ∀ answer, P (.uniformLocation p name answer)) :
    (Context.locate p name).Writes P := by
  intro x r x' h
  obtain ⟨answer, -, gave⟩ := leads_locate h
  exact gave.wrote fun _ hm => List.mem_singleton.mp hm ▸ hc answer

end ContextM

/-! ## What makes objects -/

/-- The command is about programs and their stages. -/
@[simp] def Command.Links : Command → Prop
  | create .program _ | createShader _ _ | delete .program _ | delete .shader _ | shaderSource _ _
  | compileShader _ | bindAttribute _ _ _ | attachShader _ _ | linkProgram _ | detachShader _ _
  | uniformLocation _ _ _ => True
  | _ => False

/-- The command is about programs, textures and framebuffers, and draws nothing. -/
@[simp] def Command.Builds : Command → Prop
  | create .buffer _ | create .vertexArray _ | delete .buffer _ | delete .vertexArray _ => False
  | create _ _ | createShader _ _ | delete _ _ | shaderSource _ _ | compileShader _
  | bindAttribute _ _ _
  | attachShader _ _ | linkProgram _ | detachShader _ _ | uniformLocation _ _ _ | bindTexture _
  | textureParameter _ | unpackAlignment _ | textureImage _ _ _ _ | bindFramebuffer _
  | framebufferTexture _ => True
  | _ => False

/-- What is about programs is about making objects. -/
theorem Command.Links.builds {c : Command} (hc : c.Links) : c.Builds := by
  cases c with
  | create k o => cases k <;> trivial
  | delete k o => cases k <;> trivial
  | _ => trivial

/-- Making objects is quiet. -/
theorem Command.Builds.quiet {c : Command} (hc : c.Builds) : c.Quiet := by
  cases c <;> trivial

/-- Compiling a stage is about programs, also where the compilation fails and the shaders made so
far are deleted. -/
theorem links_compileStage (name : String) (earlier : List (Handle .shader)) (stage : ShaderStage)
    (text : String) : (compileStage name earlier stage text).Writes Command.Links := by
  refine writes_bind (writes_createShader fun _ => trivial) fun s => ?_
  refine writes_bind (writes_give trivial) fun _ =>
    writes_compileShader_bind trivial fun rejected => ?_
  cases rejected with
  | none => exact writes_pure
  | some log => exact writes_bind (writes_giveAll (by simp)) fun _ => writes_throw

/-- The same for linking, with each of its ways to fail. -/
theorem links_link (name vertex fragment : String) (attributes : List String) :
    (link name vertex fragment attributes).Writes Command.Links := by
  refine writes_bind (links_compileStage _ _ _ _) fun v =>
    writes_bind (links_compileStage _ _ _ _) fun f => ?_
  refine writes_bind (writes_create fun _ => trivial) fun p => ?_
  refine writes_bind (writes_giveAll ?_) fun _ => writes_bind (writes_giveAll (by simp)) fun _ => ?_
  · intro c hc
    obtain ⟨⟨a, i⟩, -, rfl⟩ := List.mem_map.mp hc
    trivial
  refine writes_linkProgram_bind trivial fun rejected =>
    writes_bind (writes_giveAll (by simp)) fun _ => ?_
  cases rejected with
  | none => exact writes_pure
  | some log => exact writes_bind (writes_give trivial) fun _ => writes_throw

theorem links_linkSource (name : String) (source : ProgramSource) (attributes : List GlslVariable) :
    (linkSource name source attributes).Writes Command.Links :=
  writes_bind writes_ofExcept fun _ => links_link _ _ _ _

/-- A fixed program is linked and its locations are asked for. -/
theorem FixedProgram.links_make (name : String) (source : ProgramSource)
    (attributes : List GlslVariable) :
    (FixedProgram.make name source attributes).Writes Command.Links :=
  writes_bind (links_linkSource _ _ _) fun _ =>
    writes_bind (writes_locate fun _ => trivial) fun _ =>
    writes_bind (writes_locate fun _ => trivial) fun _ => writes_pure

/-- An effect is described by the locations of its channels and uniforms, so that only questions are
written. -/
theorem LinkedEffect.links_make (p : Handle .program) (uniforms : List Uniform)
    (blend : BlendMode) :
    (LinkedEffect.make p uniforms blend).Writes Command.Links := by
  intro x r x' h
  obtain ⟨e, cs, -, -, -, -, -, gave, asks⟩ := LinkedEffect.leads_make h
  refine gave.wrote fun c hc => ?_
  obtain ⟨uniform, answer, rfl⟩ := asks c hc
  trivial

/-- Textures are made, bound, filled and filtered, all of it building. -/
theorem builds_createTexture (c : Capabilities) (width height : UInt32)
    (pixels : Option (List UInt8)) (filter : Filter) :
    (createTexture c width height pixels filter).Writes Command.Builds :=
  writes_bind (writes_create fun _ => trivial) fun _ =>
    writes_bind (writes_giveAll (by simp)) fun _ => writes_pure

/-- A target is built from a texture and a framebuffer; a target that is not complete is taken down
again with the same kind of commands. -/
theorem builds_renderTarget (c : Capabilities) (index : Nat) (size : SurfaceSize) :
    (RenderTarget.make c index size).Writes Command.Builds := by
  refine writes_bind (builds_createTexture _ _ _ _ _) fun t =>
    writes_bind (writes_create fun _ => trivial) fun f => ?_
  refine writes_bind (writes_giveAll (by simp)) fun _ =>
    writes_checkFramebuffer_bind fun status => ?_
  refine writes_bind (writes_give trivial) fun _ => ?_
  dsimp only
  split
  · exact writes_pure
  · exact writes_bind (writes_giveAll (by simp [RenderTarget.delete])) fun _ => writes_throw

theorem quiet_linkSource (name : String) (source : ProgramSource) (attributes : List GlslVariable) :
    (linkSource name source attributes).Writes Command.Quiet :=
  (links_linkSource _ _ _).mono fun _ hc => hc.builds.quiet

theorem FixedProgram.quiet_make (name : String) (source : ProgramSource)
    (attributes : List GlslVariable) :
    (FixedProgram.make name source attributes).Writes Command.Quiet :=
  (FixedProgram.links_make _ _ _).mono fun _ hc => hc.builds.quiet

theorem LinkedEffect.quiet_make (p : Handle .program) (uniforms : List Uniform)
    (blend : BlendMode) :
    (LinkedEffect.make p uniforms blend).Writes Command.Quiet :=
  (LinkedEffect.links_make _ _ _).mono fun _ hc => hc.builds.quiet

theorem quiet_createTexture (c : Capabilities) (width height : UInt32)
    (pixels : Option (List UInt8)) (filter : Filter) :
    (createTexture c width height pixels filter).Writes Command.Quiet :=
  (builds_createTexture _ _ _ _ _).mono fun _ => Command.Builds.quiet

theorem quiet_renderTarget (c : Capabilities) (index : Nat) (size : SurfaceSize) :
    (RenderTarget.make c index size).Writes Command.Quiet :=
  (builds_renderTarget _ _ _).mono fun _ => Command.Builds.quiet

/-- A buffer is made, bound and filled quietly. -/
theorem Adapter.quiet_filledBuffer (target : BufferTarget) (bytes : List UInt8) :
    (Adapter.filledBuffer target bytes).Writes Command.Quiet :=
  writes_bind (writes_create fun _ => trivial) fun _ =>
    writes_bind (writes_giveAll (by simp)) fun _ => writes_pure

/-! ## What is linked -/

section Links

variable {x x' : Context} {name text vertex fragment : String} {attributes : List String}
  {p : Handle .program} {samplers : Handle .program → List Nat}

/-- In a sound context a command is given numbers that were given out. -/
theorem Context.Sound.number_le_of_uses (h : x.Sound) {c : Command}
    (hc : c ∈ x.commands.toList) {o : Object} (ho : o ∈ c.uses) :
    o.number ≤ x.requested o.kind := by
  obtain ⟨before, later, he⟩ := List.append_of_mem hc
  have made := mem_createdIn_of_alive ((h.proper before c later he).2 o ho)
  refine h.numbered o ?_
  rw [he, createdIn_append]
  exact List.mem_append_left _ made

/-- What a stage that compiled has left behind: one shader of the next name, no program, and just
these three commands. -/
theorem leads_compileStage_ok {earlier : List (Handle .shader)} {stage : ShaderStage}
    {s : Handle .shader} (h : (compileStage name earlier stage text).Leads x (.ok s) x') :
    s.name = x.requested .shader + 1 ∧ x'.requested .program = x.requested .program ∧
      x'.requested .shader = x.requested .shader + 1 ∧ x'.commands.toList = x.commands.toList ++
        [.createShader stage s, .shaderSource s text, .compileShader s] := by
  unfold compileStage at h
  rcases leads_createShader_bind h with ⟨reason, he, -⟩ | ⟨s', y, number, asked, -, h⟩
  · cases he
  obtain ⟨y₁, gave₁, h⟩ := leads_give_bind h
  obtain ⟨n, y₂, gave₂, h⟩ := leads_compileShader_bind h
  split at h
  swap
  · obtain ⟨y₃, -, h⟩ := leads_giveAll_bind h
    obtain ⟨he, -⟩ := leads_throw h
    cases he
  obtain ⟨hs, rfl⟩ := leads_pure h
  obtain rfl := Except.ok.inj hs
  have requested := gave₂.requested.trans gave₁.requested
  refine ⟨number, ?_, ?_, ?_⟩
  · rw [requested, asked.requested, if_neg (by decide)]
  · rw [requested, asked.requested, if_pos rfl]
  · rw [gave₂.commands, gave₁.commands, asked.commands]
    simp

/-- A program that is linked is new, and so are its shaders, which have the texts that were asked
for. -/
theorem leads_link_ok (h : (link name vertex fragment attributes).Leads x (.ok p) x') :
    ∃ before later, x'.commands.toList = x.commands.toList ++ (before ++ .linkProgram p :: later) ∧
      x.requested .program < p.name ∧
      (∀ q s, .attachShader q s ∈ before → x.requested .shader < s.name) ∧
      ∀ s text, .shaderSource s text ∈ before → text = vertex ∨ text = fragment := by
  unfold link at h
  obtain ⟨v, y₁, hv, h⟩ := leads_bind_ok h
  obtain ⟨f, y₂, hf, h⟩ := leads_bind_ok h
  obtain ⟨number_v, programs_v, shaders_v, commands_v⟩ := leads_compileStage_ok hv
  obtain ⟨number_f, programs_f, -, commands_f⟩ := leads_compileStage_ok hf
  rcases leads_create_bind h with ⟨log, he, -⟩ | ⟨p', y₃, number_p, asked, -, h⟩
  · cases he
  obtain ⟨y₄, gave₄, h⟩ := leads_giveAll_bind h
  obtain ⟨y₅, gave₅, h⟩ := leads_giveAll_bind h
  obtain ⟨n, y₆, gave₆, h⟩ := leads_linkProgram_bind h
  obtain ⟨y₇, gave₇, h⟩ := leads_giveAll_bind h
  -- where both stages and the link succeed, the list of commands is known in full
  split at h
  swap
  · obtain ⟨y₈, -, h⟩ := leads_give_bind h
    obtain ⟨he, -⟩ := leads_throw h
    cases he
  obtain ⟨hq, rfl⟩ := leads_pure h
  obtain rfl := Except.ok.inj hq
  refine ⟨[.createShader .vertex v, .shaderSource v vertex, .compileShader v,
    .createShader .fragment f, .shaderSource f fragment, .compileShader f, .create .program p] ++
      ((attributes.zipIdx.map fun n => .bindAttribute p n.2 n.1) ++
        [.attachShader p v, .attachShader p f]),
    [.detachShader p v, .delete .shader v, .detachShader p f, .delete .shader f], ?_, ?_, ?_, ?_⟩
  -- the commands of all steps, joined in order
  · rw [gave₇.commands, gave₆.commands, gave₅.commands, gave₄.commands, asked.commands,
      commands_f, commands_v]
    simp
  · omega
  · simp only [List.mem_append, List.mem_cons, List.not_mem_nil, or_false, List.mem_map,
      reduceCtorEq, false_or, and_false, exists_false, Command.attachShader.injEq]
    rintro q s (⟨-, rfl⟩ | ⟨-, rfl⟩) <;> omega
  · simp only [List.mem_append, List.mem_cons, List.not_mem_nil, or_false, List.mem_map,
      reduceCtorEq, false_or, and_false, exists_false, Command.shaderSource.injEq]
    rintro s text (⟨-, rfl⟩ | ⟨-, rfl⟩)
    · exact .inl rfl
    · exact .inr rfl

/-- A program has no samplers if its texts mention none: nothing else was ever attached to it. -/
theorem samplers_eq_nil (hx : x.Sound)
    (h : (link name vertex fragment attributes).Leads x (.ok p) x')
    (rule : Throughout (SamplesDeclared samplers) x'.commands.toList)
    (hv : mentionsSampler vertex = false) (hf : mentionsSampler fragment = false) :
    samplers p = [] := by
  obtain ⟨before, later, he, new, shaders, texts⟩ := leads_link_ok h
  by_contra some_samplers
  rw [← List.append_assoc] at he
  obtain ⟨text, ⟨s, attached, source⟩, mentions⟩ :=
    exists_of_declaresSampler (rule _ _ later he p rfl some_samplers)
  rcases List.mem_append.mp attached with old | attached
  · -- the program was not there before
    have := hx.number_le_of_uses old (o := p.object) (by simp)
    exact absurd this (Nat.not_le.mpr new)
  · have fresh := shaders p s attached
    rcases List.mem_append.mp source with old | source
    · have := hx.number_le_of_uses old (o := s.object) (by simp)
      exact absurd this (Nat.not_le.mpr fresh)
    · rcases texts s text source with rfl | rfl
      · exact absurd mentions (Bool.eq_false_iff.mp hv)
      · exact absurd mentions (Bool.eq_false_iff.mp hf)

/-- A stage of the program mentions a sampler. -/
def namesSampler : ProgramSource → Bool
  | .glsl vertex fragment => mentionsSampler vertex || mentionsSampler fragment
  | .wgsl _ => false

/-- Lights and shadows are drawn without samplers, in whatever dialect. -/
theorem not_namesSampler : ∀ d ∈ [Dialect.glslEs100, .glslEs300, .wgsl],
    (!namesSampler d.lightProgram && !namesSampler d.shadowProgram) = true :=
  List.all_eq_true.mp (by decide +kernel)

/-- Only a pair of GLSL texts can be linked on a context, and then linking it comes to `link`. -/
theorem leads_linkSource_ok {source : ProgramSource} {attributes : List GlslVariable}
    (h : (linkSource name source attributes).Leads x (.ok p) x') : ∃ vertex fragment,
      source = .glsl vertex fragment ∧
        (link name vertex fragment (attributes.map (·.name))).Leads x (.ok p) x' := by
  unfold linkSource at h
  obtain ⟨⟨vertex, fragment⟩, y, hs, h⟩ := leads_bind_ok h
  obtain ⟨he, rfl⟩ := leads_ofExcept hs
  cases source with
  | wgsl text => cases he
  | glsl v f =>
    obtain ⟨rfl, rfl⟩ := Prod.mk.inj (Except.ok.inj he)
    exact ⟨vertex, fragment, rfl, h⟩

/-- What was the rule in the end was the rule before. -/
theorem Context.Wrote.throughout {P : Command → Prop} {law : List Command → Command → Prop}
    (h : x.Wrote P x') (hl : Throughout law x'.commands.toList) :
    Throughout law x.commands.toList := by
  obtain ⟨cs, hcs, -⟩ := h
  exact (hcs ▸ hl).of_append

/-- A fixed program whose text names no sampler has none as far as the driver tells, by the rule
that samplers are declared. -/
theorem FixedProgram.samplers_eq_nil {source : ProgramSource} {attributes : List GlslVariable}
    {f : FixedProgram} (hx : x.Sound)
    (h : (FixedProgram.make name source attributes).Leads x (.ok f) x')
    (rule : Throughout (SamplesDeclared samplers) x'.commands.toList)
    (hs : namesSampler source = false) : samplers f.program = [] := by
  unfold FixedProgram.make at h
  obtain ⟨p, y, hp, h⟩ := leads_bind_ok h
  obtain ⟨view, y₁, gave₁, h⟩ := leads_locate_bind h
  obtain ⟨atlas, y₂, gave₂, h⟩ := leads_locate_bind h
  obtain ⟨hf, rfl⟩ := leads_pure h
  obtain rfl := Except.ok.inj hf
  obtain ⟨vertex, fragment, rfl, hp⟩ := leads_linkSource_ok hp
  obtain ⟨hv, hf⟩ := Bool.or_eq_false_iff.mp hs
  have asked : y.Wrote Command.Quiet x' := (gave₁.append gave₂).wrote (by simp)
  exact Gl.samplers_eq_nil hx hp (asked.throughout rule) hv hf

/-- A program that is linked is linked by one of the commands given meanwhile. -/
theorem mem_of_link (h : (link name vertex fragment attributes).Leads x (.ok p) x') :
    ∃ cs, x'.commands.toList = x.commands.toList ++ cs ∧ .linkProgram p ∈ cs := by
  obtain ⟨before, later, he, -⟩ := leads_link_ok h
  exact ⟨_, he, by simp⟩

end Links

end LitTiles.Gl
