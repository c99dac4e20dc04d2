import LitTiles.Gl.Adapter
import LitTiles.Proofs.Gl.Objects

/-!
# Making the objects of a GL adapter

`Makes` specifies a computation that makes objects: which ones its answer stands for, with which
errors it fails, and when something is left behind then. Each function of the adapter that makes
objects has its specification here.

A program is linked from two shaders, and the driver is asked for three objects one after the other.
If it refuses the second one or the third one, the shaders that are there already stay
(`makes_link`). A target whose framebuffer is refused leaves its texture (`makes_renderTarget`). All
other failures of these functions are cleaned up. An adapter is made of many objects, and nothing
cleans up after it: everything stays that was there before the step that failed (`leads_connect`).
-/

namespace LitTiles.Gl

variable {α β : Type}

namespace Context

/-- Nothing was made from one state of a context to the other. -/
def MadeNothing (x x' : Context) : Prop :=
  createdIn x'.commands.toList = createdIn x.commands.toList

end Context

namespace ContextM

open Context

/-! ## What makes something -/

/-- A computation makes the objects of its answer and leaves nothing else. If it fails, it does so
with an error of some kind, and leaves something behind under a condition on the states before and
after. -/
def Makes (m : ContextM α) (objects : α → List Object) (fails : RenderError → Prop)
    (leaks : Context → Context → Prop) : Prop :=
  ∀ x r x', x.Sound → m.Leads x r x' →
    (∃ v, r = .ok v ∧ x.Gains x' (objects v) ∧ x.Granted x') ∨
    ∃ e left, r = .error e ∧ fails e ∧ x.Gains x' left ∧ (left ≠ [] ↔ leaks x x')

variable {objects : α → List Object} {fails : RenderError → Prop} {leaks : Context → Context → Prop}
  {base x x' : Context} {r : Except RenderError α} {new : List Object}

/-- What is made comes to what was made before. -/
theorem Makes.after {m : ContextM α} (hm : m.Makes objects fails leaks) (hx : base.Gains x new)
    (h : m.Leads x r x') :
    (∃ v, r = .ok v ∧ base.Gains x' (objects v ++ new) ∧ x.Granted x') ∨
    ∃ e left, r = .error e ∧ fails e ∧ base.Gains x' (left ++ new) ∧ (left ≠ [] ↔ leaks x x') := by
  rcases hm x r x' hx.sound h with ⟨v, hr, gains, granted⟩ | ⟨e, left, hr, he, gains, hl⟩
  · exact .inl ⟨v, hr, hx.trans gains, granted⟩
  · exact .inr ⟨e, left, hr, he, hx.trans gains, hl⟩

/-- What is made is used by what follows, unless making it fails. -/
theorem Makes.after_bind {m : ContextM α} (hm : m.Makes objects fails leaks) (hx : base.Gains x new)
    {f : α → ContextM β} {r : Except RenderError β} (h : (m >>= f).Leads x r x') :
    (∃ e left, r = .error e ∧ fails e ∧ base.Gains x' (left ++ new) ∧ (left ≠ [] ↔ leaks x x')) ∨
      ∃ v y, base.Gains y (objects v ++ new) ∧ x.Granted y ∧ (f v).Leads y r x' := by
  rcases leads_bind h with ⟨e, rfl, hm'⟩ | ⟨v, y, hm', h⟩
  · rcases hm.after hx hm' with ⟨v, he, -⟩ | ⟨e', left, he, failed⟩
    · cases he
    · obtain rfl := Except.error.inj he
      exact .inl ⟨e, left, rfl, failed⟩
  · rcases hm.after hx hm' with ⟨v', hv, gains, granted⟩ | ⟨e', left, he, -⟩
    · obtain rfl := Except.ok.inj hv
      exact .inr ⟨v, y, gains, granted, h⟩
    · cases he

/-- An object is made and then used. If it is refused, nothing happens. -/
theorem makes_of_create (objects : α → List Object) {k : ObjectKind}
    {refused : String → RenderError} {f : Handle k → ContextM Unit} {cs : Handle k → List Command}
    {g : Handle k → α} (hf : ∀ o x r x', (f o).Leads x r x' → r = .ok () ∧ x.Gave (cs o) x')
    (hc : ∀ o, ∀ c ∈ cs o, c.Spares ∧ ∀ o' ∈ c.uses, o' = o.object)
    (hg : ∀ o, objects (g o) = [o.object]) (he : ∀ reason, fails (refused reason)) :
    (Context.create k refused >>= fun o => f o >>= fun _ => (pure (g o) : ContextM α)).Makes objects
      fails fun _ _ => False := by
  intro x r x' hx h
  rcases leads_create_bind h with ⟨reason, rfl, asked, -⟩ | ⟨o, y, number, asked, granted, h⟩
  · exact .inr ⟨_, [], rfl, he reason, hx.gains.refused asked, by simp⟩
  · have made := hx.gains.made asked number rfl rfl
    obtain ⟨v, z, gave, hp⟩ :=
      leads_ok_bind (p := fun _ z => y.Gave (cs o) z) (fun s z hs => ⟨(), hf o y s z hs⟩) h
    obtain ⟨rfl, rfl⟩ := leads_pure hp
    have used := made.use gave fun c hm =>
      ⟨(hc o c hm).1, fun o' ho' => List.mem_singleton.mpr ((hc o c hm).2 o' ho')⟩
    exact .inl ⟨g o, rfl, (hg o).symm ▸ used, granted.gave gave⟩

/-- An object that is made and not used yet. If it is refused, there is nothing. -/
theorem makes_create {k : ObjectKind} {refused : String → RenderError}
    (he : ∀ reason, fails (refused reason)) :
    (Context.create k refused).Makes (fun o => [o.object]) fails fun _ _ => False := by
  intro x r x' hx h
  rcases leads_create h with ⟨⟨reason, rfl⟩, asked, -⟩ | ⟨o, rfl, number, asked, granted⟩
  · exact .inr ⟨_, [], rfl, he reason, hx.gains.refused asked, by simp⟩
  · exact .inl ⟨o, rfl, hx.gains.made asked number rfl rfl, granted⟩

/-- Nothing of another kind is asked for. -/
theorem requested_of_create {k k' : ObjectKind} {refused : String → RenderError}
    {f : Handle k → ContextM Unit} {cs : Handle k → List Command} {g : Handle k → α}
    (hf : ∀ o x r x', (f o).Leads x r x' → r = .ok () ∧ x.Gave (cs o) x') (hk : k' ≠ k)
    (h : (Context.create k refused >>= fun o => f o >>= fun _ =>
      (pure (g o) : ContextM α)).Leads x r x') :
    x'.requested k' = x.requested k' := by
  rcases leads_create_bind h with ⟨reason, -, asked, -⟩ | ⟨o, y, -, asked, -, h⟩
  · rw [asked.requested, if_neg hk]
  · obtain ⟨v, z, gave, hp⟩ :=
      leads_ok_bind (p := fun _ z => y.Gave (cs o) z) (fun s z hs => ⟨(), hf o y s z hs⟩) h
    obtain ⟨-, rfl⟩ := leads_pure hp
    rw [gave.requested, asked.requested, if_neg hk]

/-- A loop of questions that are always answered. -/
theorem leads_mapM {γ : Type} (part : α → γ) (ask : β → γ) {ok : Command → Prop}
    {f : β → ContextM α} (hf : ∀ b x r x', (f b).Leads x r x' →
      ∃ v cs, r = .ok v ∧ part v = ask b ∧ x.Gave cs x' ∧ ∀ c ∈ cs, ok c)
    {bs : List β} {r : Except RenderError (List α)} (h : (bs.mapM f).Leads x r x') :
    ∃ vs cs, r = .ok vs ∧ vs.map part = bs.map ask ∧ x.Gave cs x' ∧ ∀ c ∈ cs, ok c := by
  induction bs generalizing x x' r with
  | nil =>
    obtain ⟨rfl, rfl⟩ := leads_pure h
    exact ⟨[], [], rfl, rfl, x'.gave_nil, fun _ hc => nomatch hc⟩
  | cons b bs ih =>
    rw [List.mapM_cons] at h
    rcases leads_bind h with ⟨e, -, hb⟩ | ⟨v, y, hb, h⟩
    · obtain ⟨v, cs, he, -⟩ := hf b _ _ _ hb
      cases he
    · obtain ⟨v', cs, hv, hp, gave, hcs⟩ := hf b _ _ _ hb
      obtain rfl := Except.ok.inj hv
      rcases leads_bind h with ⟨e, -, hbs⟩ | ⟨vs, z, hbs, h⟩
      · obtain ⟨vs, ds, he, -⟩ := ih hbs
        cases he
      · obtain ⟨vs', ds, hvs, hps, gave', hds⟩ := ih hbs
        obtain rfl := Except.ok.inj hvs
        obtain ⟨rfl, rfl⟩ := leads_pure h
        refine ⟨v :: vs, cs ++ ds, rfl, congrArg₂ _ hp hps, gave.append gave', fun c hc => ?_⟩
        exact (List.mem_append.mp hc).elim (hcs c) (hds c)

/-- The loop is followed by what it was run for. -/
theorem leads_mapM_bind {γ δ : Type} (part : α → γ) (ask : β → γ) {ok : Command → Prop}
    {f : β → ContextM α}
    (hf : ∀ b x r x', (f b).Leads x r x' →
      ∃ v cs, r = .ok v ∧ part v = ask b ∧ x.Gave cs x' ∧ ∀ c ∈ cs, ok c)
    {bs : List β} {g : List α → ContextM δ} {r : Except RenderError δ}
    (h : (bs.mapM f >>= g).Leads x r x') :
    ∃ vs cs y, vs.map part = bs.map ask ∧ x.Gave cs y ∧ (∀ c ∈ cs, ok c) ∧ (g vs).Leads y r x' := by
  rcases leads_bind h with ⟨e, -, hm⟩ | ⟨vs, y, hm, h⟩
  · obtain ⟨vs, cs, he, -⟩ := leads_mapM part ask hf hm
    cases he
  · obtain ⟨vs', cs, hvs, hp, gave, hcs⟩ := leads_mapM part ask hf hm
    obtain rfl := Except.ok.inj hvs
    exact ⟨vs, cs, y, hp, gave, hcs, h⟩

end ContextM

open Context ContextM

/-! ## Programs -/

section Programs

variable {x x' base : Context} {name text vertex fragment : String}

/-- What comes of compiling a stage when the shaders of the earlier ones are all there is: if the
driver refuses the shader, the earlier ones stay. -/
theorem leads_compileStage {earlier : List (Handle .shader)} {stage : ShaderStage}
    {r : Except RenderError (Handle .shader)}
    (h : (compileStage name earlier stage text).Leads x r x')
    (hx : base.Gains x (earlier.map (·.object))) :
    (∃ s, r = .ok s ∧ base.Gains x' (s.object :: earlier.map (·.object)) ∧ x.Granted x') ∨
    (∃ log, r = .error (.rejectedProgram name log)) ∧
      (base.Gains x' [] ∧ x.Granted x' ∨
        base.Gains x' (earlier.map (·.object)) ∧ ¬ x.Granted x' ∧ x.MadeNothing x') := by
  unfold compileStage at h
  rcases leads_createShader_bind h with ⟨reason, rfl, asked, refused⟩ | ⟨s, y, number,
    asked, granted, h⟩
  -- the request itself was refused, so the shaders made before stay behind
  · refine .inr ⟨⟨reason, rfl⟩, .inr ⟨hx.refused asked, refused, ?_⟩⟩
    rw [MadeNothing, asked.commands, List.append_nil]
  · have made := hx.made asked number rfl rfl
    obtain ⟨y₁, gave₁, h⟩ := leads_give_bind h
    obtain ⟨n, y₂, gave₂, h⟩ := leads_compileShader_bind h
    have used := made.use (gave₁.append gave₂) (by simp)
    have granted : x.Granted y₂ := (granted.gave gave₁).gave gave₂
    split at h
    · obtain ⟨rfl, rfl⟩ := leads_pure h
      exact .inl ⟨s, rfl, used, granted⟩
    · rename_i log _
      obtain ⟨y₃, gave₃, h⟩ := leads_giveAll_bind h
      obtain ⟨rfl, rfl⟩ := leads_throw h
      -- a shader that does not compile is deleted together with the earlier ones
      have swept : base.Gains x' [] := by
        refine (used.perm (List.Perm.of_eq (List.append_nil _).symm)).delete _ ?_
        simpa [deleteAll, Handle.object, Function.comp_def] using gave₃
      exact .inr ⟨⟨log, rfl⟩, .inl ⟨swept, granted.gave gave₃⟩⟩

/-- A stage that is compiled at the front of a `do` block. Where it fails, all shaders are deleted,
unless it was the driver that refused to make one. -/
theorem leads_compileStage_bind {earlier : List (Handle .shader)} {stage : ShaderStage}
    {f : Handle .shader → ContextM α} {r : Except RenderError α}
    (h : (compileStage name earlier stage text >>= f).Leads x r x')
    (hx : base.Gains x (earlier.map (·.object))) :
    (∃ log, r = .error (.rejectedProgram name log) ∧
      (base.Gains x' [] ∧ x.Granted x' ∨
        base.Gains x' (earlier.map (·.object)) ∧ ¬ x.Granted x' ∧ x.MadeNothing x')) ∨
      ∃ s y, base.Gains y (s.object :: earlier.map (·.object)) ∧ x.Granted y ∧
      (f s).Leads y r x' := by
  rcases leads_bind h with ⟨e, rfl, hm⟩ | ⟨s, y, hm, h⟩
  · rcases leads_compileStage hm hx with ⟨s, he, -⟩ | ⟨⟨log, he⟩, failed⟩
    · cases he
    · exact .inl ⟨log, congrArg _ (Except.error.inj he), failed⟩
  · rcases leads_compileStage hm hx with ⟨s', hs, gains, granted⟩ | ⟨⟨log, he⟩, -⟩
    · obtain rfl := Except.ok.inj hs
      exact .inr ⟨s, y, gains, granted, h⟩
    · cases he

/-- A shader is taken out of a program and deleted. -/
theorem Context.Gains.dropShader {p : Handle .program} {s : Handle .shader} {rest : List Object}
    (h : base.Gains x (s.object :: rest)) (hp : p.object ∈ rest)
    (hg : x.Gave [.detachShader p s, .delete .shader s] x') : base.Gains x' rest := by
  obtain ⟨y, detached, deleted⟩ := Gave.split [.detachShader p s] (deleteAll [s.object]) hg
  refine (h.use detached ?_).delete [s.object] deleted
  simp [hp]

/-- The condition under which a link leaves something behind: an object was refused, and another one
was made. -/
def Spoiled (x x' : Context) : Prop := ¬ x.Granted x' ∧ ¬ x.MadeNothing x'

/-- Something was left behind and something was refused: the failure is one of the kind that
spoils. -/
theorem spoiled_of_left {left : List Object} (h : x.Gains x' left) (hx : x.Sound) (hl : left ≠ [])
    (hg : ¬ x.Granted x') : left ≠ [] ↔ Spoiled x x' :=
  iff_of_true hl ⟨hg, fun hn => hl (h.eq_nil hx hn)⟩

/-- Where nothing was refused, nothing is left behind, and nothing is spoiled. -/
theorem not_spoiled_of_granted (hg : x.Granted x') : ([] : List Object) ≠ [] ↔ Spoiled x x' :=
  iff_of_false (fun h => h rfl) fun h => h.1 hg

/-- **A program is linked, or nothing is left of it, or the driver refused an object while another
one was there already.** -/
theorem makes_link (attributes : List String) :
    (link name vertex fragment attributes).Makes (fun p => [p.object])
      (fun e => ∃ log, e = .rejectedProgram name log) Spoiled := by
  intro x r x' hx h
  unfold link at h
  -- the vertex shader
  rcases leads_compileStage_bind h hx.gains with ⟨log, rfl, failed⟩ | ⟨v, y₁, g₁, granted₁, h⟩
  · refine .inr ⟨_, [], rfl, ⟨log, rfl⟩, ?_⟩
    rcases failed with ⟨gains, granted⟩ | ⟨gains, -, nothing⟩
    · exact ⟨gains, not_spoiled_of_granted granted⟩
    · exact ⟨gains, iff_of_false (fun h => h rfl) fun h => h.2 nothing⟩
  -- the fragment shader
  rcases leads_compileStage_bind h g₁ with ⟨log, rfl, failed⟩ | ⟨f, y₂, g₂, granted₂, h⟩
  · rcases failed with ⟨gains, granted⟩ | ⟨gains, refused, -⟩
    · have granted := g₁.later.granted_trans granted₁ granted
      exact .inr ⟨_, [], rfl, ⟨log, rfl⟩, gains, not_spoiled_of_granted granted⟩
    · refine .inr ⟨_, _, rfl, ⟨log, rfl⟩, gains, ?_⟩
      exact spoiled_of_left gains hx (by simp) fun hg => refused fun k =>
        g₁.later.granted_right (hg k)
  have granted₂ := g₁.later.granted_trans granted₁ granted₂
  -- the program
  rcases leads_create_bind h with ⟨log, rfl, asked, refused⟩ | ⟨p, y₃, number, asked, granted₃, h⟩
  · have gains := g₂.refused asked
    refine .inr ⟨_, _, rfl, ⟨log, rfl⟩, gains, ?_⟩
    exact spoiled_of_left gains hx (by simp) fun hg => refused fun k =>
      g₂.later.granted_right (hg k)
  have granted₃ := g₂.later.granted_trans granted₂ granted₃
  have g₃ := g₂.made asked number rfl rfl
  -- the link itself, after which the shaders go
  obtain ⟨y₄, gave₄, h⟩ := leads_giveAll_bind h
  obtain ⟨y₅, gave₅, h⟩ := leads_giveAll_bind h
  obtain ⟨n, y₆, gave₆, h⟩ := leads_linkProgram_bind h
  obtain ⟨y₇, gave₇, h⟩ := leads_giveAll_bind h
  have g₆ : x.Gains y₆ [p.object, f.object, v.object] := by
    refine g₃.use ((gave₄.append gave₅).append gave₆) ?_
    simp only [List.mem_append, List.mem_map, List.mem_cons, List.not_mem_nil, or_false]
    rintro c ((⟨⟨a, i⟩, -, rfl⟩ | ⟨s, rfl | rfl, rfl⟩) | rfl)
    all_goals simp
  obtain ⟨z, dropV, dropF⟩ := Gave.split [.detachShader p v, .delete .shader v]
    [.detachShader p f, .delete .shader f] gave₇
  have order : [p.object, f.object, v.object].Perm [v.object, f.object, p.object] :=
    (List.reverse_perm _).symm
  have g₇ := ((g₆.perm order).dropShader (by simp) dropV).dropShader (by simp) dropF
  have granted₇ := (((granted₃.gave gave₄).gave gave₅).gave gave₆).gave gave₇
  split at h
  · obtain ⟨rfl, rfl⟩ := leads_pure h
    exact .inl ⟨p, rfl, g₇, granted₇⟩
  · rename_i log _
    obtain ⟨y₈, gave₈, h⟩ := leads_give_bind h
    obtain ⟨rfl, rfl⟩ := leads_throw h
    have g₈ := g₇.delete [p.object] gave₈
    exact .inr ⟨_, [], rfl, ⟨log, rfl⟩, g₈, not_spoiled_of_granted (granted₇.gave gave₈)⟩

/-- Whatever asks a known answer first makes what it makes then. -/
theorem ContextM.makes_ofExcept_bind {known : Except RenderError α} {f : α → ContextM β}
    {objects : β → List Object} {fails : RenderError → Prop} {leaks : Context → Context → Prop}
    (he : ∀ e, known = .error e → fails e ∧ ∀ x, ¬ leaks x x)
    (hf : ∀ v, known = .ok v → (f v).Makes objects fails leaks) :
    ((ofExcept known : ContextM α) >>= f).Makes objects fails leaks := by
  intro x r x' hx h
  rcases leads_bind h with ⟨e, rfl, hk⟩ | ⟨v, y, hk, hv_leads⟩
  · obtain ⟨he', rfl⟩ := leads_ofExcept hk
    obtain ⟨fails, spared⟩ := he e he'.symm
    exact .inr ⟨e, [], rfl, fails, hx.gains, iff_of_false (fun h => h rfl) (spared x')⟩
  · obtain ⟨hv, rfl⟩ := leads_ofExcept hk
    exact hf v hv.symm _ r x' hx hv_leads

/-- Linking a source makes a program, or it fails with the log of a text that was rejected. A source
that is no GLSL is rejected before anything is made. -/
theorem makes_linkSource (source : ProgramSource) (attributes : List GlslVariable) :
    (linkSource name source attributes).Makes (fun p => [p.object])
      (fun e => ∃ log, e = .rejectedProgram name log) Spoiled := by
  refine makes_ofExcept_bind (fun e he => ?_) fun v _ => makes_link _
  cases source with
  | glsl vertex fragment => cases he
  | wgsl text =>
    obtain rfl := Except.error.inj he
    exact ⟨⟨_, rfl⟩, fun x h => h.2 rfl⟩

/-- Asking a program for its uniforms. -/
def Asks (p : Handle .program) (c : Command) : Prop :=
  ∃ uniform answer, c = .uniformLocation p uniform answer

/-- A question for a location uses its program and makes nothing. -/
theorem Asks.uses {p : Handle .program} {c : Command} (h : Asks p c) :
    c.Spares ∧ ∀ o ∈ c.uses, o = p.object := by
  obtain ⟨uniform, answer, rfl⟩ := h
  exact ⟨⟨rfl, rfl⟩, fun o ho => List.mem_singleton.mp ho⟩

/-- A fixed program is linked, and what is asked for its locations afterwards cannot fail. -/
theorem FixedProgram.makes_make (source : ProgramSource) (attributes : List GlslVariable) :
    (FixedProgram.make name source attributes).Makes (fun f => [f.program.object])
      (fun e => ∃ log, e = .rejectedProgram name log) Spoiled := by
  intro x r x' hx h
  unfold FixedProgram.make at h
  rcases (makes_linkSource source attributes).after_bind hx.gains h with
    ⟨e, left, rfl, fails, gains, leaks⟩ | ⟨p, y, gains, granted, h⟩
  · exact .inr ⟨e, left, rfl, fails, List.append_nil left ▸ gains, leaks⟩
  · obtain ⟨view, y₁, gave₁, h⟩ := leads_locate_bind h
    obtain ⟨atlas, y₂, gave₂, h⟩ := leads_locate_bind h
    obtain ⟨rfl, rfl⟩ := leads_pure h
    refine .inl ⟨_, rfl, gains.use (gave₁.append gave₂) ?_, (granted.gave gave₁).gave gave₂⟩
    simp

/-- The uniforms of an effect are looked up in its table's order, and its channels in theirs. -/
theorem LinkedEffect.leads_make {p : Handle .program} {uniforms : List Uniform} {blend : BlendMode}
    {r : Except RenderError LinkedEffect} (h : (LinkedEffect.make p uniforms blend).Leads x r x') :
    ∃ e cs, r = .ok e ∧ e.program = p ∧ e.blend = blend ∧ e.uniforms.map (·.uniform) = uniforms ∧
      e.channels.length = maxChannels ∧ x.Gave cs x' ∧ ∀ c ∈ cs, Asks p c := by
  unfold LinkedEffect.make at h
  -- one uniform and one channel at a time: the driver is asked for a location, no more
  have linked : ∀ u x (r : Except RenderError LinkedUniform) x',
      (locate p (uniformMemberName u.name) >>= fun l => (pure ⟨u, l⟩ : ContextM _)).Leads x r x' →
        ∃ v cs, r = .ok v ∧ v.uniform = id u ∧ x.Gave cs x' ∧ ∀ c ∈ cs, Asks p c := by
    intro u x r x' h
    obtain ⟨answer, y, gave, h⟩ := leads_locate_bind h
    obtain ⟨rfl, rfl⟩ := leads_pure h
    exact ⟨_, _, rfl, rfl, gave, by simp [Asks]⟩
  have located : ∀ c x (r : Except RenderError (Option Nat)) x',
      (locate p (channelSamplerName c)).Leads x r x' →
        ∃ v cs, r = .ok v ∧ () = () ∧ x.Gave cs x' ∧ ∀ c ∈ cs, Asks p c := by
    intro c x r x' h
    obtain ⟨answer, hr, gave⟩ := leads_locate h
    exact ⟨answer, _, hr, rfl, gave, by simp [Asks]⟩
  obtain ⟨us, cs, y, hus, gave, hcs, h⟩ := leads_mapM_bind (·.uniform) id linked h
  obtain ⟨channels, ds, z, hch, gave', hds, h⟩ :=
    leads_mapM_bind (fun _ => ()) (fun _ => ()) located h
  obtain ⟨rfl, rfl⟩ := leads_pure h
  refine ⟨_, cs ++ ds, rfl, rfl, rfl, ?_, ?_, gave.append gave', fun c hc => ?_⟩
  · rw [hus, List.map_id]
  · simpa using congrArg List.length hch
  · exact (List.mem_append.mp hc).elim (hcs c) (hds c)

end Programs

/-! ## Textures, targets and buffers -/

section Images

variable {x x' : Context}

/-- A texture is made, bound and filled. Once it is there nothing can fail any more. -/
theorem makes_createTexture (c : Capabilities) (width height : UInt32)
    (pixels : Option (List UInt8)) (filter : Filter) :
    (createTexture c width height pixels filter).Makes (fun t => [t.object])
      (fun e => ∃ reason, e = .surface reason) fun _ _ => False :=
  makes_of_create _ (fun _ _ _ _ => leads_giveAll)
    (by simp) (fun _ => rfl)
    fun _ => ⟨_, rfl⟩

/-- The same for a buffer with its contents. -/
theorem Adapter.makes_filledBuffer (target : BufferTarget) (bytes : List UInt8) :
    (filledBuffer target bytes).Makes (fun b => [b.object]) (fun e => ∃ reason, e = .surface reason)
      fun _ _ => False :=
  makes_of_create _ (fun _ _ _ _ => leads_giveAll)
    (by simp) (fun _ => rfl)
    fun _ => ⟨_, rfl⟩

/-- The objects of a target, in the order in which they are deleted. -/
def RenderTarget.objects (t : RenderTarget) : List Object :=
  [t.framebuffer.object, t.texture.object]

theorem RenderTarget.delete_eq (t : RenderTarget) : t.delete = deleteAll t.objects := rfl

/-- A target is made, or its texture stays because the framebuffer was refused, or nothing stays. -/
theorem makes_renderTarget (c : Capabilities) (index : Nat) (size : SurfaceSize) :
    (RenderTarget.make c index size).Makes RenderTarget.objects (fun e =>
      ∃ reason, e = .surface reason)
      fun x x' => ¬ x.GrantedOf .framebuffer x' := by
  intro x r x' hx h
  unfold RenderTarget.make at h
  -- the texture comes first, before any framebuffer is asked for
  rcases leads_bind h with ⟨e, rfl, ht⟩ | ⟨t, y, ht, h⟩
  · have none_asked : x'.requested .framebuffer = x.requested .framebuffer :=
      requested_of_create (fun _ _ _ _ => leads_giveAll) (by decide) ht
    rcases makes_createTexture c _ _ _ _ x _ x' hx ht with ⟨t, he, -⟩ | ⟨e', left, he,
      fails, gains, hl⟩
    · cases he
    · obtain rfl := Except.error.inj he
      refine .inr ⟨e, left, rfl, fails, gains, hl.trans (iff_of_false id fun hf => hf ?_)⟩
      intro n hle hlt
      omega
  rcases makes_createTexture c _ _ _ _ x _ y hx ht with ⟨t', ht', g₁, granted₁⟩ | ⟨e, -, he, -⟩
  swap
  · cases he
  obtain rfl := Except.ok.inj ht'
  rcases leads_create_bind h with ⟨reason, rfl, asked, refused⟩ | ⟨f, y₂, number,
    asked, granted₂, h⟩
  · refine .inr ⟨_, _, rfl, ⟨_, rfl⟩, g₁.refused asked, iff_of_true (by simp) ?_⟩
    intro hg
    refine refused (asked.granted_iff.mpr ?_)
    rw [g₁.later.host]
    refine hg _ (g₁.later.requested _) ?_
    rw [asked.requested, if_pos rfl]
    exact Nat.lt_succ_self _
  have g₂ := g₁.made asked number rfl rfl
  have granted₂ := g₁.later.granted_trans granted₁ granted₂
  -- the framebuffer is given the texture and checked
  obtain ⟨y₃, gave₃, h⟩ := leads_giveAll_bind h
  obtain ⟨n, y₄, gave₄, h⟩ := leads_checkFramebuffer_bind h
  obtain ⟨y₅, gave₅, h⟩ := leads_give_bind h
  have g₅ := g₂.use ((gave₃.append gave₄).append gave₅) (by simp)
  have granted₅ := ((granted₂.gave gave₃).gave gave₄).gave gave₅
  dsimp only at h
  split at h
  · obtain ⟨rfl, rfl⟩ := leads_pure h
    exact .inl ⟨_, rfl, g₅, granted₅⟩
  · obtain ⟨y₆, gave₆, h⟩ := leads_giveAll_bind h
    obtain ⟨rfl, rfl⟩ := leads_throw h
    refine .inr ⟨_, [], rfl, ⟨_, rfl⟩, g₅.delete [f.object, t.object] gave₆, ?_⟩
    exact iff_of_false (fun h => h rfl) fun hf => hf ((granted₅.gave gave₆) _)

end Images

/-! ## The whole adapter -/

namespace Adapter

variable {x x' : Context}

/-- The objects that an adapter has from the start, in the order in which they are deleted. -/
def fixedObjects (a : Adapter) : List Object :=
  [a.spriteColor.program.object, a.spriteMask.program.object, a.light.program.object,
    a.shadow.program.object, a.corners.object, a.indices.object, a.stream.object, a.empty.object] ++
  (a.vertexArray.map (·.object)).toList

/-- A step failed after something was made in an earlier one. -/
def FailedLate (x : Context) (r : Except RenderError α) (x' : Context) : Prop :=
  ∃ e left, r = .error e ∧ x.Gains x' left ∧ left ≠ [] ∧ ∀ log, e ≠ .rejectedProgram "sprite" log

/-- Some steps are done, and they made something. -/
structure Halfway (x y : Context) (new : List Object) : Prop where
  /-- What they made. -/
  gains : x.Gains y new
  /-- It is not nothing. -/
  some_made : new ≠ []
  /-- No object was refused. -/
  granted : x.Granted y

/-- A step that comes after others either makes its objects too, or what the others made stays. -/
theorem Halfway.step {m : ContextM α} {f : α → ContextM β} {objects : α → List Object}
    {fails : RenderError → Prop} {leaks : Context → Context → Prop} {y : Context}
    {r : Except RenderError β} {new : List Object} (hy : Halfway x y new)
    (hm : m.Makes objects fails leaks)
    (hf : ∀ e, fails e → ∀ log, e ≠ .rejectedProgram "sprite" log) (h : (m >>= f).Leads y r x') :
    FailedLate x r x' ∨ ∃ v z, Halfway x z (objects v ++ new) ∧ (f v).Leads z r x' := by
  rcases hm.after_bind hy.gains h with ⟨e, left, rfl, fails, gains, -⟩ | ⟨v, z, gains, granted, h⟩
  · exact .inl ⟨e, _, rfl, gains, by simp [hy.some_made], hf e fails⟩
  · exact .inr
      ⟨v, z, ⟨gains, by simp [hy.some_made], hy.gains.later.granted_trans hy.granted granted⟩, h⟩

/-- An adapter is there with all its objects, and nothing was loaded into it yet. -/
def Connected (x : Context) (size : SurfaceSize) (r : Except RenderError Adapter)
    (x' : Context) : Prop :=
  ∃ a, r = .ok a ∧ x.Gains x' a.fixedObjects ∧ x.Granted x' ∧ a.surface = size ∧ a.targets = [] ∧
    a.atlases = [] ∧ a.buffers = [] ∧ a.nextBuffer = 0 ∧ a.effects = [] ∧ a.view = ⟨⟨0, 0⟩, ⟨1, 1⟩⟩

/-- No adapter is there. Nothing is left only if nothing was made, or if the first program was not
accepted. -/
def GivenUp (x : Context) (r : Except RenderError Adapter) (x' : Context) : Prop :=
  ∃ e left, r = .error e ∧ x.Gains x' left ∧
    (left = [] ↔ x.MadeNothing x' ∨ x.Granted x' ∧ ∃ log, e = .rejectedProgram "sprite" log)

/-- An adapter that failed behind its first program leaves everything that it had made until
then. -/
theorem FailedLate.givenUp {r : Except RenderError Adapter} (h : FailedLate x r x') (hx : x.Sound) :
    GivenUp x r x' := by
  obtain ⟨e, left, hr, gains, some_left, other⟩ := h
  refine ⟨e, left, hr, gains, iff_of_false some_left ?_⟩
  rintro (nothing | ⟨-, log, he⟩)
  · exact some_left (gains.eq_nil hx nothing)
  · exact other log he

/-- The rejection of another program is told apart from that of the first one by its name. -/
theorem ne_sprite_of_program {name : String} (hn : name ≠ "sprite") (e : RenderError)
    (he : ∃ log, e = .rejectedProgram name log) (log : String) :
    e ≠ .rejectedProgram "sprite" log := by
  obtain ⟨log', rfl⟩ := he
  intro same
  injection same
  contradiction

/-- So is the refusal of an object. -/
theorem ne_sprite_of_surface (e : RenderError) (he : ∃ reason, e = .surface reason) (log : String) :
    e ≠ .rejectedProgram "sprite" log := by
  obtain ⟨reason, rfl⟩ := he
  intro same
  cases same

/-- The first program may be given up without a trace. -/
theorem givenUp_of_sprite {y : Context} {e : RenderError} {source : ProgramSource}
    {attributes : List GlslVariable} (hx : x.Sound) (said : x.Gave [] y)
    (h : (FixedProgram.make "sprite" source attributes).Leads y (.error e) x') :
    GivenUp x (.error e) x' := by
  have start : x.Gains y [] := hx.gains.use said (List.forall_mem_nil _)
  rcases (FixedProgram.makes_make _ _).after start h with ⟨v, he, -⟩ | ⟨e', left, he,
    ⟨log, hlog⟩, gains, hl⟩
  · cases he
  obtain rfl := Except.error.inj he
  have same : createdIn y.commands.toList = createdIn x.commands.toList := by
    rw [said.commands, List.append_nil]
  refine ⟨e, left ++ [], rfl, gains, ?_⟩
  rw [List.append_nil, ← not_iff_not, ← ne_eq, hl, Spoiled, not_or, MadeNothing,
    MadeNothing, same, and_comm]
  refine and_congr_right fun _ =>
    not_congr ⟨fun hg => ⟨start.later.granted_trans said.granted hg, log, hlog⟩, ?_⟩
  rintro ⟨hg, -⟩
  exact fun k => start.later.granted_right (hg k)

/-- The last part of connecting: two buffers with contents, the stream and the empty texture.
Whichever is refused, the programs and the objects before it stay. -/
theorem Halfway.equip {interface : Interface} {size : SurfaceSize} {c : Capabilities}
    {spriteColor spriteMask light shadow : FixedProgram}
    {vertexArray : Option (Handle .vertexArray)} {y : Context} {r : Except RenderError Adapter}
    (made : Halfway x y ((vertexArray.map (·.object)).toList ++
      [shadow.program.object, light.program.object, spriteMask.program.object,
        spriteColor.program.object]))
    (h : (equip interface size c spriteColor spriteMask light shadow vertexArray).Leads y r x') :
    Connected x size r x' ∨ FailedLate x r x' := by
  unfold Adapter.equip at h
  rcases made.step (makes_filledBuffer _ _) ne_sprite_of_surface h with
    failed | ⟨corners, z₁, made, h⟩
  · exact .inr failed
  rcases made.step (makes_filledBuffer _ _) ne_sprite_of_surface h with
    failed | ⟨indices, z₂, made, h⟩
  · exact .inr failed
  rcases made.step (makes_create fun _ => ⟨_, rfl⟩) ne_sprite_of_surface h with
    failed | ⟨stream, z₃, made, h⟩
  · exact .inr failed
  rcases made.step (makes_createTexture _ _ _ _ _) ne_sprite_of_surface h with
    failed | ⟨empty, z₄, made, h⟩
  · exact .inr failed
  obtain ⟨rfl, rfl⟩ := leads_pure h
  refine .inl ⟨_, rfl, made.gains.perm ?_, made.granted, rfl, rfl, rfl, rfl, rfl, rfl, rfl⟩
  refine List.perm_iff_count.mpr fun o => ?_
  simp only [fixedObjects, List.count_append, List.count_cons, List.count_nil]
  omega

/-- **An adapter is made with all its objects. If a step fails, all that was made before stays**;
nothing is left only if nothing was there before the step, and it cleaned up after itself. -/
theorem leads_connect {interface : Interface} {size : SurfaceSize} {r : Except RenderError Adapter}
    (hx : x.Sound) (h : (connect interface size).Leads x r x') :
    Connected x size r x' ∨ GivenUp x r x' := by
  have late : FailedLate x r x' → GivenUp x r x' := fun failed => failed.givenUp hx
  unfold connect at h
  replace h := leads_get_bind h
  dsimp only at h
  split at h
  -- on an unsupported host the start ends before anything is asked
  swap
  · obtain ⟨rfl, rfl⟩ := leads_throw h
    exact .inr ⟨_, [], rfl, hx.gains, iff_of_true rfl (.inl rfl)⟩
  simp only [pure_bind] at h
  obtain ⟨_, y, said, h⟩ := leads_ok_bind (p := fun _ y => x.Gave [] y)
    (fun s y hs => ⟨(), leads_say hs⟩) h
  have start : x.Gains y [] := hx.gains.use said (List.forall_mem_nil _)
  -- nothing was made before the first program, so its failure is a case of its own
  rcases leads_bind h with ⟨e, rfl, hp⟩ | ⟨spriteColor, y₁, hp, h⟩
  · exact .inr (givenUp_of_sprite hx said hp)
  rcases (FixedProgram.makes_make _ _).after start hp with ⟨v, hv, gains,
    granted⟩ | ⟨e', left, he, -⟩
  swap
  · cases he
  obtain rfl := Except.ok.inj hv
  have made : Halfway x y₁ [spriteColor.program.object] :=
    ⟨gains, by simp, start.later.granted_trans said.granted granted⟩
  -- each later program adds one object to what a failure would leave behind
  rcases made.step (FixedProgram.makes_make _ _) (ne_sprite_of_program (by decide)) h with
    failed | ⟨spriteMask, y₂, made, h⟩
  · exact .inr (late failed)
  rcases made.step (FixedProgram.makes_make _ _) (ne_sprite_of_program (by decide)) h with
    failed | ⟨light, y₃, made, h⟩
  · exact .inr (late failed)
  rcases made.step (FixedProgram.makes_make _ _) (ne_sprite_of_program (by decide)) h with
    failed | ⟨shadow, y₄, made, h⟩
  · exact .inr (late failed)
  -- only where the interface has vertex arrays is one made
  split at h
  · rcases made.step (makes_create fun _ =>
      ⟨_, rfl⟩) ne_sprite_of_surface h with failed | ⟨a, z, made, h⟩
    · exact .inr (late failed)
    obtain ⟨z₁, gave, h⟩ := leads_give_bind h
    have bound := made.gains.use gave (by simp)
    have equipped : Halfway x z₁ ((Option.map (·.object) (some a)).toList ++ _) :=
      ⟨bound, made.some_made, made.granted.gave gave⟩
    exact (equipped.equip h).imp_right late
  · have equipped : Halfway x y₄
        ((Option.map (·.object) (none : Option (Handle .vertexArray))).toList ++ _) := made
    exact (equipped.equip h).imp_right late

end Adapter

end LitTiles.Gl
