import Mathlib.Data.Option.Basic
import Mathlib.Logic.Function.Basic
import LitTiles.Proofs.Backend.History
import LitTiles.Proofs.Gl.Calls
import LitTiles.Proofs.Gl.Making
import LitTiles.Proofs.Table
import LitTiles.Proofs.Wgpu.Conduct

/-!
# What a backend keeps of effects

A backend has a `Shelf` if it keeps something for each effect that it compiles, under the name of
the effect: what was compiled last takes the place of what was kept before, and what was rejected
changes nothing. Which effects are on the shelf can then be told from the history alone
(`Shelf.Holds.run`).

Adapters on a GL context and on a device have one (`Gl.Session.shelf`, `Wgpu.Session.shelf`).
-/

namespace LitTiles

/-- The call compiles an effect. -/
def Call.compiles : Call → Bool
  | .issue (.compileProgram _ _) => true
  | _ => false

namespace Exchange

/-- An effect was compiled, under a name. -/
def compiled? : Exchange → Option (String × EffectProgram)
  | ⟨.issue (.compileProgram name p), .ok ()⟩ => some (name, p)
  | _ => none

/-- What was compiled last under each name, after one more exchange. -/
def learn (known : String → Option EffectProgram) (e : Exchange) : String → Option EffectProgram :=
  match e.compiled? with
  | some (name, p) => Function.update known name (some p)
  | none => known

theorem learn_of_others {known : String → Option EffectProgram} {c : Call} (hc : c.compiles = false)
    (o : c.Outcome) :
    learn known ⟨c, o⟩ = known := by
  cases c with
  | issue command => cases command <;> first | rfl | cases hc
  | _ => rfl

end Exchange

/-- What a backend keeps of effects. -/
structure Shelf {ρ : Type} (b : Backend ρ) (κ : Type) where
  /-- What is kept, by name. -/
  entries : ρ → List (String × κ)
  /-- What is made of a program under a name. -/
  Made : String → EffectProgram → κ → Prop
  /-- What was compiled takes the place of what was kept under its name. -/
  compiled : ∀ name p s, (b.perform (.issue (.compileProgram name p)) s).1 = .ok () →
    ∃ k, Made name p k ∧
    entries (b.perform (.issue (.compileProgram name p)) s).2 = (name, k) ::
    (entries s).filter (·.1 != name)
  /-- What is rejected changes nothing. -/
  rejected : ∀ name p s e, (b.perform (.issue (.compileProgram name p)) s).1 = .error e →
    entries (b.perform (.issue (.compileProgram name p)) s).2 = entries s
  /-- Nor do other calls. -/
  others : ∀ c s, c.compiles = false → entries (b.perform c s).2 = entries s
  /-- Nor do notices. -/
  notices : ∀ n s, entries (b.notice n s) = entries s

namespace Shelf

variable {ρ κ α : Type} {b : Backend ρ} {shelf : Shelf b κ}
  {known : String → Option EffectProgram} {s : ρ}

/-- Exactly the known effects are on the shelf. -/
def Holds (shelf : Shelf b κ) (known : String → Option EffectProgram) (s : ρ) : Prop :=
  ∀ name, Option.Rel (shelf.Made name) (known name) ((shelf.entries s).lookup name)

theorem holds_of_empty (h : shelf.entries s = []) : shelf.Holds (fun _ => none) s := by
  intro name
  rw [h]
  exact .none

theorem Holds.perform (h : shelf.Holds known s) (c : Call) :
    shelf.Holds (Exchange.learn known ⟨c, (b.perform c s).1⟩) (b.perform c s).2 := by
  cases hc : c.compiles with
  | false =>
    rw [Exchange.learn_of_others hc, Holds, shelf.others c s hc]
    exact h
  | true =>
    match c, hc with
    | .issue (.compileProgram name p), _ =>
      cases hr : (b.perform (.issue (.compileProgram name p)) s).1 with
      | error e =>
        rw [Holds, shelf.rejected name p s e hr]
        exact h
      | ok _ =>
        obtain ⟨k, made, entries⟩ := shelf.compiled name p s hr
        -- the new program is found under its own name, and the other names are not concerned
        intro name'
        rw [entries, lookup_replace]
        change Option.Rel _ (Function.update known name (some p) name') _
        by_cases hn : name' = name
        · subst hn
          rw [Function.update_self, if_pos rfl]
          exact .some made
        · rw [Function.update_of_ne hn, if_neg hn]
          exact h name'

/-- What is on the shelf after a run follows from the history of the run. -/
theorem Holds.run (h : shelf.Holds known s) (m : Script α) :
    shelf.Holds ((m.heard b s).foldl Exchange.learn known) (m.run b s).2 := by
  induction m generalizing known s with
  | done a => exact h
  | call c k ih => exact ih _ (h.perform c)
  | note n k ih =>
    refine ih (s := b.notice n s) ?_
    rw [Holds, shelf.notices]
    exact h

end Shelf

/-! ## Adapters on a GL context -/

namespace Gl

/-- A linked effect was made of a program: it has its uniforms and its blend mode, and was linked
from its text. -/
structure LinkedEffect.MadeOf (name : String) (p : EffectProgram) (e : LinkedEffect) : Prop where
  /-- The text. -/
  linked : ∃ x y, (linkSource name p.source Glsl.fullscreenAttributes).Leads x (.ok e.program) y
  /-- The uniforms, in the order of the table. -/
  uniforms : e.uniforms.map (·.uniform) = p.uniforms
  /-- The blend mode. -/
  blend : e.blend = p.blend

namespace Session

variable {s s' : Session} {r : Except RenderError Unit}

theorem effects_compileProgram {name : String} {p : EffectProgram}
    (h : (Adapter.compileProgram name p).Leads s r s') :
    (∃ e, r = .error e ∧ s'.adapter.effects = s.adapter.effects) ∨ ∃ e, r = .ok () ∧
    e.MadeOf name p ∧
      s'.adapter.effects = (name, e) :: s.adapter.effects.filter (·.1 != name) := by
  obtain ⟨linked, y, hl, ⟨e, -, rfl, rfl⟩ | ⟨program, made, z, rfl, hm, made'⟩⟩ :=
    Adapter.leads_compileProgram h
  · exact .inl ⟨e, rfl, rfl⟩
  obtain ⟨e, -, rfl, program, blend, uniforms, -⟩ := LinkedEffect.leads_make hm
  rcases made' with ⟨e', he⟩ | ⟨e', he, hr, ha, -⟩
  · cases he
  · obtain rfl := Except.ok.inj he
    exact .inr ⟨e, hr, ⟨⟨_, _, program ▸ hl⟩, uniforms, blend⟩, by rw [ha]⟩

theorem effects_others {c : Call} (hc : c.compiles = false) (s : Session) :
    (s.perform c).2.adapter.effects = s.adapter.effects := by
  refine keep_perform Adapter.effects (fun _ _ => rfl) (fun name p he => ?_)
    (fun _ _ _ => rfl) (fun _ _ => rfl) (fun _ _ _ => rfl) s
  rw [he] at hc
  cases hc

/-- The effects of an adapter on a context. -/
def shelf : Shelf backend LinkedEffect where
  entries s := s.adapter.effects
  Made := LinkedEffect.MadeOf
  compiled name p s hr := by
    rcases effects_compileProgram (s.leads_issue (.compileProgram name p)) with ⟨e, he, -⟩ | ⟨k,
      -, made, entries⟩
    · exact nomatch he.symm.trans hr
    · exact ⟨k, made, entries⟩
  rejected name p s e hr := by
    rcases effects_compileProgram (s.leads_issue (.compileProgram name p)) with ⟨e, -,
      same⟩ | ⟨k, ho, -⟩
    · exact same
    · exact nomatch ho.symm.trans hr
  others c s hc := effects_others hc s
  notices n s := by cases n <;> rfl

end Session

end Gl

/-! ## Adapters on a device -/

namespace Wgpu

/-- A program was made of the text, the blend mode and the uniforms of an effect. -/
structure Program.MadeOf (name : String) (p : EffectProgram) (e : Program) : Prop where
  /-- The pipeline. -/
  pipeline : ∃ groups format x y,
    (makePipeline name p.source groups .fullscreen p.blend format).Leads x
    (.ok e.pipeline) y
  /-- The layout of the uniform block. -/
  layout : e.layout = .ofUniforms p.uniforms

namespace Session

open AdapterM

variable {s s' : Session} {r : Except RenderError Unit}

theorem programs_compileProgram {name : String} {p : EffectProgram}
    (h : (Adapter.compileProgram name p).Leads s r s') :
    (∃ e, r = .error e ∧ s'.adapter.programs = s.adapter.programs) ∨ ∃ e, r = .ok () ∧
    e.MadeOf name p ∧
      s'.adapter.programs = (name, e) :: s.adapter.programs.filter (·.1 != name) := by
  rcases leads_bind (leads_get_bind h) with ⟨e, rfl, hm⟩ | ⟨pipeline, t, hm, h⟩
  · obtain ⟨ha, -⟩ := leads_onPlatform hm
    exact .inl ⟨e, rfl, by rw [ha]⟩
  · obtain ⟨-, hm⟩ := leads_onPlatform hm
    obtain ⟨rfl, rfl⟩ := leads_set h
    exact .inr ⟨_, rfl, ⟨⟨_, _, _, _, hm⟩, rfl⟩, rfl⟩

/-- The effects of an adapter on a device. -/
def shelf : Shelf backend Program where
  entries s := s.adapter.programs
  Made := Program.MadeOf
  compiled name p s hr := by
    rcases programs_compileProgram (s.leads_issue (.compileProgram name p)) with ⟨e, he, -⟩ | ⟨k,
      -, made, entries⟩
    · exact nomatch he.symm.trans hr
    · exact ⟨k, made, entries⟩
  rejected name p s e hr := by
    rcases programs_compileProgram (s.leads_issue (.compileProgram name p)) with ⟨e, -,
      same⟩ | ⟨k, ho, -⟩
    · exact same
    · exact nomatch ho.symm.trans hr
  others c s hc := by
    cases c with
    | createBuffer capacity =>
      have confined : (Adapter.createBuffer capacity).Confined Concern.all Adapter.programs
          s.adapter.programs :=
        Adapter.confined_createBuffer (by decide) (fun _ _ _ => rfl) capacity
      exact (confined _ _ _ rfl (s.leads_createBuffer capacity)).1
    | freeBuffer id =>
      obtain ⟨r, h⟩ := s.leads_freeBuffer id
      have confined : (Adapter.freeBuffer id).Confined Concern.all Adapter.programs
          s.adapter.programs :=
        Adapter.confined_freeBuffer (by decide) (fun _ _ => rfl) id
      exact (confined _ _ _ rfl h).1
    | issue command =>
      have confined : (Adapter.execute command).Confined Concern.all Adapter.programs
          s.adapter.programs := by
        refine Adapter.confined_execute (fun _ _ => rfl) (fun name p he => ?_) (fun _ _ => rfl)
          (fun _ _ => rfl) (fun _ _ => rfl) (fun _ _ => rfl) (fun _ _ => rfl) fun _ _ => rfl
        rw [he] at hc
        cases hc
      exact (confined _ _ _ rfl (s.leads_issue command)).1
  notices n s := by cases n <;> rfl

end Session

end Wgpu

end LitTiles
