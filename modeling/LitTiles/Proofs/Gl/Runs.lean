import LitTiles.Gl.Session

/-!
# Runs on a GL context

`Leads` relates a computation on a context, or on an adapter with its context, to what comes of it.
As for the actions of a renderer each construct has an inversion lemma here, and the theory of the
adapter is built from these alone.

A context remembers more than anything outside asks for. `Context.Gave` keeps what matters: the
commands that were given, the host that answers, and how many objects were asked for.
-/

namespace LitTiles.Gl

variable {α β : Type}

/-! ## Contexts -/

namespace Context

/-- A context that was given some commands, and was asked for no object. -/
structure Gave (x : Context) (cs : List Command) (x' : Context) : Prop where
  /-- The commands follow the earlier ones. -/
  commands : x'.commands.toList = x.commands.toList ++ cs
  /-- Answers come from the same host. -/
  host : x'.host = x.host
  /-- No object was asked for. -/
  requested : x'.requested = x.requested

variable {x y z : Context} {cs ds : List Command}

/-- A context was given nothing on the way to itself. -/
theorem gave_nil (x : Context) : x.Gave [] x := ⟨by simp, rfl, rfl⟩

/-- What was given in two stretches is the concatenation; the host and the counts of requests go
through. -/
theorem Gave.append (h : x.Gave cs y) (h' : y.Gave ds z) : x.Gave (cs ++ ds) z where
  commands := by rw [h'.commands, h.commands, List.append_assoc]
  host := h'.host.trans h.host
  requested := h'.requested.trans h.requested

/-- Commands that were given in a row were given one after the other. -/
theorem Gave.split (cs ds : List Command) (h : x.Gave (cs ++ ds) z) :
    ∃ y, x.Gave cs y ∧ y.Gave ds z := by
  refine ⟨{ x with commands := x.commands ++ cs.toArray }, ⟨by simp, rfl, rfl⟩, ?_,
    h.host, h.requested⟩
  simpa using h.commands

/-- No object of a kind was refused from one state of a context to the other. -/
def GrantedOf (k : ObjectKind) (x x' : Context) : Prop :=
  ∀ n, x.requested k ≤ n → n < x'.requested k → x.host.creationError k n = none

/-- No object was refused from one state of a context to the other. -/
def Granted (x x' : Context) : Prop := ∀ k, GrantedOf k x x'

/-- Where no object was asked for, none can have been refused. -/
theorem Gave.granted (h : x.Gave cs y) : x.Granted y := by
  intro k n hle hlt
  rw [h.requested] at hlt
  omega

/-- Commands behind a stretch in which everything was granted leave it so, since they ask for
nothing. -/
theorem Granted.gave (h : x.Granted y) (hg : y.Gave cs z) : x.Granted z := by
  intro k n hle hlt
  rw [hg.requested] at hlt
  exact h k n hle hlt

/-- A later state of a context. -/
structure Later (x x' : Context) : Prop where
  /-- The earlier commands are still there. -/
  commands : x.commands.toList <+: x'.commands.toList
  /-- Answers come from the same host. -/
  host : x'.host = x.host
  /-- Numbers are not given out again. -/
  requested : ∀ k, x.requested k ≤ x'.requested k

theorem Later.refl (x : Context) : x.Later x := ⟨List.prefix_rfl, rfl, fun _ => Nat.le_refl _⟩

/-- A context that is later than a later one is later: prefixes compose, and counts only grow. -/
theorem Later.trans (h : x.Later y) (h' : y.Later z) : x.Later z where
  commands := h.commands.trans h'.commands
  host := h'.host.trans h.host
  requested k := Nat.le_trans (h.requested k) (h'.requested k)

/-- A context that was given commands is later than it was. -/
theorem Gave.later (h : x.Gave cs y) : x.Later y where
  commands := ⟨cs, h.commands.symm⟩
  host := h.host
  requested k := Nat.le_of_eq (congrFun h.requested k).symm

/-- A stretch is free of refusals if both its parts are. -/
theorem Later.grantedOf_trans {k : ObjectKind} (h : x.Later y) (hxy : x.GrantedOf k y)
    (hyz : y.GrantedOf k z) : x.GrantedOf k z := by
  intro n hle hlt
  by_cases hn : n < y.requested k
  · exact hxy n hle hn
  · rw [← h.host]
    exact hyz n (Nat.le_of_not_lt hn) hlt

/-- Nothing was refused over two stretches if nothing was refused in either. The first stretch has
to be known as `Later`, so that the requests of the second are answered by the same host. -/
theorem Later.granted_trans (h : x.Later y) (hxy : x.Granted y) (hyz : y.Granted z) : x.Granted z :=
  fun k => h.grantedOf_trans (hxy k) (hyz k)

/-- The later part of a stretch without refusals has none either. -/
theorem Later.granted_right {k : ObjectKind} (h : x.Later y) (hg : x.GrantedOf k z) :
    y.GrantedOf k z := by
  intro n hle hlt
  rw [h.host]
  exact hg n (Nat.le_trans (h.requested k) hle) hlt

/-- The earlier part of a stretch without refusals has none either. -/
theorem Later.granted_left {k : ObjectKind} (h : y.Later z) (hg : x.GrantedOf k z) :
    x.GrantedOf k y :=
  fun n hle hlt => hg n hle (Nat.lt_of_lt_of_le hlt (h.requested k))

end Context

namespace ContextM

/-- What comes of a computation on a context: an answer, and the context after it. -/
def Leads (m : ContextM α) (x : Context) (r : Except RenderError α) (x' : Context) : Prop :=
  m.run.run x = (r, x')

variable {x x' : Context} {r : Except RenderError α} {v : α} {cs : List Command}

/-- Nothing is given for a value that is there already. -/
theorem leads_pure (h : (pure v : ContextM α).Leads x r x') : r = .ok v ∧ x' = x := by
  obtain ⟨rfl, rfl⟩ := Prod.mk.inj h
  exact ⟨rfl, rfl⟩

/-- A refusal gives nothing and leaves the context. -/
theorem leads_throw {e : RenderError} (h : (throw e : ContextM α).Leads x r x') :
    r = .error e ∧ x' = x := by
  obtain ⟨rfl, rfl⟩ := Prod.mk.inj h
  exact ⟨rfl, rfl⟩

/-- An answer known beforehand is the answer, and the context is as it was. -/
theorem leads_ofExcept {known : Except RenderError α}
    (h : (ofExcept known : ContextM α).Leads x r x') :
    r = known ∧ x' = x := by
  cases known with
  | ok v => exact leads_pure h
  | error e => exact leads_throw h

/-- A sequence of two computations: either the first one stops, or it goes on with the second
one. -/
theorem leads_bind {m : ContextM α} {f : α → ContextM β} {r : Except RenderError β}
    (h : (m >>= f).Leads x r x') :
    (∃ e, r = .error e ∧ m.Leads x (.error e) x') ∨
      ∃ v y, m.Leads x (.ok v) y ∧ (f v).Leads y r x' := by
  have key : (m >>= f).run.run x =
      (ExceptT.bindCont f (m.run.run x).1 : StateM Context _).run (m.run.run x).2 := rfl
  rw [Leads, key] at h
  cases hx : (m.run.run x).1 with
  | error e =>
    rw [hx] at h
    obtain ⟨rfl, rfl⟩ := Prod.mk.inj h
    exact .inl ⟨e, rfl, Prod.ext hx rfl⟩
  | ok v =>
    rw [hx] at h
    exact .inr ⟨v, _, Prod.ext hx rfl, h⟩

/-- A computation that cannot fail is followed by the next one. -/
theorem leads_ok_bind {m : ContextM α} {f : α → ContextM β} {r : Except RenderError β}
    {p : α → Context → Prop} (hm : ∀ s y, m.Leads x s y → ∃ v, s = .ok v ∧ p v y)
    (h : (m >>= f).Leads x r x') : ∃ v y, p v y ∧ (f v).Leads y r x' := by
  rcases leads_bind h with ⟨e, -, he⟩ | ⟨v, y, hv, hf⟩
  · obtain ⟨v, hv, -⟩ := hm _ _ he
    cases hv
  · obtain ⟨v', hv', hp⟩ := hm _ _ hv
    obtain rfl := Except.ok.inj hv'
    exact ⟨v, y, hp, hf⟩

/-- What is read is the context that the computation begins with. -/
theorem leads_get_bind {f : Context → ContextM α}
    (h : ((get : ContextM Context) >>= f).Leads x r x') :
    (f x).Leads x r x' := h

/-- What follows a `set` begins with the context that was set. -/
theorem leads_set_bind {y : Context} {f : PUnit → ContextM α}
    (h : ((set y : ContextM PUnit) >>= f).Leads x r x') : (f ⟨⟩).Leads y r x' := h

/-- Giving a command is answered by nothing and never refused: a context has no way to fail here. -/
theorem leads_give {c : Command} {r : Except RenderError Unit} (h : (Context.give c).Leads x r x') :
    r = .ok () ∧ x.Gave [c] x' := by
  obtain ⟨rfl, rfl⟩ := Prod.mk.inj h
  exact ⟨rfl, Array.toList_push, rfl, rfl⟩

/-- A record of the log is no command of the context, so the trail of commands is as before. -/
theorem leads_say {severity : Severity} {text : String} {r : Except RenderError Unit}
    (h : (Context.say severity text).Leads x r x') : r = .ok () ∧ x.Gave [] x' := by
  obtain ⟨rfl, rfl⟩ := Prod.mk.inj h
  exact ⟨rfl, by simp, rfl, rfl⟩

/-- The command that stands first in a `do` block, taken off the front of the run. -/
theorem leads_give_bind {c : Command} {f : Unit → ContextM α}
    (h : (Context.give c >>= f).Leads x r x') : ∃ y, x.Gave [c] y ∧ (f ()).Leads y r x' := by
  obtain ⟨v, y, hg, hf⟩ :=
    leads_ok_bind (p := fun _ y => x.Gave [c] y) (fun _ _ hg => ⟨(), leads_give hg⟩) h
  exact ⟨y, hg, hf⟩

/-- Commands in a row are given in this order. By induction on the list. -/
theorem leads_giveAll {r : Except RenderError Unit} (h : (Context.giveAll cs).Leads x r x') :
    r = .ok () ∧ x.Gave cs x' := by
  induction cs generalizing x with
  | nil =>
    obtain ⟨rfl, rfl⟩ := leads_pure h
    exact ⟨rfl, x'.gave_nil⟩
  | cons c cs ih =>
    obtain ⟨y, hg, hf⟩ := leads_give_bind h
    obtain ⟨hr, hg'⟩ := ih hf
    exact ⟨hr, hg.append hg'⟩

/-- A row of commands at the front of a `do` block. -/
theorem leads_giveAll_bind {f : Unit → ContextM α} (h : (Context.giveAll cs >>= f).Leads x r x') :
    ∃ y, x.Gave cs y ∧ (f ()).Leads y r x' := by
  obtain ⟨v, y, hg, hf⟩ :=
    leads_ok_bind (p := fun _ y => x.Gave cs y) (fun _ _ hg => ⟨(), leads_giveAll hg⟩) h
  exact ⟨y, hg, hf⟩

/-! ### Questions to a context -/

/-- A context that was asked for an object of a kind, and was given some commands. -/
structure Asked (x : Context) (k : ObjectKind) (cs : List Command) (x' : Context) : Prop where
  /-- The commands follow the earlier ones. -/
  commands : x'.commands.toList = x.commands.toList ++ cs
  /-- Answers come from the same host. -/
  host : x'.host = x.host
  /-- One object of the kind was asked for. -/
  requested : ∀ k', x'.requested k' = if k' = k then x.requested k + 1 else x.requested k'

/-- Commands behind a request belong to the same `Asked`, as long as none of them asks for another
object. -/
theorem Asked.gave {k : ObjectKind} {y : Context} {ds : List Command} (h : Asked x k cs y)
    (h' : y.Gave ds x') : Asked x k (cs ++ ds) x' where
  commands := by rw [h'.commands, h.commands, List.append_assoc]
  host := h'.host.trans h.host
  requested := by
    intro k'
    rw [h'.requested, h.requested]

/-- A request only adds: the commands behind the earlier ones, and one to the count of its kind. -/
theorem Asked.later {k : ObjectKind} (h : Asked x k cs x') : x.Later x' where
  commands := ⟨cs, h.commands.symm⟩
  host := h.host
  requested k' := by
    rw [h.requested]
    split
    · rename_i hk
      rw [hk]
      exact Nat.le_succ _
    · exact Nat.le_refl _

/-- Over a single request, that nothing was refused comes to what the host says to this one. -/
theorem Asked.granted_iff {k : ObjectKind} (h : Asked x k cs x') :
    x.Granted x' ↔ x.host.creationError k (x.requested k) = none := by
  constructor
  · intro hg
    refine hg k _ (Nat.le_refl _) ?_
    rw [h.requested, if_pos rfl]
    exact Nat.lt_succ_self _
  · intro hx k' n hle hlt
    rw [h.requested] at hlt
    split at hlt
    · rename_i hk
      subst hk
      obtain rfl : n = x.requested k' := by omega
      exact hx
    · omega

/-- An object is refused, or is the next one of its kind. -/
theorem leads_request {k : ObjectKind} {refused : String → RenderError}
    {r : Except RenderError (Handle k)} (h : (Context.request k refused).Leads x r x') :
    Asked x k [] x' ∧
      ((∃ reason, r = .error (refused reason)) ∧ ¬ x.Granted x' ∨
        r = .ok ⟨x.requested k + 1⟩ ∧ x.Granted x') := by
  have asked : Asked x k []
      { x with requested := fun k' => if k' = k then x.requested k + 1 else x.requested k' } :=
    ⟨by simp, rfl, fun _ => rfl⟩
  unfold Context.request at h
  replace h := leads_set_bind (leads_get_bind h)
  cases hx : x.host.creationError k (x.requested k) with
  | some e =>
    rw [hx] at h
    obtain ⟨rfl, rfl⟩ := leads_throw h
    refine ⟨asked, .inl ⟨⟨_, rfl⟩, ?_⟩⟩
    rw [asked.granted_iff, hx]
    exact fun he => nomatch he
  | none =>
    rw [hx] at h
    obtain ⟨rfl, rfl⟩ := leads_pure h
    exact ⟨asked, .inr ⟨rfl, asked.granted_iff.mpr hx⟩⟩

/-- What comes of making an object by a command that names it. -/
def Created (x : Context) {k : ObjectKind} (refused : String → RenderError)
    (command : Handle k → Command) (r : Except RenderError (Handle k)) (x' : Context) : Prop :=
  (∃ reason, r = .error (refused reason)) ∧ Asked x k [] x' ∧ ¬ x.Granted x' ∨
    ∃ o : Handle k, r = .ok o ∧ o.name = x.requested k + 1 ∧ Asked x k [command o] x' ∧ x.Granted x'

/-- The two ways a request can end, from the program text that all requests share. If the host
refuses, nothing was given; if it grants, the name is the next one of its kind and the command that
makes it was given. -/
theorem created_of_request {k : ObjectKind} {refused : String → RenderError}
    {command : Handle k → Command} {r : Except RenderError (Handle k)}
    (h : (Context.request k refused >>= fun o =>
      Context.give (command o) >>= fun _ => (pure o : ContextM _)).Leads x r x') :
    Created x refused command r x' := by
  rcases leads_bind h with ⟨e, rfl, hr⟩ | ⟨o, y, hr, hf⟩
  · obtain ⟨asked, ⟨⟨reason, he⟩, not_granted⟩ | ⟨he, -⟩⟩ := leads_request hr
    · exact .inl ⟨⟨reason, congrArg _ (Except.error.inj he)⟩, asked, not_granted⟩
    · cases he
  · obtain ⟨asked, ⟨⟨e, he⟩, -⟩ | ⟨ho, granted⟩⟩ := leads_request hr
    · cases he
    · obtain rfl := Except.ok.inj ho
      obtain ⟨z, hg, hp⟩ := leads_give_bind hf
      obtain ⟨rfl, rfl⟩ := leads_pure hp
      have made := asked.gave hg
      exact .inr ⟨_, rfl, rfl, made, made.granted_iff.mpr (asked.granted_iff.mp granted)⟩

/-- Asking for an object of any kind but a shader. -/
theorem leads_create {k : ObjectKind} {refused : String → RenderError}
    {r : Except RenderError (Handle k)} (h : (Context.create k refused).Leads x r x') :
    Created x refused (.create k) r x' :=
  created_of_request h

/-- Asking for a shader, whose command also names the stage. -/
theorem leads_createShader {stage : ShaderStage} {refused : String → RenderError}
    {r : Except RenderError (Handle .shader)}
    (h : (Context.createShader stage refused).Leads x r x') :
    Created x refused (.createShader stage) r x' :=
  created_of_request h

/-- An object is made and then used, unless the driver refuses it. -/
theorem leads_bind_of_created {k : ObjectKind} {refused : String → RenderError}
    {command : Handle k → Command} {m : ContextM (Handle k)} {f : Handle k → ContextM α}
    (h : (m >>= f).Leads x r x') (hm : ∀ r y, m.Leads x r y → Created x refused command r y) :
    (∃ reason, r = .error (refused reason) ∧ Asked x k [] x' ∧ ¬ x.Granted x') ∨
      ∃ o y, o.name = x.requested k + 1 ∧ Asked x k [command o] y ∧ x.Granted y ∧
      (f o).Leads y r x' := by
  rcases leads_bind h with ⟨e, rfl, he⟩ | ⟨o, y, ho, h⟩
  · rcases hm _ _ he with ⟨⟨reason, hr⟩, asked, not_granted⟩ | ⟨o, hr, -⟩
    · exact .inl ⟨reason, congrArg _ (Except.error.inj hr), asked, not_granted⟩
    · cases hr
  · rcases hm _ _ ho with ⟨⟨reason, hr⟩, -⟩ | ⟨o', hr, number, asked, granted⟩
    · cases hr
    · obtain rfl := Except.ok.inj hr
      exact .inr ⟨o, y, number, asked, granted, h⟩

/-- Inversion of a `do` block that begins with a request. The left case ends the run; in the right
case the object is fresh and everything was granted so far. -/
theorem leads_create_bind {k : ObjectKind} {refused : String → RenderError}
    {f : Handle k → ContextM α} (h : (Context.create k refused >>= f).Leads x r x') :
    (∃ reason, r = .error (refused reason) ∧ Asked x k [] x' ∧ ¬ x.Granted x') ∨
      ∃ o y, o.name = x.requested k + 1 ∧ Asked x k [.create k o] y ∧ x.Granted y ∧
      (f o).Leads y r x' :=
  leads_bind_of_created h fun _ _ => leads_create

/-- The same inversion for a shader of a stage. -/
theorem leads_createShader_bind {stage : ShaderStage} {refused : String → RenderError}
    {f : Handle .shader → ContextM α}
    (h : (Context.createShader stage refused >>= f).Leads x r x') :
    (∃ reason, r = .error (refused reason) ∧ Asked x .shader [] x' ∧ ¬ x.Granted x') ∨
      ∃ o y, o.name = x.requested .shader + 1 ∧ Asked x .shader [.createShader stage o] y ∧
        x.Granted y ∧ (f o).Leads y r x' :=
  leads_bind_of_created h fun _ _ => leads_createShader

/-- Compiling gives its command, and the log that comes back is the host's answer to the `n`-th
compilation. Which one that is does not matter to the proofs. -/
theorem leads_compileShader_bind {s : Handle .shader} {f : Option String → ContextM α}
    (h : (Context.compileShader s >>= f).Leads x r x') :
    ∃ n y, x.Gave [.compileShader s] y ∧ (f (x.host.compileLog n)).Leads y r x' := by
  refine ⟨x.compiled, _, ?_, h⟩
  exact ⟨Array.toList_push, rfl, rfl⟩

/-- Linking gives its command and continues with the host's log. -/
theorem leads_linkProgram_bind {p : Handle .program} {f : Option String → ContextM α}
    (h : (Context.linkProgram p >>= f).Leads x r x') :
    ∃ n y, x.Gave [.linkProgram p] y ∧ (f (x.host.linkLog n)).Leads y r x' := by
  refine ⟨x.linked, _, ?_, h⟩
  exact ⟨Array.toList_push, rfl, rfl⟩

/-- Asking for the status of a framebuffer is no command; it continues with what the host
reports. -/
theorem leads_checkFramebuffer_bind {f : Nat → ContextM α}
    (h : (Context.checkFramebuffer >>= f).Leads x r x') :
    ∃ n y, x.Gave [] y ∧ (f (x.host.framebufferStatus n)).Leads y r x' := by
  refine ⟨x.checked, _, ?_, h⟩
  exact ⟨by simp, rfl, rfl⟩

/-- A location is asked for with a command that carries its answer, so what a draw reads later can
be told from the commands alone. -/
theorem leads_locate {p : Handle .program} {name : String} {r : Except RenderError (Option Nat)}
    (h : (Context.locate p name).Leads x r x') :
    ∃ answer, r = .ok answer ∧ x.Gave [.uniformLocation p name answer] x' := by
  unfold Context.locate at h
  replace h := leads_get_bind h
  dsimp only at h
  generalize (if (x.host.missingUniforms x.sought).contains name = true then none else _) = answer
    at h
  replace h := leads_set_bind h
  obtain ⟨y, hg, hp⟩ := leads_give_bind h
  obtain ⟨rfl, rfl⟩ := leads_pure hp
  exact ⟨answer, rfl, hg.commands, hg.host, hg.requested⟩

/-- A question for a location at the front of a `do` block. -/
theorem leads_locate_bind {p : Handle .program} {name : String} {f : Option Nat → ContextM α}
    (h : (Context.locate p name >>= f).Leads x r x') :
    ∃ answer y, x.Gave [.uniformLocation p name answer] y ∧ (f answer).Leads y r x' :=
  leads_ok_bind (fun _ _ hl => leads_locate hl) h

end ContextM

/-! ## Adapters -/

namespace AdapterM

/-- What comes of a computation on an adapter with its context: an answer, and the session after
it. -/
def Leads (m : AdapterM α) (s : Session) (r : Except RenderError α) (s' : Session) : Prop :=
  s.run m = (r, s')

variable {s s' : Session} {r : Except RenderError α} {v : α} {cs : List Command}

/-- A value leaves adapter and context alone. -/
theorem leads_pure (h : (pure v : AdapterM α).Leads s r s') : r = .ok v ∧ s' = s := by
  obtain ⟨rfl, rfl⟩ := Prod.mk.inj h
  exact ⟨rfl, rfl⟩

/-- A refusal leaves adapter and context alone, so whatever was lost was lost before it. -/
theorem leads_throw {e : RenderError} (h : (throw e : AdapterM α).Leads s r s') :
    r = .error e ∧ s' = s := by
  obtain ⟨rfl, rfl⟩ := Prod.mk.inj h
  exact ⟨rfl, rfl⟩

/-- A look into the tables has its answer without the context. -/
theorem leads_ofExcept {known : Except RenderError α}
    (h : (ofExcept known : AdapterM α).Leads s r s') :
    r = known ∧ s' = s := by
  cases known with
  | ok v => exact leads_pure h
  | error e => exact leads_throw h

/-- Either the first part is refused, and that ends it, or it has a value and the rest runs from the
state it left. -/
theorem leads_bind {m : AdapterM α} {f : α → AdapterM β} {r : Except RenderError β}
    (h : (m >>= f).Leads s r s') :
    (∃ e, r = .error e ∧ m.Leads s (.error e) s') ∨
      ∃ v t, m.Leads s (.ok v) t ∧ (f v).Leads t r s' := by
  have key : s.run (m >>= f) = Session.run
      (ExceptT.mk (ExceptT.bindCont f (s.run m).1)) (s.run m).2 := rfl
  rw [Leads, key] at h
  cases hx : (s.run m).1 with
  | error e =>
    rw [hx] at h
    obtain ⟨rfl, rfl⟩ := Prod.mk.inj h
    exact .inl ⟨e, rfl, Prod.ext hx rfl⟩
  | ok v =>
    rw [hx] at h
    exact .inr ⟨v, _, Prod.ext hx rfl, h⟩

/-- What is read is the adapter of the session. -/
theorem leads_get_bind {f : Adapter → AdapterM α}
    (h : ((get : AdapterM Adapter) >>= f).Leads s r s') :
    (f s.adapter).Leads s r s' := h

/-- The adapter is replaced, and the context stays. -/
theorem leads_set_bind {a : Adapter} {f : PUnit → AdapterM α}
    (h : ((set a : AdapterM PUnit) >>= f).Leads s r s') : (f ⟨⟩).Leads ⟨a, s.context⟩ r s' := h

/-- A change of the adapter is never refused and gives nothing. -/
theorem leads_modify {g : Adapter → Adapter} {r : Except RenderError PUnit}
    (h : (modify g : AdapterM PUnit).Leads s r s') :
    r = .ok ⟨⟩ ∧ s' = ⟨g s.adapter, s.context⟩ := by
  obtain ⟨rfl, rfl⟩ := Prod.mk.inj h
  exact ⟨rfl, rfl⟩

/-- A change of the adapter at the front of a `do` block. -/
theorem leads_modify_bind {g : Adapter → Adapter} {f : PUnit → AdapterM α}
    (h : ((modify g : AdapterM PUnit) >>= f).Leads s r s') :
    (f ⟨⟩).Leads ⟨g s.adapter, s.context⟩ r s' := h

/-- The bridge between the two kinds of computation: what runs on the context leaves the adapter,
and its run is one in the sense of `ContextM.Leads`. -/
theorem leads_onContext {m : ContextM α} (h : (onContext m).Leads s r s') :
    s'.adapter = s.adapter ∧ m.Leads s.context r s'.context := by
  obtain ⟨rfl, rfl⟩ := Prod.mk.inj h
  exact ⟨rfl, rfl⟩

/-- Commands given by the adapter reach the context in their order. -/
theorem leads_giveAll {r : Except RenderError Unit} (h : (giveAll cs).Leads s r s') :
    r = .ok () ∧ s'.adapter = s.adapter ∧ s.context.Gave cs s'.context := by
  obtain ⟨ha, hm⟩ := leads_onContext h
  obtain ⟨hr, hg⟩ := ContextM.leads_giveAll hm
  exact ⟨hr, ha, hg⟩

theorem leads_say {severity : Severity} {text : String} {r : Except RenderError Unit}
    (h : (say severity text).Leads s r s') :
    r = .ok () ∧ s'.adapter = s.adapter ∧ s.context.Gave [] s'.context := by
  obtain ⟨ha, hm⟩ := leads_onContext h
  obtain ⟨hr, hg⟩ := ContextM.leads_say hm
  exact ⟨hr, ha, hg⟩

/-- A row of commands given by the adapter at the front of a `do` block. -/
theorem leads_giveAll_bind {f : Unit → AdapterM α} (h : (giveAll cs >>= f).Leads s r s') :
    ∃ t, t.adapter = s.adapter ∧ s.context.Gave cs t.context ∧ (f ()).Leads t r s' := by
  rcases leads_bind h with ⟨e, -, hg⟩ | ⟨v, t, hg, hf⟩
  · obtain ⟨he, -⟩ := leads_giveAll hg
    cases he
  · obtain ⟨-, ha, hg⟩ := leads_giveAll hg
    exact ⟨t, ha, hg, hf⟩

/-- A look into the tables at the front of a `do` block. If something is missing there, the call
ends with nothing given. -/
theorem leads_ofExcept_bind {known : Except RenderError α} {f : α → AdapterM β}
    {r : Except RenderError β} (h : ((ofExcept known : AdapterM α) >>= f).Leads s r s') :
    (∃ e, known = .error e ∧ r = .error e ∧ s' = s) ∨ ∃ v, known = .ok v ∧ (f v).Leads s r s' := by
  rcases leads_bind h with ⟨e, rfl, hx⟩ | ⟨v, t, hx, hf⟩
  · obtain ⟨hk, rfl⟩ := leads_ofExcept hx
    exact .inl ⟨e, hk.symm, rfl, rfl⟩
  · obtain ⟨hk, rfl⟩ := leads_ofExcept hx
    exact .inr ⟨v, hk.symm, hf⟩

end AdapterM

/-! ## Calls -/

namespace Session

theorem leads_issue (s : Session) (c : LitTiles.Command) :
    (Adapter.execute c).Leads s (s.perform (.issue c)).1 (s.perform (.issue c)).2 := rfl

theorem leads_createBuffer (s : Session) (capacity : Nat) : (Adapter.createBuffer capacity).Leads s
    (s.perform (.createBuffer capacity)).1 (s.perform (.createBuffer capacity)).2 := rfl

theorem leads_freeBuffer (s : Session) (id : BufferId) :
    ∃ r, (Adapter.freeBuffer id).Leads s r (s.perform (.freeBuffer id)).2 := ⟨_, rfl⟩

/-- A session after a number of calls. -/
def serve (s : Session) (calls : List Call) : Session := calls.foldl (fun s c => (s.perform c).2) s

@[simp] theorem serve_nil (s : Session) : s.serve [] = s := rfl

@[simp] theorem serve_append (s : Session) (calls more : List Call) :
    s.serve (calls ++ more) = (s.serve calls).serve more := List.foldl_append

@[simp] theorem serve_singleton (s : Session) (c : Call) : s.serve [c] = (s.perform c).2 := rfl

end Session

end LitTiles.Gl
