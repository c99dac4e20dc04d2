import LitTiles.Backend.Script

/-!
# Histories

A history lists calls with their answers, in the order in which they were made.

* `Script.Ends` relates a script, a history and a result: answered as the history tells, the script
  makes exactly the calls of the history and is done with the result.
* `Action.Leads` is the same for an action, which also takes a state to another one. Each construct
  of actions has an inversion lemma here (`leads_bind`, `leads_within`, `leads_issue` and so on),
  and the theory of the renderer is built from these alone.

A history may hold any answers that fit its calls. So what is shown for all histories holds on every
backend, one that refuses calls as it likes included: `Script.ends_heard` and `Action.leads_heard`
find the history of a run on a given backend.
-/

namespace LitTiles

/-- Of something that may fail it can be computed that it does not, and what is made then. -/
theorem exists_ok_of_any {ε α : Type} {x : Except ε α} {p : α → Bool}
    (hx : x.toOption.any p = true) : ∃ v, x = .ok v ∧ p v = true := by
  cases x with
  | error e => cases hx
  | ok v => exact ⟨v, rfl, hx⟩

/-- A call with its answer. -/
structure Exchange where
  /-- What was asked for. -/
  call : Call
  /-- What was answered. -/
  answer : call.Outcome

namespace Script

variable {α β σ : Type}

/-- Answered as a history tells, a script makes the calls of the history, no others, and is done
with a result. -/
def Ends : Script α → List Exchange → α → Prop
  | done b, h, a => h = [] ∧ b = a
  | call c k, h, a => ∃ o rest, h = ⟨c, o⟩ :: rest ∧ (k o).Ends rest a
  | note _ s, h, a => s.Ends h a

/-- A sequence of two scripts splits the history in two. -/
theorem ends_bind {m : Script α} {f : α → Script β} {h : List Exchange} {b : β} :
    (m >>= f).Ends h b ↔ ∃ h₁ h₂ a, h = h₁ ++ h₂ ∧ m.Ends h₁ a ∧ (f a).Ends h₂ b := by
  induction m generalizing h with
  | done a =>
    constructor
    · intro hf
      exact ⟨[], h, a, rfl, ⟨rfl, rfl⟩, hf⟩
    · rintro ⟨h₁, h₂, a', rfl, ⟨rfl, rfl⟩, hf⟩
      exact hf
  | call c k ih =>
    constructor
    · rintro ⟨o, rest, rfl, hk⟩
      obtain ⟨h₁, h₂, a, rfl, hm, hf⟩ := (ih o).mp hk
      exact ⟨⟨c, o⟩ :: h₁, h₂, a, rfl, ⟨o, h₁, rfl, hm⟩, hf⟩
    · rintro ⟨h₁, h₂, a, rfl, ⟨o, rest, rfl, hm⟩, hf⟩
      exact ⟨o, rest ++ h₂, rfl, (ih o).mpr ⟨rest, h₂, a, rfl, hm, hf⟩⟩
  | note n s ih => exact ih

/-- The history of a run on a backend. -/
def heard (b : Backend σ) : Script α → σ → List Exchange
  | done _, _ => []
  | call c k, s => ⟨c, (b.perform c s).1⟩ :: heard b (k (b.perform c s).1) (b.perform c s).2
  | note n k, s => heard b k (b.notice n s)

/-- A run on a backend ends as its history tells. -/
theorem ends_heard (b : Backend σ) (m : Script α) (s : σ) :
    m.Ends (m.heard b s) (m.run b s).1 := by
  induction m generalizing s with
  | done a => exact ⟨rfl, rfl⟩
  | call c k ih => exact ⟨_, _, rfl, ih _ _⟩
  | note n k ih => exact ih _

/-- The history of a sequence of two scripts. -/
theorem heard_bind (b : Backend σ) (m : Script α) (f : α → Script β) (s : σ) :
    (m >>= f).heard b s = m.heard b s ++ (f (m.run b s).1).heard b (m.run b s).2 := by
  induction m generalizing s with
  | done a => rfl
  | call c k ih => exact congrArg _ (ih _ _)
  | note n k ih => exact ih _

/-- A law of a backend that survives notices and calls of a kind survives a run with such calls
only. -/
theorem run_preserves {b : Backend σ} {ok : Call → Prop} {law : σ → Prop}
    (hc : ∀ c s, ok c → law s → law (b.perform c s).2) (hn : ∀ n s, law s → law (b.notice n s))
    {m : Script α} {s : σ} (hm : ∀ e ∈ m.heard b s, ok e.call) (hs : law s) :
    law (m.run b s).2 := by
  induction m generalizing s with
  | done a => exact hs
  | call c k ih =>
    have first := hc c s (hm _ List.mem_cons_self) hs
    exact ih _ (fun e he => hm e (List.mem_cons_of_mem _ he)) first
  | note n k ih => exact ih hm (hn n s hs)

end Script

namespace Action

variable {σ τ ρ α β : Type} {s t : σ} {h : List Exchange}

/-- Answered as a history tells, an action makes the calls of the history, no others, and takes one
state to another with an answer of its own. -/
def Leads (a : Action σ α) (s : σ) (h : List Exchange) (x : Except RenderError α) (t : σ) : Prop :=
  (a.run.run s).Ends h (x, t)

/-- The history of an action on a backend. -/
def heard (b : Backend ρ) (a : Action σ α) (s : σ) (r : ρ) : List Exchange :=
  (a.run.run s).heard b r

/-- An action on a backend is led by its history. -/
theorem leads_heard (b : Backend ρ) (a : Action σ α) (s : σ) (r : ρ) :
    a.Leads s (a.heard b s r) (a.play b s r).1 (a.play b s r).2.1 :=
  Script.ends_heard b (a.run.run s) r

/-- A run on a backend leads where it ends, by some history. -/
theorem exists_leads_of_play (b : Backend ρ) (a : Action σ α) (s : σ) (r : ρ)
    {x : Except RenderError α} (hx : (a.play b s r).1 = x) : ∃ h t, a.Leads s h x t :=
  ⟨a.heard b s r, (a.play b s r).2.1, hx ▸ leads_heard b a s r⟩

/-- A sequence of two actions on a backend: after an error the second one is not played. -/
theorem play_bind (b : Backend ρ) (a : Action σ α) (f : α → Action σ β) (s : σ) (r : ρ) :
    (a >>= f).play b s r =
      match a.play b s r with
      | (.ok v, s', r') => (f v).play b s' r'
      | (.error e, s', r') => (.error e, s', r') := by
  have key : ((a >>= f).run.run s).run b r = _ :=
    Script.run_bind b (a.run.run s) (fun p =>
      (ExceptT.bindCont f p.1 : StateT σ Script _).run p.2) r
  unfold play
  rw [key]
  obtain ⟨⟨x, s'⟩, r'⟩ := (a.run.run s).run b r
  cases x <;> rfl

theorem play_get_bind (b : Backend ρ) (f : σ → Action σ β) (s : σ) (r : ρ) :
    ((get : Action σ σ) >>= f).play b s r = (f s).play b s r := rfl

theorem ends_done {a b : α} : (Script.done a).Ends h b ↔ h = [] ∧ a = b := Iff.rfl

/-- Nothing is called for a value. -/
@[simp] theorem leads_pure {v : α} {x : Except RenderError α} :
    (pure v : Action σ α).Leads s h x t ↔ h = [] ∧ x = .ok v ∧ t = s := by
  refine ends_done.trans (and_congr_right fun _ => ?_)
  rw [Prod.mk.injEq, eq_comm, @eq_comm _ s]

/-- An answer that is known without a call. -/
@[simp] theorem leads_known {e x : Except RenderError α} :
    Leads (ExceptT.mk (pure e)) s h x t ↔ h = [] ∧ x = e ∧ t = s := by
  refine ends_done.trans (and_congr_right fun _ => ?_)
  rw [Prod.mk.injEq, eq_comm, @eq_comm _ s]

@[simp] theorem leads_get {x : Except RenderError σ} :
    (get : Action σ σ).Leads s h x t ↔ h = [] ∧ x = .ok s ∧ t = s := by
  refine ends_done.trans (and_congr_right fun _ => ?_)
  rw [Prod.mk.injEq, eq_comm, @eq_comm _ s t]

/-- The state is replaced, without a call. -/
@[simp] theorem leads_set {v : σ} {x : Except RenderError Unit} :
    (set v : Action σ Unit).Leads s h x t ↔ h = [] ∧ x = .ok () ∧ t = v := by
  refine ends_done.trans (and_congr_right fun _ => ?_)
  rw [Prod.mk.injEq, eq_comm, @eq_comm _ v]

/-- The state is changed, without a call. -/
@[simp] theorem leads_modify {f : σ → σ} {x : Except RenderError Unit} :
    (modify f : Action σ Unit).Leads s h x t ↔ h = [] ∧ x = .ok () ∧ t = f s := by
  refine ends_done.trans (and_congr_right fun _ => ?_)
  rw [Prod.mk.injEq, eq_comm, @eq_comm _ (f s)]

/-- Records of the log are no calls: a history does not show them. -/
@[simp] theorem leads_say {severity : Severity} {speaker : Speaker} {text : String}
    {x : Except RenderError Unit} :
    (say severity speaker text : Action σ Unit).Leads s h x t ↔ h = [] ∧ x = .ok () ∧ t = s := by
  refine ends_done.trans (and_congr_right fun _ => ?_)
  rw [Prod.mk.injEq, eq_comm, @eq_comm _ s]

/-- A command is one call, and its answer is the answer of the action. -/
@[simp] theorem leads_issue {c : Command} {x : Except RenderError Unit} :
    (issue c : Action σ Unit).Leads s h x t ↔ h = [⟨.issue c, x⟩] ∧ t = s := by
  constructor
  · rintro ⟨o, rest, rfl, rfl, he⟩
    obtain ⟨rfl, rfl⟩ := Prod.mk.inj he
    exact ⟨rfl, rfl⟩
  · rintro ⟨rfl, rfl⟩
    exact ⟨x, [], rfl, rfl, rfl⟩

/-- A request for a buffer is one call, and its answer is the answer. -/
@[simp] theorem leads_createBuffer {capacity : Nat} {x : Except RenderError BufferId} :
    (createBuffer capacity : Action σ BufferId).Leads s h x t ↔
      h = [⟨.createBuffer capacity, x⟩] ∧ t = s := by
  constructor
  · rintro ⟨o, rest, rfl, rfl, he⟩
    obtain ⟨rfl, rfl⟩ := Prod.mk.inj he
    exact ⟨rfl, rfl⟩
  · rintro ⟨rfl, rfl⟩
    exact ⟨x, [], rfl, rfl, rfl⟩

/-- Giving a buffer back never fails. -/
@[simp] theorem leads_freeBuffer {b : BufferId} {x : Except RenderError Unit} :
    (freeBuffer b : Action σ Unit).Leads s h x t ↔
      h = [⟨.freeBuffer b, ()⟩] ∧ x = .ok () ∧ t = s := by
  constructor
  · rintro ⟨o, rest, rfl, rfl, he⟩
    obtain ⟨rfl, rfl⟩ := Prod.mk.inj he
    exact ⟨rfl, rfl, rfl⟩
  · rintro ⟨rfl, rfl, rfl⟩
    exact ⟨(), [], rfl, rfl, rfl⟩

/-- A sequence of two actions: either the first one stops, or it goes on with the second one. -/
theorem leads_bind {a : Action σ α} {f : α → Action σ β} {x : Except RenderError β} :
    (a >>= f).Leads s h x t ↔
      (∃ e, x = .error e ∧ a.Leads s h (.error e) t) ∨
      ∃ v h₁ h₂ r, h = h₁ ++ h₂ ∧ a.Leads s h₁ (.ok v) r ∧ (f v).Leads r h₂ x t := by
  have key : (a >>= f).Leads s h x t ↔ ∃ h₁ h₂ p, h = h₁ ++ h₂ ∧ (a.run.run s).Ends h₁ p ∧
      ((ExceptT.bindCont f p.1 : StateT σ Script _).run p.2).Ends h₂ (x, t) := Script.ends_bind
  rw [key]
  constructor
  · rintro ⟨h₁, h₂, ⟨e | v, r⟩, rfl, ha, hf⟩
    · obtain ⟨rfl, he⟩ := hf
      obtain ⟨rfl, rfl⟩ := Prod.mk.inj he
      rw [List.append_nil]
      exact .inl ⟨e, rfl, ha⟩
    · exact .inr ⟨v, h₁, h₂, r, rfl, ha, hf⟩
  · rintro (⟨e, rfl, ha⟩ | ⟨v, h₁, h₂, r, rfl, ha, hf⟩)
    · exact ⟨h, [], (.error e, t), (List.append_nil h).symm, ha, rfl, rfl⟩
    · exact ⟨h₁, h₂, (.ok v, r), rfl, ha, hf⟩

/-! ### Sequences that start with one construct -/

section Start

variable {x : Except RenderError β}

/-- An action that cannot fail and makes no call is followed by the next one. -/
theorem leads_silent_bind {a : Action σ α} {v : α} {r : σ} {f : α → Action σ β}
    (ha : ∀ h x t, a.Leads s h x t ↔ h = [] ∧ x = .ok v ∧ t = r) :
    (a >>= f).Leads s h x t ↔ (f v).Leads r h x t := by
  rw [leads_bind]
  constructor
  · rintro (⟨e, -, hl⟩ | ⟨w, h₁, h₂, r', rfl, hl, hf⟩)
    · obtain ⟨-, he, -⟩ := (ha _ _ _).mp hl
      cases he
    · obtain ⟨rfl, hv, rfl⟩ := (ha _ _ _).mp hl
      obtain rfl := Except.ok.inj hv
      exact hf
  · intro hf
    exact .inr ⟨v, [], h, r, rfl, (ha _ _ _).mpr ⟨rfl, rfl, rfl⟩, hf⟩

@[simp] theorem leads_get_bind {f : σ → Action σ β} :
    ((get : Action σ σ) >>= f).Leads s h x t ↔ (f s).Leads s h x t :=
  leads_silent_bind fun _ _ _ => leads_get

@[simp] theorem leads_getThe_bind {f : σ → Action σ β} :
    ((getThe σ : Action σ σ) >>= f).Leads s h x t ↔ (f s).Leads s h x t := leads_get_bind

/-- What follows a change of the state begins with the changed state. -/
@[simp] theorem leads_modify_bind {g : σ → σ} {f : PUnit → Action σ β} :
    ((modify g : Action σ PUnit) >>= f).Leads s h x t ↔ (f ⟨⟩).Leads (g s) h x t :=
  leads_silent_bind fun _ _ _ => leads_modify

@[simp] theorem leads_say_bind {severity : Severity} {speaker : Speaker} {text : String}
    {f : Unit → Action σ β} :
    ((say severity speaker text : Action σ Unit) >>= f).Leads s h x t ↔ (f ()).Leads s h x t :=
  leads_silent_bind fun _ _ _ => leads_say

/-- A command at the front of a sequence. Refused, it is all of the history; granted, it is the
first of it. -/
@[simp] theorem leads_issue_bind {c : Command} {f : Unit → Action σ β} :
    ((issue c : Action σ Unit) >>= f).Leads s h x t ↔
      (∃ e, h = [⟨.issue c, .error e⟩] ∧ x = .error e ∧ t = s) ∨
      ∃ rest, h = ⟨.issue c, .ok ()⟩ :: rest ∧ (f ()).Leads s rest x t := by
  rw [leads_bind]
  constructor
  · rintro (⟨e, rfl, hl⟩ | ⟨_, h₁, h₂, r, rfl, hl, hf⟩)
    · obtain ⟨rfl, rfl⟩ := leads_issue.mp hl
      exact .inl ⟨e, rfl, rfl, rfl⟩
    · obtain ⟨rfl, rfl⟩ := leads_issue.mp hl
      exact .inr ⟨h₂, rfl, hf⟩
  · rintro (⟨e, rfl, rfl, rfl⟩ | ⟨rest, rfl, hf⟩)
    · exact .inl ⟨e, rfl, leads_issue.mpr ⟨rfl, rfl⟩⟩
    · exact .inr ⟨(), [_], rest, s, rfl, leads_issue.mpr ⟨rfl, rfl⟩, hf⟩

/-- A request for a buffer at the front, refused or granted with some number. -/
@[simp] theorem leads_createBuffer_bind {capacity : Nat} {f : BufferId → Action σ β} :
    ((createBuffer capacity : Action σ BufferId) >>= f).Leads s h x t ↔
      (∃ e, h = [⟨.createBuffer capacity, .error e⟩] ∧ x = .error e ∧ t = s) ∨
      ∃ b rest, h = ⟨.createBuffer capacity, .ok b⟩ :: rest ∧ (f b).Leads s rest x t := by
  rw [leads_bind]
  constructor
  · rintro (⟨e, rfl, hl⟩ | ⟨b, h₁, h₂, r, rfl, hl, hf⟩)
    · obtain ⟨rfl, rfl⟩ := leads_createBuffer.mp hl
      exact .inl ⟨e, rfl, rfl, rfl⟩
    · obtain ⟨rfl, rfl⟩ := leads_createBuffer.mp hl
      exact .inr ⟨b, h₂, rfl, hf⟩
  · rintro (⟨e, rfl, rfl, rfl⟩ | ⟨b, rest, rfl, hf⟩)
    · exact .inl ⟨e, rfl, leads_createBuffer.mpr ⟨rfl, rfl⟩⟩
    · exact .inr ⟨b, [_], rest, s, rfl, leads_createBuffer.mpr ⟨rfl, rfl⟩, hf⟩

/-- A buffer that is freed at the front. There is no case of an error here. -/
@[simp] theorem leads_freeBuffer_bind {b : BufferId} {f : Unit → Action σ β} :
    ((freeBuffer b : Action σ Unit) >>= f).Leads s h x t ↔
      ∃ rest, h = ⟨.freeBuffer b, ()⟩ :: rest ∧ (f ()).Leads s rest x t := by
  rw [leads_bind]
  constructor
  · rintro (⟨e, rfl, hl⟩ | ⟨_, h₁, h₂, r, rfl, hl, hf⟩)
    · obtain ⟨-, he, -⟩ := leads_freeBuffer.mp hl
      cases he
    · obtain ⟨rfl, -, rfl⟩ := leads_freeBuffer.mp hl
      exact ⟨h₂, rfl, hf⟩
  · rintro ⟨rest, rfl, hf⟩
    exact .inr ⟨(), [_], rest, s, rfl, leads_freeBuffer.mpr ⟨rfl, rfl, rfl⟩, hf⟩

end Start

/-- An action on a part of a state is an action on the part. -/
@[simp] theorem leads_within {part : σ → τ} {replace : τ → σ → σ} {a : Action τ α}
    {x : Except RenderError α} :
    (within part replace a).Leads s h x t ↔
      ∃ p, a.Leads (part s) h x p ∧ t = replace p s := by
  have key : (within part replace a).Leads s h x t ↔ ∃ h₁ h₂ p, h = h₁ ++ h₂ ∧
      (a.run.run (part s)).Ends h₁ p ∧ h₂ = [] ∧ (p.1, replace p.2 s) = (x, t) := Script.ends_bind
  rw [key]
  constructor
  · rintro ⟨h₁, h₂, ⟨y, p⟩, rfl, ha, rfl, he⟩
    obtain ⟨rfl, rfl⟩ := Prod.mk.inj he
    rw [List.append_nil]
    exact ⟨p, ha, rfl⟩
  · rintro ⟨p, ha, rfl⟩
    exact ⟨h, [], (x, p), (List.append_nil h).symm, ha, rfl, rfl⟩

@[simp] theorem leads_forM_nil {f : β → Action σ Unit} {x : Except RenderError Unit} :
    (([] : List β).forM f).Leads s h x t ↔ h = [] ∧ x = .ok () ∧ t = s := leads_pure

end Action

end LitTiles
