import LitTiles.Proofs.Backend.Ledger

/-!
# Contracts

A contract tells how an action behaves whatever is answered to it: what stays true of the state, of
which kind its calls are, and which errors are its own. All other errors are those of calls. An
action that meets a contract heeds these: it makes no call after one that failed, and answers with
the error of the failed call (`Halted`).

What is built from parts that meet a contract meets it as well (`Action.Meets.bind`, `.forM` and
`.within`), so that each function of the renderer needs one proof that follows its text.

The last section is about success. An action that answers without an error had no failed call, so
its history is known call by call; there each construct has an inversion lemma without the case of
an error (`Action.leads_bind_ok`, `leads_issue_bind_ok`).
-/

namespace LitTiles

namespace Exchange

/-- The error that was answered, if any. -/
def error? (e : Exchange) : Option RenderError := e.call.error? e.answer

/-- A command that was carried out. -/
def done (c : Command) : Exchange := ⟨.issue c, .ok ()⟩

/-- A buffer that was made. -/
def made (capacity : Nat) (b : BufferId) : Exchange := ⟨.createBuffer capacity, .ok b⟩

/-- A buffer that was given back. -/
def freed (b : BufferId) : Exchange := ⟨.freeBuffer b, ()⟩

@[simp] theorem error?_issue (c : Command) (x : Except RenderError Unit) :
    error? ⟨.issue c, x⟩ = match x with | .ok _ => none | .error e => some e := by
  cases x <;> rfl

@[simp] theorem error?_createBuffer (capacity : Nat) (x : Except RenderError BufferId) :
    error? ⟨.createBuffer capacity, x⟩ = match x with | .ok _ => none | .error e => some e := by
  cases x <;> rfl

end Exchange

variable {σ τ α β : Type} {h h₁ h₂ : List Exchange}

/-! ## Histories without and with a failed call -/

/-- No call failed. -/
def Granted (h : List Exchange) : Prop := ∀ e ∈ h, e.error? = none

theorem granted_nil : Granted [] := fun _ he => absurd he List.not_mem_nil

/-- Nothing failed in two stretches exactly if nothing failed in either. -/
theorem granted_append : Granted (h₁ ++ h₂) ↔ Granted h₁ ∧ Granted h₂ := List.forall_mem_append

/-- A single call was granted if it has no error. -/
theorem granted_singleton {e : Exchange} : Granted [e] ↔ e.error? = none :=
  List.forall_mem_singleton

/-- If a call failed it was the last one, and its error is the answer. -/
def Halted (h : List Exchange) (x : Except RenderError α) : Prop :=
  ∀ before e after err, h = before ++ e :: after → e.error? = some err →
    after = [] ∧ x = .error err

/-- Where no call failed there is no failure to be heeded, whatever the answer. -/
theorem Granted.halted {x : Except RenderError α} (hg : Granted h) : Halted h x := by
  rintro before e after err rfl he
  rw [hg e (List.mem_append_right before List.mem_cons_self)] at he
  cases he

/-- Where there is no error in the end, no call failed. -/
theorem Halted.granted {v : α} (hh : Halted h (.ok v)) : Granted h := by
  intro e he
  obtain ⟨before, after, rfl⟩ := List.append_of_mem he
  cases herr : e.error? with
  | none => rfl
  | some err =>
    obtain ⟨-, hx⟩ := hh before e after err rfl herr
    cases hx

/-- The last call may fail, if its error is the answer. -/
theorem halted_singleton {e : Exchange} {x : Except RenderError α}
    (he : ∀ err, e.error? = some err → x = .error err) : Halted [e] x := by
  intro before e' after err heq herr
  cases before with
  | nil =>
    obtain ⟨rfl, rfl⟩ := List.cons.inj heq
    exact ⟨rfl, he err herr⟩
  | cons e'' before =>
    obtain ⟨-, hnil⟩ := List.cons.inj heq
    cases before <;> cases hnil

/-- A history that halts may have granted calls before it. The converse order would be a call after
a failed one. -/
theorem Granted.halted_append {x : Except RenderError α} (hg : Granted h₁) (hh : Halted h₂ x) :
    Halted (h₁ ++ h₂) x := by
  intro before e after err heq herr
  rcases List.append_eq_append_iff.mp heq with ⟨mid, rfl, hmid⟩ | ⟨mid, rfl, hmid⟩
  · exact hh mid e after err hmid herr
  · cases mid with
    | nil => exact hh [] e after err hmid.symm herr
    | cons e' mid =>
      -- the call would be one of those that did not fail
      obtain ⟨rfl, -⟩ := List.cons.inj hmid
      rw [hg e (List.mem_append_right before List.mem_cons_self)] at herr
      cases herr

/-- On a backend that refuses nothing no call fails. -/
theorem Script.granted_heard {b : Backend σ}
    (hb : ∀ (c : Call) (s : σ), c.error? (b.perform c s).1 = none)
    (m : Script α) (s : σ) : Granted (m.heard b s) := by
  induction m generalizing s with
  | done a => exact granted_nil
  | call c k ih =>
    intro e he
    rcases List.mem_cons.mp he with rfl | he
    · exact hb c s
    · exact ih _ _ e he
  | note n k ih => exact ih _

/-- A backend that only numbers its buffers grants everything. -/
theorem granted_heard_numbering (a : Action σ α) (s : σ) (n : Nat) :
    Granted (a.heard numbering s n) := by
  refine Script.granted_heard (fun c n => ?_) _ n
  cases c <;> rfl

/-! ## Contracts -/

/-- What is promised of an action. -/
structure Contract (σ : Type) where
  /-- What stays true of the state. -/
  keeps : σ → Prop
  /-- The calls that may be made. -/
  calls : Call → Prop
  /-- The errors that may be answered though no call failed. -/
  errors : RenderError → Prop

/-- What a contract demands of the end of an action. -/
structure Contract.Honoured (c : Contract σ) (h : List Exchange) (x : Except RenderError α)
    (t : σ) : Prop where
  /-- What was true of the state is still true. -/
  keeps : c.keeps t
  /-- No other calls were made. -/
  calls : ∀ e ∈ h, c.calls e.call
  /-- A failed call was heeded. -/
  halted : Halted h x
  /-- If no call failed, an error is one of the action's own. -/
  errors : ∀ err, x = .error err → Granted h → c.errors err

/-- The action meets a contract, whatever is answered to it. -/
def Action.Meets (c : Contract σ) (a : Action σ α) : Prop :=
  ∀ s h x t, c.keeps s → a.Leads s h x t → c.Honoured h x t

namespace Action

variable {c : Contract σ} {a : Action σ α} {f : α → Action σ β}

/-- An action that makes no call and cannot fail. -/
theorem meets_of_silent {v : α} (step : σ → σ)
    (ha : ∀ s h x t, a.Leads s h x t ↔ h = [] ∧ x = .ok v ∧ t = step s)
    (hs : ∀ s, c.keeps s → c.keeps (step s)) : a.Meets c := by
  intro s h x t hk hl
  obtain ⟨rfl, rfl, rfl⟩ := (ha s h x t).mp hl
  exact ⟨hs s hk, fun _ he => absurd he List.not_mem_nil, granted_nil.halted,
    fun err he => by cases he⟩

theorem meets_pure (v : α) : (pure v : Action σ α).Meets c :=
  meets_of_silent (fun s => s) (fun _ _ _ _ => leads_pure) fun _ hk => hk

/-- A change of the state that keeps what has to be kept. It makes no call and has no error. -/
theorem meets_modify {step : σ → σ} (hs : ∀ s, c.keeps s → c.keeps (step s)) :
    (modify step : Action σ PUnit).Meets c :=
  meets_of_silent step (fun _ _ _ _ => leads_modify) hs

/-- The state may be replaced by one that is good in itself. -/
theorem meets_set {s' : σ} (hs : c.keeps s') : (set s' : Action σ PUnit).Meets c :=
  meets_of_silent (fun _ => s') (fun _ _ _ _ => leads_set) fun _ _ => hs

theorem meets_say (severity : Severity) (speaker : Speaker) (text : String) :
    (say severity speaker text : Action σ Unit).Meets c :=
  meets_of_silent (fun s => s) (fun _ _ _ _ => leads_say) fun _ hk => hk

/-- An answer that is known without a call. -/
theorem meets_known {x : Except RenderError α} (hx : ∀ err, x = .error err → c.errors err) :
    Meets c (ExceptT.mk (pure x) : Action σ α) := by
  intro s h y t hk hl
  obtain ⟨rfl, rfl, rfl⟩ := leads_known.mp hl
  exact ⟨hk, fun _ he => absurd he List.not_mem_nil, granted_nil.halted, fun err he _ => hx err he⟩

/-- A command of the kind. Its error is the backend's, and nothing comes after it. -/
theorem meets_issue {command : Command} (hc : c.calls (.issue command)) :
    (issue command : Action σ Unit).Meets c := by
  intro s h x t hk hl
  obtain ⟨rfl, rfl⟩ := leads_issue.mp hl
  refine ⟨hk, List.forall_mem_singleton.mpr hc, halted_singleton fun err he =>
    ?_, fun err he hg => ?_⟩
  · cases x <;> simp_all
  · subst he
    simp [granted_singleton] at hg

/-- A request for a buffer, under the same conditions. -/
theorem meets_createBuffer {capacity : Nat} (hc : c.calls (.createBuffer capacity)) :
    (createBuffer capacity : Action σ BufferId).Meets c := by
  intro s h x t hk hl
  obtain ⟨rfl, rfl⟩ := leads_createBuffer.mp hl
  refine ⟨hk, List.forall_mem_singleton.mpr hc, halted_singleton fun err he =>
    ?_, fun err he hg => ?_⟩
  · cases x <;> simp_all
  · subst he
    simp [granted_singleton] at hg

/-- Buffers are freed without an answer, so there is no error to heed. -/
theorem meets_freeBuffer {b : BufferId} (hc : c.calls (.freeBuffer b)) :
    (freeBuffer b : Action σ Unit).Meets c := by
  intro s h x t hk hl
  obtain ⟨rfl, rfl, rfl⟩ := leads_freeBuffer.mp hl
  exact ⟨hk, List.forall_mem_singleton.mpr hc, (granted_singleton.mpr rfl).halted,
    fun err he => by cases he⟩

/-- The rule of sequencing, by which every function of the renderer is taken apart. If the first
part answered with the error of a failed call, the second is not reached, so that the history ends
with it. -/
theorem Meets.bind (ha : a.Meets c) (hf : ∀ v, (f v).Meets c) : (a >>= f).Meets c := by
  intro s h x t hk hl
  rcases leads_bind.mp hl with ⟨e, rfl, hl₁⟩ | ⟨v, h₁, h₂, r, rfl, hl₁, hl₂⟩
  · obtain ⟨kept, calls, halted, errors⟩ := ha s h _ t hk hl₁
    refine ⟨kept, calls, fun before e' after err heq he => ?_, fun err he => ?_⟩
    · obtain ⟨hafter, hx⟩ := halted before e' after err heq he
      exact ⟨hafter, congrArg Except.error (Except.error.inj hx)⟩
    · exact errors err (congrArg Except.error (Except.error.inj he))
  · have first := ha s h₁ _ r hk hl₁
    have second := hf v r h₂ x t first.keeps hl₂
    have granted := first.halted.granted
    refine ⟨second.keeps, List.forall_mem_append.mpr ⟨first.calls, second.calls⟩,
      granted.halted_append second.halted, fun err he hg => ?_⟩
    exact second.errors err he (granted_append.mp hg).2

/-- What was read is a state of which the contract is true. -/
theorem meets_get_bind {f : σ → Action σ α} (hf : ∀ s, c.keeps s → (f s).Meets c) :
    ((get : Action σ σ) >>= f).Meets c := by
  intro s h x t hk hl
  exact hf s hk s h x t hk (leads_get_bind.mp hl)

/-- A loop over a list. By induction on the list, with `Meets.bind` in each round. -/
theorem Meets.forM {f : β → Action σ Unit} {bs : List β} (hf : ∀ b ∈ bs, (f b).Meets c) :
    (bs.forM f).Meets c := by
  induction bs with
  | nil => exact meets_pure ()
  | cons b bs ih =>
    refine (hf b List.mem_cons_self).bind fun _ => ih fun b' hb => ?_
    exact hf b' (List.mem_cons_of_mem b hb)

/-- A contract of a part is one of the whole, if what is true of the whole only asks of the part
what stays true of it. -/
theorem Meets.within {part : σ → τ} {replace : τ → σ → σ} {d : Contract τ} {a : Action τ α}
    (ha : a.Meets d) (hp : ∀ s, c.keeps s → d.keeps (part s))
    (hr : ∀ s p, c.keeps s → d.keeps p → c.keeps (replace p s))
    (hc : ∀ call, d.calls call → c.calls call) (he : ∀ err, d.errors err → c.errors err) :
    (Action.within part replace a).Meets c := by
  intro s h x t hk hl
  obtain ⟨p, hp', rfl⟩ := leads_within.mp hl
  obtain ⟨kept, calls, halted, errors⟩ := ha _ h x p (hp s hk) hp'
  exact ⟨hr s p hk kept, fun e hm => hc _ (calls e hm), halted,
    fun err hx hg => he err (errors err hx hg)⟩

/-! ## Success -/

section Success

variable {s t : σ} {v : α} {w : β} {command : Command}

/-- A sequence that succeeds was made of two parts that did. -/
theorem leads_bind_ok : (a >>= f).Leads s h (.ok w) t ↔
    ∃ v h₁ h₂ r, h = h₁ ++ h₂ ∧ a.Leads s h₁ (.ok v) r ∧ (f v).Leads r h₂ (.ok w) t := by
  rw [leads_bind]
  refine or_iff_right ?_
  rintro ⟨e, he, -⟩
  cases he

theorem leads_issue_ok : (issue command : Action σ Unit).Leads s h (.ok ()) t ↔
    h = [.done command] ∧ t = s := leads_issue

/-- A command at the front of an action that succeeds was granted, and it is the first of the
history. -/
theorem leads_issue_bind_ok {f : Unit → Action σ α} :
    ((issue command : Action σ Unit) >>= f).Leads s h (.ok v) t ↔
      ∃ rest, h = .done command :: rest ∧ (f ()).Leads s rest (.ok v) t := by
  rw [leads_issue_bind]
  refine or_iff_right ?_
  rintro ⟨e, -, he, -⟩
  cases he

/-- A loop that succeeds did so in its first round and in the others. -/
theorem leads_forM_cons_ok {f : β → Action σ Unit} {b : β} {bs : List β} :
    ((b :: bs).forM f).Leads s h (.ok ()) t ↔
      ∃ h₁ h₂ r, h = h₁ ++ h₂ ∧ (f b).Leads s h₁ (.ok ()) r ∧
      (bs.forM f).Leads r h₂ (.ok ()) t := by
  have unfolded : (b :: bs).forM f = (f b >>= fun _ => bs.forM f) := rfl
  rw [unfolded, leads_bind_ok]
  exact ⟨fun ⟨_, rest⟩ => rest, fun rest => ⟨(), rest⟩⟩

/-- A loop of parts each of which comes down to commands that are known beforehand. -/
theorem leads_forM_commands_ok {f : β → Action σ Unit} {commands : β → List Command} {bs : List β}
    (hf : ∀ b h t, (f b).Leads s h (.ok ()) t ↔ h = (commands b).map .done ∧ t = s) :
    (bs.forM f).Leads s h (.ok ()) t ↔ h = (bs.flatMap commands).map .done ∧ t = s := by
  induction bs generalizing h with
  | nil => exact leads_forM_nil.trans (and_congr_right fun _ => and_iff_right rfl)
  | cons b bs ih =>
    rw [leads_forM_cons_ok, List.flatMap_cons, List.map_append]
    constructor
    · rintro ⟨h₁, h₂, r, rfl, hb, hrest⟩
      obtain ⟨rfl, rfl⟩ := (hf b h₁ r).mp hb
      obtain ⟨rfl, rfl⟩ := ih.mp hrest
      exact ⟨rfl, rfl⟩
    · rintro ⟨rfl, rfl⟩
      exact ⟨_, _, t, rfl, (hf b _ t).mpr ⟨rfl, rfl⟩, ih.mpr ⟨rfl, rfl⟩⟩

end Success

end Action

end LitTiles
