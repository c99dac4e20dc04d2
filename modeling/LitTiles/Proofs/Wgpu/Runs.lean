import LitTiles.Wgpu.Session

/-!
# Runs on a platform

`PlatformM.Leads` and `AdapterM.Leads` say what comes of a computation on a platform, or on an
adapter with its platform: an answer, and the state afterwards. Each building block has an inversion
lemma, so that what is known of a run is taken apart with `obtain`. Of the history only the commands
to devices are looked at (`Platform.commands`).

Most computations `Prepare` something: they always have an answer, and draw nothing.
-/

namespace LitTiles

open Wgpu

/-- The command to a device that a happening is, if it is one. -/
def Happening.command? : Happening → Option Wgpu.Command
  | .device c => some c
  | _ => none

namespace Platform

/-- The commands to devices so far. -/
def commands (p : Platform) : List Wgpu.Command := p.history.toList.filterMap Happening.command?

/-- One command added as a row is the command added. -/
theorem addAll_singleton (p : Platform) (c : Wgpu.Command) : p.addAll [c] = p.add (.device c) := by
  simp [addAll, add]

/-- From one state of a platform to the other some commands were given. -/
structure Gave (p : Platform) (cs : List Wgpu.Command) (p' : Platform) : Prop where
  /-- The commands follow the earlier ones. -/
  commands : p'.commands = p.commands ++ cs
  /-- Answers come from the same host. -/
  host : p'.host = p.host

variable {p p₁ p₂ : Platform} {cs ds : List Wgpu.Command}

/-- A platform was given nothing on the way to itself. -/
theorem gave_nil (p : Platform) : p.Gave [] p := ⟨(List.append_nil _).symm, rfl⟩

/-- To count a question gives no command. -/
theorem gave_count (p : Platform) (q : Question) : p.Gave [] (p.count q) :=
  ⟨(List.append_nil _).symm, rfl⟩

/-- What was given in two stretches is the concatenation, and the host is the same throughout. -/
theorem Gave.append (h : p.Gave cs p₁) (h' : p₁.Gave ds p₂) : p.Gave (cs ++ ds) p₂ where
  commands := by rw [h'.commands, h.commands, List.append_assoc]
  host := h'.host.trans h.host

/-- One happening adds the command it is, if it is one. Records and questions add none. -/
theorem gave_add (p : Platform) (e : Happening) : p.Gave e.command?.toList (p.add e) where
  commands := by
    rw [commands, add, Array.toList_push, List.filterMap_append]
    cases h : e.command? <;> simp [commands, h]
  host := rfl

/-- Commands added in a row are given in this order. -/
theorem gave_addAll (p : Platform) (cs : List Wgpu.Command) : p.Gave cs (p.addAll cs) where
  commands := by simp [commands, addAll, List.filterMap_map, Function.comp_def, Happening.command?]
  host := rfl

end Platform

/-! ## Platforms -/

namespace PlatformM

variable {α β : Type}

/-- What comes of a computation on a platform: an answer, and the platform after it. -/
def Leads (m : PlatformM α) (p : Platform) (r : Except RenderError α) (p' : Platform) : Prop :=
  m.run.run p = (r, p')

variable {m : PlatformM α} {f : α → PlatformM β} {p p' : Platform} {r : Except RenderError α}
  {r' : Except RenderError β} {v : α}

/-- A value is there without the platform. -/
theorem leads_pure (h : (pure v : PlatformM α).Leads p r p') : r = .ok v ∧ p' = p := by
  obtain ⟨rfl, rfl⟩ := Prod.mk.inj h
  exact ⟨rfl, rfl⟩

/-- A refusal leaves the platform as it was. -/
theorem leads_throw {e : RenderError} (h : (throw e : PlatformM α).Leads p r p') :
    r = .error e ∧ p' = p := by
  obtain ⟨rfl, rfl⟩ := Prod.mk.inj h
  exact ⟨rfl, rfl⟩

/-- An answer known beforehand needs nothing from the platform. -/
theorem leads_ofExcept {known : Except RenderError α}
    (h : (ofExcept known : PlatformM α).Leads p r p') :
    r = known ∧ p' = p := by
  cases known with
  | ok v => exact leads_pure h
  | error e => exact leads_throw h

/-- Either the first part is refused, which ends the run, or the rest runs from where it left the
platform. -/
theorem leads_bind (h : (m >>= f).Leads p r' p') :
    (∃ e, r' = .error e ∧ m.Leads p (.error e) p') ∨ ∃ v p₁, m.Leads p (.ok v) p₁ ∧
    (f v).Leads p₁ r' p' := by
  have key : (m >>= f).run.run p =
      (ExceptT.bindCont f (m.run.run p).1 : StateM Platform _).run (m.run.run p).2 := rfl
  rw [Leads, key] at h
  cases hx : (m.run.run p).1 with
  | error e =>
    rw [hx] at h
    obtain ⟨rfl, rfl⟩ := Prod.mk.inj h
    exact .inl ⟨e, rfl, Prod.ext hx rfl⟩
  | ok v =>
    rw [hx] at h
    exact .inr ⟨v, _, Prod.ext hx rfl, h⟩

/-- What is read is the platform that the computation begins with. -/
theorem leads_get_bind {f : Platform → PlatformM β}
    (h : ((get : PlatformM Platform) >>= f).Leads p r' p') :
    (f p).Leads p r' p' := h

/-- A question is answered by the host and counted. -/
theorem leads_ask_bind {q : Question} {answers : DeviceHost → Answers α}
    (h : (ask q answers >>= f).Leads p r' p') :
    (f (answers p.host (p.asked q))).Leads (p.count q) r' p' := h

/-! ### Computations that prepare something -/

end PlatformM

/-- The command neither draws nor starts a pass. -/
@[simp] def Wgpu.Command.IsAside : Wgpu.Command → Prop
  | beginPass _ _ _ _ | draw _ | drawIndexed _ _ _ => False
  | _ => True

/-- From one state of a platform to the other nothing was drawn. -/
def Platform.GaveAside (p p' : Platform) : Prop := ∃ cs, p.Gave cs p' ∧ ∀ c ∈ cs, c.IsAside

namespace Platform

variable {p p₁ p₂ : Platform} {cs : List Wgpu.Command}

/-- No command at all is a special case of commands beside the drawing. -/
theorem GaveAside.refl (p : Platform) : p.GaveAside p := ⟨[], p.gave_nil, fun _ hc => nomatch hc⟩

/-- Commands beside the drawing, twice over, are commands beside the drawing. -/
theorem GaveAside.trans (h : p.GaveAside p₁) (h' : p₁.GaveAside p₂) : p.GaveAside p₂ := by
  obtain ⟨cs, gave, hc⟩ := h
  obtain ⟨ds, gave', hd⟩ := h'
  exact ⟨cs ++ ds, gave.append gave', List.forall_mem_append.mpr ⟨hc, hd⟩⟩

/-- The host that answers is the one that answered before. -/
theorem GaveAside.host (h : p.GaveAside p₁) : p₁.host = p.host := h.choose_spec.1.host

/-- A known list of commands that are all beside the drawing. -/
theorem Gave.aside (h : p.Gave cs p₁) (hc : ∀ c ∈ cs, c.IsAside) : p.GaveAside p₁ := ⟨cs, h, hc⟩

end Platform

namespace PlatformM

variable {α β : Type} {m : PlatformM α} {f : α → PlatformM β} {p p' : Platform}
  {r : Except RenderError α} {r' : Except RenderError β} {v : α} {P : α → Prop} {Q : β → Prop}

/-- The computation has an answer of some kind, and draws nothing. -/
def Prepares (m : PlatformM α) (P : α → Prop) : Prop :=
  ∀ p r p', m.Leads p r p' → (∃ v, r = .ok v ∧ P v) ∧ p.GaveAside p'

/-- A value with the wanted property, and no command. -/
theorem prepares_pure (hv : P v) : (pure v : PlatformM α).Prepares P := by
  intro p r p' h
  obtain ⟨rfl, rfl⟩ := leads_pure h
  exact ⟨⟨v, rfl, hv⟩, .refl _⟩

/-- The rule of sequencing. The property `P` of the first value is handed on to the rest, which is
how the sizes of lists come through. -/
theorem Prepares.bind (hm : m.Prepares P) (hf : ∀ v, P v → (f v).Prepares Q) :
    (m >>= f).Prepares Q := by
  intro p r' p' h
  rcases leads_bind h with ⟨e, -, hm'⟩ | ⟨v, p₁, hm', h⟩
  · obtain ⟨⟨v, hv, -⟩, -⟩ := hm _ _ _ hm'
    cases hv
  · obtain ⟨⟨v', hv, known⟩, aside⟩ := hm _ _ _ hm'
    obtain rfl := Except.ok.inj hv
    obtain ⟨hr, aside'⟩ := hf v known _ _ _ h
    exact ⟨hr, aside.trans aside'⟩

/-- A question to the host has an answer, and a question is no command. -/
theorem prepares_ask (q : Question) (answers : DeviceHost → Answers α) :
    (ask q answers).Prepares fun _ => True := by
  intro p r p' h
  obtain ⟨rfl, rfl⟩ := Prod.mk.inj h
  exact ⟨⟨_, rfl, trivial⟩, (p.gave_count q).aside fun _ hm => nomatch hm⟩

/-- A command beside the drawing may be given. -/
theorem prepares_give {c : Wgpu.Command} (hc : c.IsAside) : (give c).Prepares fun _ => True := by
  intro p r p' h
  obtain ⟨rfl, rfl⟩ := Prod.mk.inj h
  exact ⟨⟨(), rfl, trivial⟩, (p.gave_add _).aside fun _ hm => List.mem_singleton.mp hm ▸ hc⟩

/-- Speaking is always allowed. -/
theorem prepares_say (severity : Severity) (speaker : Speaker) (text : String) :
    (say severity speaker text).Prepares fun _ => True := by
  intro p r p' h
  obtain ⟨rfl, rfl⟩ := Prod.mk.inj h
  exact ⟨⟨(), rfl, trivial⟩, (p.gave_add _).aside fun _ hm => nomatch hm⟩

/-- Making an object always succeeds on this platform: handing out a number cannot fail, and the
command is beside the drawing. -/
theorem prepares_make {k : ObjectKind} {command : Handle k → Wgpu.Command}
    (hc : ∀ h, (command h).IsAside) :
    (make command).Prepares fun _ => True := by
  intro p r p' h
  obtain ⟨rfl, rfl⟩ := Prod.mk.inj h
  refine ⟨⟨_, rfl, trivial⟩, ?_⟩
  obtain ⟨commands, host⟩ := (p.fresh k).2.gave_add (.device (command (p.fresh k).1))
  exact Platform.Gave.aside ⟨commands, host⟩ fun _ hm => List.mem_singleton.mp hm ▸ hc _

/-- As many values come back as there were entries. By induction on the list, with the lengths
carried by `Prepares.bind`. -/
theorem Prepares.mapM {f : α → PlatformM β} (hf : ∀ v, (f v).Prepares fun _ => True) (vs : List α) :
    (vs.mapM f).Prepares fun ws => ws.length = vs.length := by
  induction vs with
  | nil => exact prepares_pure rfl
  | cons v vs ih =>
    rw [List.mapM_cons]
    exact (hf v).bind fun w _ => ih.bind fun ws hws => prepares_pure (congrArg (· + 1) hws)

/-- The computation leaves the host as it is, and has answers of some kind only. -/
def Keeps (m : PlatformM α) (P : α → Prop) : Prop :=
  ∀ p r p', m.Leads p r p' → p'.host = p.host ∧ ∀ v, r = .ok v → P v

/-- What always has an answer has the property whenever it has one. -/
theorem Prepares.keeps (hm : m.Prepares P) : m.Keeps P := by
  intro p r p' h
  obtain ⟨⟨v, rfl, hv⟩, aside⟩ := hm _ _ _ h
  exact ⟨aside.host, fun w hw => Except.ok.inj hw ▸ hv⟩

/-- There is no value here for the property to hold of, and a refusal draws nothing. -/
theorem keeps_throw (e : RenderError) : (throw e : PlatformM α).Keeps P := by
  intro p r p' h
  obtain ⟨rfl, rfl⟩ := leads_throw h
  exact ⟨rfl, fun _ hv => nomatch hv⟩

/-- A look into the tables draws nothing, whether something is missing or not. -/
theorem keeps_ofExcept (known : Except RenderError α) :
    (ofExcept known : PlatformM α).Keeps fun _ => True := by
  intro p r p' h
  obtain ⟨rfl, rfl⟩ := leads_ofExcept h
  exact ⟨rfl, fun _ _ => trivial⟩

/-- Reading the platform is free, and the rest has to keep for whatever is read. -/
theorem keeps_get_bind {f : Platform → PlatformM β} (hf : ∀ p, (f p).Keeps Q) :
    ((get : PlatformM Platform) >>= f).Keeps Q := fun p _ _ h => hf p _ _ _ (leads_get_bind h)

/-- The rule of sequencing where parts may be refused: `P` is only known if the first part had a
value. -/
theorem Keeps.bind (hm : m.Keeps P) (hf : ∀ v, P v → (f v).Keeps Q) : (m >>= f).Keeps Q := by
  intro p r' p' h
  rcases leads_bind h with ⟨e, rfl, hm'⟩ | ⟨v, p₁, hm', h⟩
  · exact ⟨(hm _ _ _ hm').1, fun _ hv => nomatch hv⟩
  · obtain ⟨same, known⟩ := hm _ _ _ hm'
    obtain ⟨same', hr⟩ := hf v (known v rfl) _ _ _ h
    exact ⟨same'.trans same, hr⟩

end PlatformM

/-! ## Adapters -/

namespace Wgpu.AdapterM

variable {α β : Type}

/-- What comes of a computation on an adapter with its platform: an answer, and the session after
it. -/
def Leads (m : AdapterM α) (s : Session) (r : Except RenderError α) (s' : Session) : Prop :=
  s.run m = (r, s')

variable {m : AdapterM α} {f : α → AdapterM β} {s s' : Session} {r : Except RenderError α}
  {r' : Except RenderError β} {v : α} {cs : List Command}

/-- A value leaves the session as it was. -/
theorem leads_pure (h : (pure v : AdapterM α).Leads s r s') : r = .ok v ∧ s' = s := by
  obtain ⟨rfl, rfl⟩ := Prod.mk.inj h
  exact ⟨rfl, rfl⟩

/-- A refusal leaves the session as it was. -/
theorem leads_throw {e : RenderError} (h : (throw e : AdapterM α).Leads s r s') :
    r = .error e ∧ s' = s := by
  obtain ⟨rfl, rfl⟩ := Prod.mk.inj h
  exact ⟨rfl, rfl⟩

theorem leads_ofExcept {known : Except RenderError α}
    (h : (ofExcept known : AdapterM α).Leads s r s') :
    r = known ∧ s' = s := by
  cases known with
  | ok v => exact leads_pure h
  | error e => exact leads_throw h

/-- The two ways a sequence can go: refused in its first part, or continued from the session that
part left. -/
theorem leads_bind (h : (m >>= f).Leads s r' s') :
    (∃ e, r' = .error e ∧ m.Leads s (.error e) s') ∨ ∃ v t, m.Leads s (.ok v) t ∧
    (f v).Leads t r' s' := by
  have key : s.run (m >>= f) = Session.run (ExceptT.mk (ExceptT.bindCont f (s.run m).1))
      (s.run m).2 := rfl
  rw [Leads, key] at h
  cases hx : (s.run m).1 with
  | error e =>
    rw [hx] at h
    obtain ⟨rfl, rfl⟩ := Prod.mk.inj h
    exact .inl ⟨e, rfl, Prod.ext hx rfl⟩
  | ok v =>
    rw [hx] at h
    exact .inr ⟨v, _, Prod.ext hx rfl, h⟩

/-- What is read is the adapter of the session. -/
theorem leads_get_bind {f : Adapter → AdapterM β}
    (h : ((get : AdapterM Adapter) >>= f).Leads s r' s') :
    (f s.adapter).Leads s r' s' := h

/-- The adapter is replaced, while the platform keeps its history. -/
theorem leads_set {a : Adapter} {r : Except RenderError PUnit}
    (h : (set a : AdapterM PUnit).Leads s r s') :
    r = .ok ⟨⟩ ∧ s' = { s with adapter := a } := by
  obtain ⟨rfl, rfl⟩ := Prod.mk.inj h
  exact ⟨rfl, rfl⟩

theorem leads_set_bind {a : Adapter} {f : PUnit → AdapterM β}
    (h : ((set a : AdapterM PUnit) >>= f).Leads s r' s') :
    (f ⟨⟩).Leads { s with adapter := a } r' s' := h

/-- A change of fields at the front of a `do` block. -/
theorem leads_modify_bind {g : Adapter → Adapter} {f : PUnit → AdapterM β}
    (h : ((modify g : AdapterM PUnit) >>= f).Leads s r' s') :
    (f ⟨⟩).Leads { s with adapter := g s.adapter } r' s' := h

/-- What runs on the platform alone is a run in the sense of `PlatformM.Leads`, and the adapter is
the same afterwards. -/
theorem leads_onPlatform {m : PlatformM α} (h : (onPlatform m).Leads s r s') :
    s'.adapter = s.adapter ∧ m.Leads s.platform r s'.platform := by
  obtain ⟨rfl, rfl⟩ := Prod.mk.inj h
  exact ⟨rfl, rfl⟩

/-- A look into the tables at the front of a `do` block: refused with nothing done, or continued
with what was found. -/
theorem leads_ofExcept_bind {known : Except RenderError α}
    (h : ((ofExcept known : AdapterM α) >>= f).Leads s r' s') :
    (∃ e, known = .error e ∧ r' = .error e ∧ s' = s) ∨ ∃ v, known = .ok v ∧
    (f v).Leads s r' s' := by
  rcases leads_bind h with ⟨e, rfl, hx⟩ | ⟨v, t, hx, hf⟩
  · obtain ⟨hk, rfl⟩ := leads_ofExcept hx
    exact .inl ⟨e, hk.symm, rfl, rfl⟩
  · obtain ⟨hk, rfl⟩ := leads_ofExcept hx
    exact .inr ⟨v, hk.symm, hf⟩

/-- What prepares something is followed by the next computation. -/
theorem leads_prepares_bind {m : PlatformM α} {P : α → Prop} (hm : m.Prepares P)
    (h : (onPlatform m >>= f).Leads s r' s') :
    ∃ v t, P v ∧ t.adapter = s.adapter ∧ s.platform.GaveAside t.platform ∧ (f v).Leads t r' s' := by
  rcases leads_bind h with ⟨e, -, hp⟩ | ⟨v, t, hp, h⟩
  · obtain ⟨-, hp⟩ := leads_onPlatform hp
    obtain ⟨⟨v, hv, -⟩, -⟩ := hm _ _ _ hp
    cases hv
  · obtain ⟨ha, hp⟩ := leads_onPlatform hp
    obtain ⟨⟨v', hv, known⟩, aside⟩ := hm _ _ _ hp
    obtain rfl := Except.ok.inj hv
    exact ⟨v, t, known, ha, aside, h⟩

/-- The adapter gives commands in a row; none is refused when it is given. -/
theorem leads_giveAll {r : Except RenderError Unit} (h : (giveAll cs).Leads s r s') :
    r = .ok () ∧ s'.adapter = s.adapter ∧ s.platform.Gave cs s'.platform := by
  obtain ⟨rfl, rfl⟩ := Prod.mk.inj h
  exact ⟨rfl, rfl, s.platform.gave_addAll cs⟩

/-- A row of commands at the front of a `do` block. -/
theorem leads_giveAll_bind {f : Unit → AdapterM β} (h : (giveAll cs >>= f).Leads s r' s') :
    ∃ t, t.adapter = s.adapter ∧ s.platform.Gave cs t.platform ∧ (f ()).Leads t r' s' := by
  rcases leads_bind h with ⟨e, -, hg⟩ | ⟨⟨⟩, t, hg, h⟩
  · obtain ⟨he, -⟩ := leads_giveAll hg
    cases he
  · obtain ⟨-, ha, gave⟩ := leads_giveAll hg
    exact ⟨t, ha, gave, h⟩

/-- An object is made with one command that carries its handle. Whether the handle is a fresh
one does not matter here. -/
theorem leads_make {k : ObjectKind} {command : Handle k → Command}
    {r : Except RenderError (Handle k)} (h : (make command).Leads s r s') :
    ∃ o, r = .ok o ∧ s'.adapter = s.adapter ∧ s.platform.Gave [command o] s'.platform := by
  obtain ⟨rfl, rfl⟩ := Prod.mk.inj h
  obtain ⟨commands, host⟩ :=
    (s.platform.fresh k).2.gave_add (.device (command (s.platform.fresh k).1))
  exact ⟨_, rfl, rfl, commands, host⟩

/-- An object made at the front of a `do` block. -/
theorem leads_make_bind {k : ObjectKind} {command : Handle k → Command} {f : Handle k → AdapterM β}
    (h : (make command >>= f).Leads s r' s') :
    ∃ o t, t.adapter = s.adapter ∧ s.platform.Gave [command o] t.platform ∧
    (f o).Leads t r' s' := by
  rcases leads_bind h with ⟨e, -, hm⟩ | ⟨o, t, hm, h⟩
  · obtain ⟨o, ho, -⟩ := leads_make hm
    cases ho
  · obtain ⟨o', ho, ha, gave⟩ := leads_make hm
    obtain rfl := Except.ok.inj ho
    exact ⟨o, t, ha, gave, h⟩

/-- A record of the log is no command to the device. -/
theorem leads_say {severity : Severity} {text : String} {r : Except RenderError Unit}
    (h : (say severity text).Leads s r s') :
    r = .ok () ∧ s'.adapter = s.adapter ∧ s.platform.Gave [] s'.platform := by
  obtain ⟨rfl, rfl⟩ := Prod.mk.inj h
  exact ⟨rfl, rfl, s.platform.gave_add (.record _)⟩

/-- An attempt to acquire a texture is counted, and then it gets one or an error. -/
theorem leads_acquireOnce {r : Except RenderError Adapter.Acquired}
    (h : Adapter.acquireOnce.Leads s r s') :
    ∃ t : Session, t = { s with platform := s.platform.count .texture } ∧
      ((s.platform.host.acquireError (s.platform.asked .texture) = none ∧
        Adapter.takeTexture.Leads t r s') ∨
        ∃ e, s.platform.host.acquireError (s.platform.asked .texture) = some e ∧
          (Adapter.lackTexture e).Leads t r s') := by
  refine ⟨_, rfl, ?_⟩
  have counted :
      (Adapter.attempted (s.platform.host.acquireError (s.platform.asked .texture))).Leads
      { s with platform := s.platform.count .texture } r s' := h
  cases he : s.platform.host.acquireError (s.platform.asked .texture) with
  | none =>
    rw [he] at counted
    exact .inl ⟨rfl, counted⟩
  | some e =>
    rw [he] at counted
    exact .inr ⟨e, rfl, counted⟩

end Wgpu.AdapterM

/-! ## Sessions -/

namespace Wgpu.Session

/-- A session starts with what connecting its adapter made. -/
theorem leads_start {size : SurfaceSize} {o : DeviceOptions} {window : WindowId}
    {p : Platform} {s : Session} (h : start size o window p = .ok s) :
    (Adapter.connect size o).Leads p (.ok s.adapter) s.platform := by
  rw [start] at h
  split at h
  · rename_i a p' hc
    obtain rfl := Except.ok.inj h
    exact hc
  · cases h

theorem leads_issue (s : Session) (c : LitTiles.Command) :
    (Adapter.execute c).Leads s (s.perform (.issue c)).1 (s.perform (.issue c)).2 := rfl

theorem leads_createBuffer (s : Session) (capacity : Nat) : (Adapter.createBuffer capacity).Leads s
    (s.perform (.createBuffer capacity)).1 (s.perform (.createBuffer capacity)).2 := rfl

theorem leads_freeBuffer (s : Session) (id : BufferId) :
    ∃ r, (Adapter.freeBuffer id).Leads s r (s.perform (.freeBuffer id)).2 := ⟨_, rfl⟩

/-- A session after a number of calls. -/
def serve (s : Session) (calls : List Call) : Session := calls.foldl (fun s c => (s.perform c).2) s

@[simp] theorem serve_nil (s : Session) : s.serve [] = s := rfl

@[simp] theorem serve_append (s : Session) (calls more : List Call) :
    s.serve (calls ++ more) = (s.serve calls).serve more := List.foldl_append

@[simp] theorem serve_singleton (s : Session) (c : Call) : s.serve [c] = (s.perform c).2 := rfl

end Wgpu.Session

end LitTiles
