import LitTiles.Proofs.Gl.Flawless
import LitTiles.Proofs.Gl.Plain

/-!
# What framebuffers draw to

A texture is attached to the framebuffer that is bound. It stays there until another one takes its
place or the framebuffer is deleted, and it is detached if it is deleted while the framebuffer is
bound (`Attachments.apply`). An adapter attaches the texture of a target when it makes the target,
and whatever it does later leaves that alone, so that at any time each target is drawn to its own
texture (`Session.attached_serve`).
-/

namespace LitTiles.Gl

open Context ContextM AdapterM

/-- The textures that are attached to framebuffers. -/
structure Attachments where
  /-- The framebuffer that is bound; none is the surface. -/
  bound : Option (Handle .framebuffer) := none
  /-- The texture that each framebuffer draws to. -/
  textures : Handle .framebuffer → Option (Handle .texture) := fun _ => none

namespace Attachments

/-- The attachments after a command. -/
def apply (k : Attachments) : Command → Attachments
  | .bindFramebuffer f => { k with bound := f }
  | .framebufferTexture t =>
    match k.bound with
    | some f => { k with textures := Function.update k.textures f (some t) }
    | none => k
  | .delete .framebuffer f =>
    { bound := if k.bound = some f then none else k.bound
      textures := Function.update k.textures f none }
  | .delete .texture t =>
    { k with
      textures := fun f => if k.bound = some f ∧ k.textures f = some t then none else k.textures f }
  | _ => k

/-- The attachments after some commands. -/
def after (k : Attachments) (cs : List Command) : Attachments := cs.foldl apply k

/-- Attachments after two blocks of commands. -/
theorem after_append (k : Attachments) (cs ds : List Command) :
    k.after (cs ++ ds) = (k.after cs).after ds :=
  List.foldl_append

/-- A target is drawn to its own texture. -/
def Joins (k : Attachments) (t : RenderTarget) : Prop := k.textures t.framebuffer = some t.texture

end Attachments

/-- The attachments on a context. -/
def Context.attachments (x : Context) : Attachments := Attachments.after {} x.commands.toList

variable {k : Attachments} {t : RenderTarget} {c : Command} {cs ds : List Command} {x y : Context}

/-- The attachments on a context that was given more commands are found from these alone. -/
theorem Context.attachments_append (h : y.commands.toList = x.commands.toList ++ cs) :
    y.attachments = x.attachments.after cs := by
  rw [attachments, h, Attachments.after_append]
  rfl

/-! ## What leaves a target alone -/

/-- The command neither attaches a texture nor deletes anything of a target. -/
@[simp] def Command.SparesTarget (t : RenderTarget) : Command → Prop
  | framebufferTexture _ => False
  | delete .framebuffer f => f ≠ t.framebuffer
  | delete .texture u => u ≠ t.texture
  | _ => True

/-- Commands that draw neither attach nor delete. -/
theorem Command.Plain.sparesTarget (hc : c.Plain) (t : RenderTarget) : c.SparesTarget t := by
  cases c with
  | framebufferTexture => exact hc.elim
  | delete k o => exact hc.elim
  | _ => trivial

/-- Neither do commands about programs. -/
theorem Command.Links.sparesTarget (hc : c.Links) (t : RenderTarget) : c.SparesTarget t := by
  cases c with
  | framebufferTexture => exact hc.elim
  | delete k o => cases k <;> trivial
  | _ => trivial

/-- A command that spares a target leaves its texture attached. A texture is attached to the
framebuffer that is bound, so commands that bind matter only for those that attach. -/
theorem Attachments.Joins.apply (h : k.Joins t) (hc : c.SparesTarget t) : (k.apply c).Joins t := by
  cases c with
  | framebufferTexture => exact hc.elim
  | delete kind o =>
    cases kind with
    | framebuffer => exact (Function.update_of_ne (Ne.symm hc) _ _).trans h
    | texture =>
      have kept : ¬ (k.bound = some t.framebuffer ∧ k.textures t.framebuffer = some o) :=
        fun same => hc (Option.some.inj (same.2.symm.trans h))
      exact (if_neg kept).trans h
    | _ => exact h
  | _ => exact h

/-- The commands keep a target on its texture. -/
def Keeps (t : RenderTarget) (cs : List Command) : Prop :=
  ∀ k : Attachments, k.Joins t → (k.after cs).Joins t

/-- Two lists that keep a target joined, in a row. What the first leaves bound is no condition on
the second. -/
theorem Keeps.append (h : Keeps t cs) (h' : Keeps t ds) : Keeps t (cs ++ ds) := by
  intro k joins
  rw [Attachments.after_append]
  exact h' _ (h _ joins)

/-- A list of commands each of which spares the target. -/
theorem keeps_of_spares (h : ∀ c ∈ cs, c.SparesTarget t) : Keeps t cs := by
  induction cs with
  | nil => exact fun _ joins => joins
  | cons c cs ih =>
    obtain ⟨hc, hcs⟩ := List.forall_mem_cons.mp h
    exact fun k joins => ih hcs _ (joins.apply hc)

/-- A call that makes no objects attaches nothing. -/
theorem Adapter.keeps_commands {a : Adapter} {c : LitTiles.Command}
    (hc : a.commands c = .ok cs) : Keeps t cs :=
  commands_induction Keeps.append (fun plain => keeps_of_spares fun c hc =>
    (plain c hc).sparesTarget t)
    (fun _ => keeps_of_spares (by simp [fillStream])) hc

/-- A texture is made without any framebuffer. -/
theorem spares_createTexture (c : Capabilities) (width height : UInt32)
    (pixels : Option (List UInt8)) (filter : Filter) :
    (createTexture c width height pixels filter).Writes fun c => ∀ t, c.SparesTarget t :=
  writes_bind (writes_create fun _ _ => trivial) fun _ =>
    writes_bind (writes_giveAll (by simp)) fun _ => writes_pure

/-! ## Making targets -/

/-- The objects of a target have numbers that were given out. -/
def RenderTarget.Numbered (t : RenderTarget) (x : Context) : Prop :=
  t.framebuffer.name ≤ x.requested .framebuffer ∧ t.texture.name ≤ x.requested .texture

/-- What is alive on a context has one of the numbers that were given out. -/
theorem RenderTarget.numbered_of_alive (hx : x.Sound)
    (h : ∀ o ∈ t.objects, o ∈ x.alive) : t.Numbered x :=
  ⟨hx.number_le (h t.framebuffer.object List.mem_cons_self),
    hx.number_le (h t.texture.object (List.mem_cons_of_mem _ List.mem_cons_self))⟩

/-- Some commands attach the textures of new targets, and leave older ones alone. -/
structure Attaches (x : Context) (cs : List Command) (new : List RenderTarget) : Prop where
  /-- Older targets stay on their textures. -/
  older : ∀ t : RenderTarget, t.Numbered x → Keeps t cs
  /-- New ones are drawn to theirs. -/
  newer : ∀ t ∈ new, ∀ k : Attachments, (k.after cs).Joins t

/-- Making a target attaches its new texture to its new framebuffer. If the framebuffer is refused
or not complete, no target comes of it. -/
theorem RenderTarget.attaches_make {c : Capabilities} {index : Nat} {size : SurfaceSize}
    {r : Except RenderError RenderTarget} (hx : x.Sound) (h : (make c index size).Leads x r y) :
    ∃ cs, y.commands.toList = x.commands.toList ++ cs ∧ Attaches x cs r.toOption.toList := by
  unfold make at h
  rcases leads_bind h with ⟨e, rfl, ht⟩ | ⟨texture, x₁, ht, h⟩
  · obtain ⟨cs, hcs, spares⟩ := spares_createTexture _ _ _ _ _ _ _ _ ht
    exact ⟨cs, hcs, fun t _ => keeps_of_spares fun c hc => spares c hc t, List.forall_mem_nil _⟩
  rcases makes_createTexture c _ _ _ _ x _ x₁ hx ht with ⟨texture', ht', gains, -⟩ | ⟨e, -, he, -⟩
  swap
  · cases he
  obtain rfl := Except.ok.inj ht'
  have new_texture : x.requested .texture < texture.name :=
    gains.fresh texture.object List.mem_cons_self
  have later := gains.later.requested .framebuffer
  obtain ⟨cs, hcs, spares⟩ := spares_createTexture _ _ _ _ _ _ _ _ ht
  have first : ∀ t, Keeps t cs := fun t => keeps_of_spares fun c hc => spares c hc t
  rcases leads_create_bind h with ⟨reason, rfl, asked, -⟩ | ⟨f, x₂, number, asked, -, h⟩
  · refine ⟨cs, ?_, fun t _ => first t, List.forall_mem_nil _⟩
    rw [asked.commands, hcs, List.append_nil]
  obtain ⟨x₃, gave₃, h⟩ := leads_giveAll_bind h
  obtain ⟨n, x₄, gave₄, h⟩ := leads_checkFramebuffer_bind h
  obtain ⟨x₅, gave₅, h⟩ := leads_give_bind h
  have commands := (((asked.gave gave₃).gave gave₄).gave gave₅).commands
  rw [hcs, List.append_assoc] at commands
  -- the texture is attached to a framebuffer that was not there before
  have second : ∀ t : RenderTarget, t.Numbered x → Keeps t ([.create .framebuffer f] ++
      [.bindFramebuffer (some f), .framebufferTexture texture] ++ [] ++
      [.bindFramebuffer none]) := by
    intro t old k joins
    have other : t.framebuffer ≠ f := by
      rintro rfl
      have := old.1
      omega
    exact (Function.update_of_ne other _ _).trans joins
  dsimp only at h
  split at h
  · obtain ⟨rfl, rfl⟩ := leads_pure h
    refine ⟨_, commands, fun t old => (first t).append (second t old),
      List.forall_mem_singleton.mpr fun k => ?_⟩
    rw [Attachments.after_append]
    exact Function.update_self ..
  · obtain ⟨x₆, gave₆, h⟩ := leads_giveAll_bind h
    obtain ⟨rfl, rfl⟩ := leads_throw h
    refine ⟨_,
      by rw [gave₆.commands, commands, List.append_assoc], fun t old => ?_, List.forall_mem_nil _⟩
    refine ((first t).append (second t old)).append (keeps_of_spares ?_)
    have framebuffer : f ≠ t.framebuffer := by
      rintro rfl
      have := old.1
      omega
    have other : texture ≠ t.texture := by
      rintro rfl
      have := old.2
      omega
    simp [delete, framebuffer, other]

/-- Making several targets attaches each to its own, and a later one does not touch an earlier one:
by induction on the sizes, with the new numbers. -/
theorem Built.attaches {c : Capabilities} {sizes : List (SurfaceSize × Nat)}
    {ts : List RenderTarget} {r : Except RenderError Unit}
    (built : Adapter.Built c sizes x ts r y) (hx : x.Sound) :
    ∃ cs, y.commands.toList = x.commands.toList ++ cs ∧ Attaches x cs ts := by
  induction built with
  | done x => exact ⟨[], (List.append_nil _).symm, fun t _ _ joins => joins, List.forall_mem_nil _⟩
  | failed hm => exact RenderTarget.attaches_make hx hm
  | @next size i rest x y z t ts r hm hrest ih =>
    rcases makes_renderTarget _ _ _ _ _ _ hx hm with ⟨t', ht, gains, -⟩ | ⟨e, left, he, -⟩
    swap
    · cases he
    obtain rfl := Except.ok.inj ht
    obtain ⟨cs, hcs, one⟩ := RenderTarget.attaches_make hx hm
    obtain ⟨ds, hds, others⟩ := ih gains.sound
    -- the first target is numbered, and the later ones only touch framebuffers with newer numbers
    have there : t.Numbered y := RenderTarget.numbered_of_alive gains.sound fun o ho =>
      gains.alive.mem_iff.mpr (List.mem_append_left _ ho)
    refine ⟨cs ++ ds,
      by rw [hds, hcs, List.append_assoc], fun t ht => ?_, List.forall_mem_cons.mpr ⟨?_, ?_⟩⟩
    · refine (one.older t ht).append (others.older t ⟨?_, ?_⟩)
      · exact Nat.le_trans ht.1 (gains.later.requested _)
      · exact Nat.le_trans ht.2 (gains.later.requested _)
    · intro k
      rw [Attachments.after_append]
      exact others.older t there _ (one.newer t (Option.mem_toList.mpr rfl) k)
    · intro t ht k
      rw [Attachments.after_append]
      exact others.newer t ht _

/-! ## Sessions -/

namespace Session

variable {s s' : Session} {lost : List Object}

/-- Each target is drawn to its own texture. -/
def Attached (s : Session) : Prop := ∀ t ∈ s.adapter.targets, s.context.attachments.Joins t

/-- Whatever leaves the table of targets and writes only commands that spare them keeps all of them
attached. -/
theorem Attached.keep (h : s.Attached) (targets : s'.adapter.targets = s.adapter.targets)
    (wrote : ∀ t ∈ s.adapter.targets, s.context.Wrote (·.SparesTarget t) s'.context) :
    s'.Attached := by
  intro t ht
  rw [targets] at ht
  obtain ⟨cs, hcs, spares⟩ := wrote t ht
  rw [Context.attachments_append hcs]
  exact keeps_of_spares spares _ (h t ht)

/-- Textures of targets are not those that were loaded. -/
theorem Holds.ne_atlas (held : s.Holds lost) {name : String} {u : Handle .texture}
    (hu : s.adapter.atlases.lookup name = some u) (ht : t ∈ s.adapter.targets) : u ≠ t.texture := by
  rintro rfl
  have nodup := held.nodup_objects
  simp only [Adapter.objects, List.append_assoc] at nodup
  obtain ⟨-, -, apart⟩ := List.nodup_append.mp nodup
  refine apart t.texture.object
    (List.mem_flatMap.mpr ⟨t, ht, by simp [RenderTarget.objects]⟩) _ ?_ rfl
  simp only [List.mem_append, List.mem_map]
  exact .inr (.inl ⟨_, mem_of_lookup hu, rfl⟩)

/-- Loading a texture deletes the one of the same name, which is no target's texture, as all objects
are held once (`Holds.ne_atlas`). -/
theorem Attached.loadTexture {texture : Texture} {r : Except RenderError Unit} (h : s.Attached)
    (held : s.Holds lost) (hl : (Adapter.loadTexture texture).Leads s r s') : s'.Attached := by
  rcases Adapter.leads_loadTexture hl with ⟨e, -, -, rfl⟩ | ⟨-, made, y, hm, outcome⟩
  · exact h
  have first : ∀ t, s.context.Wrote (·.SparesTarget t) y := fun t =>
    (spares_createTexture _ _ _ _ _ _ _ _ hm).mono fun _ hc => hc t
  rcases outcome with ⟨e, -, -, rfl⟩ | ⟨u, -, -, ha, gave⟩
  · exact h.keep rfl fun t _ => first t
  · refine h.keep (by rw [ha]) fun t ht => (first t).trans (gave.wrote fun c hc => ?_)
    obtain ⟨old, ho, rfl⟩ := Option.map_eq_some_iff.mp (Option.mem_toList.mp hc)
    exact held.ne_atlas ho ht

/-- Compiling an effect is about programs only. -/
theorem Attached.compileProgram {name : String} {p : EffectProgram}
    {r : Except RenderError Unit} (h : s.Attached)
    (hl : (Adapter.compileProgram name p).Leads s r s') : s'.Attached := by
  obtain ⟨linked, y, hlink, outcome⟩ := Adapter.leads_compileProgram hl
  have first := links_linkSource _ _ _ _ _ _ hlink
  have spares : ∀ {z : Context}, s.context.Wrote Command.Links z → ∀ t : RenderTarget,
      s.context.Wrote (·.SparesTarget t) z :=
    fun wrote t => wrote.mono fun _ hc => hc.sparesTarget t
  rcases outcome with ⟨e, -, -, rfl⟩ | ⟨program, made, z, -, hm, outcome⟩
  · exact h.keep rfl fun t _ => spares first t
  have asked := first.trans (LinkedEffect.links_make _ _ _ _ _ _ hm)
  obtain ⟨effect, -, rfl, -⟩ := LinkedEffect.leads_make hm
  rcases outcome with ⟨e, he⟩ | ⟨effect, -, -, ha, gave⟩
  · cases he
  · exact h.keep (by rw [ha]) fun t _ => spares (asked.trans (gave.wrote (by simp))) t

/-- New targets are drawn to their own textures, and there are no others. -/
theorem attached_configureTargets {surface : SurfaceSize} {sizes : List SurfaceSize}
    {r : Except RenderError Unit} (held : s.Holds lost)
    (hl : (Adapter.configureTargets surface sizes).Leads s r s') : s'.Attached := by
  obtain ⟨y, ts, z, gave, built, gave', ha⟩ := Adapter.leads_configureTargets hl
  rw [Adapter.deleteTargets_eq] at gave
  have alive := held.alive
  simp only [Adapter.objects, List.append_assoc] at alive
  obtain ⟨cs, hcs, attaches⟩ := Built.attaches built (held.sound.delete gave alive).1
  intro t ht
  rw [ha] at ht
  rw [Context.attachments_append gave'.commands, Context.attachments_append hcs]
  exact attaches.newer t ht _

/-- **Whatever a call does, each target is drawn to its own texture.** -/
theorem Attached.perform (h : s.Attached) (held : s.Holds lost) (c : Call) :
    (s.perform c).2.Attached := by
  cases c with
  | createBuffer capacity =>
    obtain ⟨made, y, hm, outcome⟩ := Adapter.leads_createBuffer (s.leads_createBuffer capacity)
    have first := fun t : RenderTarget =>
      writes_create (P := (·.SparesTarget t)) (fun _ => trivial) _ _ _ hm
    rcases outcome with ⟨e, -, -, hs⟩ | ⟨b, -, -, ha, gave⟩
    · rw [hs]
      exact h.keep rfl fun t _ => first t
    · exact h.keep (by rw [ha]) fun t _ => (first t).trans (gave.wrote (by simp))
  | freeBuffer id =>
    obtain ⟨r, hl⟩ := s.leads_freeBuffer id
    rcases Adapter.leads_freeBuffer hl with ⟨-, ha, gave⟩ | ⟨b, -, ha, gave⟩
    · exact h.keep (by rw [ha]) fun t _ => gave.wrote (by simp)
    · exact h.keep (by rw [ha]) fun t _ => gave.wrote (by simp)
  | issue c =>
    have hl := s.leads_issue c
    -- most calls make no object and keep every target; the three that do were looked at above
    by_cases hc : c.SparesObjects
    · obtain ⟨ha, -, gave⟩ := Adapter.leads_execute_of_spares hc hl
      intro t ht
      have kept : t ∈ s.adapter.targets := by
        rw [ha] at ht
        cases c <;> exact ht
      rw [Context.attachments_append gave.commands]
      cases known : s.adapter.commands c with
      | error e => exact h t kept
      | ok cs => exact Adapter.keeps_commands known _ (h t kept)
    · cases c with
      | loadTexture texture => exact h.loadTexture held hl
      | compileProgram name p => exact h.compileProgram hl
      | configureTargets surface sizes => exact attached_configureTargets held hl
      | _ => exact absurd trivial hc

/-- So each is at any time. -/
theorem attached_serve {interface : Interface} {size : SurfaceSize} {host : Host}
    (hs : Session.start interface size { host := host } = .ok s) (calls : List Call) :
    (s.serve calls).Attached := by
  induction calls using List.reverseRecOn with
  | nil =>
    intro t ht
    have none_yet : s.adapter.targets = [] :=
      List.length_eq_zero_iff.mp (congrArg Tables.targets (tables_start hs))
    rw [serve_nil, none_yet] at ht
    cases ht
  | append_singleton calls c ih =>
    obtain ⟨lost, held⟩ := exists_holds hs calls
    rw [serve_append]
    exact ih.perform held c

end Session

end LitTiles.Gl
