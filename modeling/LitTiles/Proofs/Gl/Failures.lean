import LitTiles.Proofs.Gl.Lifetimes

/-!
# What a failure leaves behind on a GL context

The commands of a call are `Tidy` if each object they make is deleted by them too, or is kept by the
adapter from then on. A call that fails ought to be tidy. `tidyFailures` tells exactly when failures
are.

* Loading a texture always is.
* Linking, and with it compiling an effect, is not if the driver refuses the second or the third of
  its objects: the shaders that are there then stay.
* Configuring targets is not if the driver refuses a framebuffer: the texture that it was for stays.
* Making an adapter is not if it fails after the first of its programs is linked, whatever the
  reason: nobody deletes what it has made until then (`program_stays`).
-/

namespace LitTiles.Gl

open ContextM AdapterM

namespace Context

variable {x x' : Context} {left kept : List Object}

/-- The commands that were given since an earlier state. -/
def since (x x' : Context) : List Command := x'.commands.toList.drop x.commands.size

theorem Later.since_eq (h : x.Later x') : x'.commands.toList = x.commands.toList ++ x.since x' := by
  obtain ⟨cs, hcs⟩ := h.commands
  rw [since, ← hcs, ← Array.length_toList, List.drop_left]

end Context

/-- The objects made by some commands are deleted by them, or are among those that are kept. -/
def Tidy (cs : List Command) (kept : List Object) : Prop :=
  ∀ o ∈ createdIn cs, o ∈ deletedIn cs ∨ o ∈ kept

namespace Context

variable {x x' : Context} {left kept : List Object}

/-- Commands are tidy if they add nothing to the objects that are alive, but for those that are
kept. -/
theorem tidy_iff_alive (hx : x.Sound) (hx' : x'.Sound) (h : x.Later x') :
    Tidy (x.since x') kept ↔ ∀ o ∈ x'.alive, o ∈ x.alive ∨ o ∈ kept := by
  have proper := hx'.proper
  have made : createdIn x'.commands.toList = createdIn x.commands.toList ++ createdIn
      (x.since x') := by
    rw [h.since_eq, createdIn_append]
  have gone : deletedIn x'.commands.toList = deletedIn x.commands.toList ++ deletedIn
      (x.since x') := by
    rw [h.since_eq, deletedIn_append]
  constructor
  · intro tidy o ho
    have created := mem_createdIn_of_alive ho
    have kept_on := (mem_aliveAfter_iff proper created).mp ho
    rw [gone, List.mem_append, not_or] at kept_on
    rw [made, List.mem_append] at created
    rcases created with old | new
    · exact .inl ((mem_aliveAfter_iff hx.proper old).mpr kept_on.1)
    · exact .inr ((tidy o new).resolve_left kept_on.2)
  · intro only o ho
    have created : o ∈ createdIn x'.commands.toList := made ▸ List.mem_append_right _ ho
    -- what is new was not there before, so it was not deleted before either
    have new : o ∉ createdIn x.commands.toList := by
      have := nodup_createdIn proper
      rw [made] at this
      exact fun hm => List.disjoint_of_nodup_append this hm ho
    by_contra hn
    obtain ⟨stays, not_kept⟩ := not_or.mp hn
    have alive : o ∈ x'.alive := by
      refine (mem_aliveAfter_iff proper created).mpr ?_
      rw [gone, List.mem_append, not_or]
      exact ⟨fun hd => new (mem_createdIn_of_deleted hx.proper hd), stays⟩
    rcases only o alive with old | hk
    · exact new (mem_createdIn_of_alive old)
    · exact not_kept hk

/-- What is left that was not there before makes the difference. -/
theorem Gains.tidy_iff (h : x.Gains x' left) (hx : x.Sound) : Tidy (x.since x') [] ↔ left = [] := by
  rw [tidy_iff_alive hx h.sound h.later]
  constructor
  · intro only
    refine List.eq_nil_iff_forall_not_mem.mpr fun o ho => ?_
    have alive : o ∈ x'.alive := h.alive.mem_iff.mpr (List.mem_append_left _ ho)
    have old : o ∈ x.alive := (only o alive).resolve_right List.not_mem_nil
    exact Nat.lt_irrefl _ ((h.fresh o ho).trans_le (hx.number_le old))
  · rintro rfl o ho
    exact .inl (h.alive.mem_iff.mp ho)

end Context

namespace Session

variable {s s' : Session} {lost left : List Object}

theorem Leaves.tidy_iff (h : s.Leaves s' lost left) (hs : s.Holds lost) :
    Tidy (s.context.since s'.context) s'.adapter.objects ↔ left = [] := by
  rw [Context.tidy_iff_alive hs.sound h.holds.sound h.later]
  constructor
  · intro only
    refine List.eq_nil_iff_forall_not_mem.mpr fun o ho => ?_
    have held := h.holds.alive
    have alive : o ∈ s'.context.alive := held.mem_iff.mpr (by simp [ho])
    rcases only o alive with old | kept
    · exact Nat.lt_irrefl _ ((h.fresh o ho).trans_le (hs.sound.number_le old))
    · have apart := held.nodup_iff.mp h.holds.sound.nodup
      exact List.disjoint_of_nodup_append apart kept (List.mem_append_left _ ho)
  · rintro rfl o ho
    rcases List.mem_append.mp (h.holds.alive.mem_iff.mp ho) with kept | gone
    · exact .inr kept
    · exact .inl (hs.alive.mem_iff.mpr (List.mem_append_right _ gone))

end Session

/-! ## When failures are tidy -/

/-- When the commands of a failure are tidy, call by call. -/
structure TidyFailures (host : Host) : Prop where
  /-- Making an adapter: only if nothing was made, or if it is the first program that is rejected,
  and not because an object was refused. -/
  start : ∀ interface size e x', Session.start interface size { host := host } = .error (e, x') →
    (Tidy x'.commands.toList [] ↔ createdIn x'.commands.toList = [] ∨
      Context.Granted { host := host } x' ∧ ∃ log, e = .rejectedProgram "sprite" log)
  /-- Linking a program: if no object was refused, or nothing was made. -/
  link : ∀ x : Context, x.host = host → x.Sound → ∀ name vertex fragment attributes e x',
    (link name vertex fragment attributes).Leads x (.error e) x' →
      (Tidy (x.since x') [] ↔ x.Granted x' ∨ createdIn (x.since x') = [])
  /-- Loading a texture: always. -/
  loadTexture : ∀ interface size s, Session.start interface size { host := host } = .ok s →
    ∀ calls texture e t, (s.serve calls).perform (.issue (.loadTexture texture)) = (.error e, t) →
      Tidy ((s.serve calls).context.since t.context) t.adapter.objects
  /-- Compiling an effect: if no object was refused, or nothing was made. -/
  compileProgram : ∀ interface size s, Session.start interface size { host := host } = .ok s →
    ∀ calls name p e t, (s.serve calls).perform (.issue (.compileProgram name p)) = (.error e, t) →
      (Tidy ((s.serve calls).context.since t.context) t.adapter.objects ↔
        (s.serve calls).context.Granted t.context ∨
          createdIn ((s.serve calls).context.since t.context) = [])
  /-- Configuring targets: if no framebuffer was refused. -/
  configureTargets : ∀ interface size s, Session.start interface size { host := host } = .ok s →
    ∀ calls surface sizes e t,
      (s.serve calls).perform (.issue (.configureTargets surface sizes)) = (.error e, t) →
        (Tidy ((s.serve calls).context.since t.context) t.adapter.objects ↔
          (s.serve calls).context.GrantedOf .framebuffer t.context)

variable {x x' : Context} {left : List Object}

/-- A link that is not spoiled is one without refusals, or one that made nothing. -/
theorem left_iff_of_spoiled (h : x.Later x') (hl : left ≠ [] ↔ Spoiled x x') :
    left = [] ↔ x.Granted x' ∨ createdIn (x.since x') = [] := by
  have nothing : x.MadeNothing x' ↔ createdIn (x.since x') = [] := by
    rw [Context.MadeNothing, h.since_eq, createdIn_append]
    exact List.append_right_eq_self
  rw [← not_iff_not, ← ne_eq, hl, Spoiled, not_or, nothing]

theorem Session.leads_start_error {interface : Interface} {size : SurfaceSize} {e : RenderError}
    (h : Session.start interface size x = .error (e, x')) :
    (Adapter.connect interface size).Leads x (.error e) x' := by
  rw [Session.start] at h
  split at h
  · cases h
  · rename_i e' y he
    obtain ⟨rfl, rfl⟩ := Prod.mk.inj (Except.error.inj h)
    exact he

/-- **Failures are tidy in these cases, and in no others.** -/
theorem tidyFailures (host : Host) : TidyFailures host where
  start interface size e x' h := by
    have sound := Context.sound_start host
    rcases Adapter.leads_connect sound (Session.leads_start_error h) with
      ⟨a, ha, -⟩ | ⟨e', left, he, gains, hl⟩
    · cases ha
    obtain rfl := Except.error.inj he
    -- nothing was recorded before the start, so all commands count
    have all : Context.since { host := host } x' = x'.commands.toList := rfl
    have tidy := gains.tidy_iff sound
    rw [all] at tidy
    exact tidy.trans hl
  link x _ hx name vertex fragment attributes e x' h := by
    rcases makes_link attributes x _ x' hx h with ⟨p, he, -⟩ | ⟨e', left, -, -, gains, hl⟩
    · cases he
    · exact (gains.tidy_iff hx).trans (left_iff_of_spoiled gains.later hl)
  loadTexture interface size s hs calls texture e t h := by
    obtain ⟨lost, held⟩ := Session.exists_holds hs calls
    exact ((held.loadTexture h).tidy_iff held).mpr rfl
  compileProgram interface size s hs calls name p e t h := by
    obtain ⟨lost, held⟩ := Session.exists_holds hs calls
    obtain ⟨left, leaves, hl⟩ := held.compileProgram h
    exact (leaves.tidy_iff held).trans (left_iff_of_spoiled leaves.later hl)
  configureTargets interface size s hs calls surface sizes e t h := by
    obtain ⟨lost, held⟩ := Session.exists_holds hs calls
    obtain ⟨left, leaves, hl⟩ := held.configureTargets h
    exact (leaves.tidy_iff held).trans (not_iff_not.mp hl)

/-- A host that refuses all framebuffers. -/
def framebufferlessHost : Host where
  creationError
    | .framebuffer, _ => some "refused"
    | _, _ => none

/-- Without framebuffers the texture of a target stays. -/
theorem texture_stays : ∃ s e t,
    Session.start .gles3 ⟨8, 8⟩ { host := framebufferlessHost } = .ok s ∧
    s.perform (.issue (.configureTargets ⟨8, 8⟩ [⟨4, 4⟩])) = (.error e, t) ∧
    ¬ Tidy (s.context.since t.context) t.adapter.objects := by
  have computed : (match Session.start .gles3 ⟨8, 8⟩ { host := framebufferlessHost } with
    | .error _ => false
    | .ok s => match s.perform (.issue (.configureTargets ⟨8, 8⟩ [⟨4, 4⟩])) with
      | (.ok _, _) => false
      | (.error _, t) => decide (s.context.requested .framebuffer = 0 ∧
          t.context.requested .framebuffer = 1)) = true := by decide +kernel
  split at computed
  · cases computed
  · rename_i s hs
    split at computed
    · cases computed
    · rename_i e t ht
      obtain ⟨none_yet, one⟩ := of_decide_eq_true computed
      refine ⟨s, e, t, hs, ht, ?_⟩
      have iff := (tidyFailures framebufferlessHost).configureTargets .gles3 ⟨8, 8⟩ s hs
        [] ⟨8, 8⟩ _ e t ht
      -- tidy would mean that framebuffer 0 was granted, and this host grants none
      refine fun tidy => ?_
      have host : s.context.host = framebufferlessHost := (Session.holds_start hs).2.1.host
      have granted := iff.mp tidy 0 (Nat.le_of_eq none_yet) (by rw [one]; exact Nat.one_pos)
      rw [Session.serve_nil, host] at granted
      cases granted

/-- A host on which the third shader does not compile, that of the second program. -/
def maskRejectingHost : Host where
  compileLog n := if n = 2 then some "failed" else none

/-- If the second program is rejected the first one stays. -/
theorem program_stays : ∃ e x',
    Session.start .gles3 ⟨8, 8⟩ { host := maskRejectingHost } = .error (e, x') ∧
    (⟨.program, 1⟩ : Object) ∈ createdIn x'.commands.toList ∧
    (⟨.program, 1⟩ : Object) ∉ deletedIn x'.commands.toList ∧ ¬ Tidy x'.commands.toList [] := by
  have computed : (match Session.start .gles3 ⟨8, 8⟩ { host := maskRejectingHost } with
    | .error (_, x') => decide ((⟨.program, 1⟩ : Object) ∈ createdIn x'.commands.toList ∧
        (⟨.program, 1⟩ : Object) ∉ deletedIn x'.commands.toList)
    | .ok _ => false) = true := by decide +kernel
  split at computed
  · rename_i e x' he
    obtain ⟨made, stays⟩ := of_decide_eq_true computed
    exact ⟨e, x', he, made, stays, fun tidy => (tidy _ made).elim stays List.not_mem_nil⟩
  · cases computed

end LitTiles.Gl
