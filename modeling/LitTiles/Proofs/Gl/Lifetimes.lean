import LitTiles.Proofs.Gl.Custody
import Mathlib.Algebra.Group.Nat.Defs
import Mathlib.Data.List.Nodup

/-!
# The lifetimes of GL objects

A log of commands is `Balanced` if every object in it is made once and deleted once, and is used in
between only. Whatever is asked of an adapter, and however often programs do not compile and targets
are not complete, the log of its whole life is balanced, from the making of the adapter to the end
(`balanced_of_granted`). Two things are taken for granted: the driver refuses no object, and there
are less than 2³² instance buffers, so that no number is used a second time.

Without these two a session is still accounted for (`exists_holds`): what is alive is with the
adapter or is known to be lost.
-/

namespace LitTiles

/-- The call makes an instance buffer. -/
def Call.makesBuffer : Call → Bool
  | .createBuffer _ => true
  | _ => false

namespace Gl

open ContextM AdapterM

/-! ## Balance -/

/-- The objects of a log are made once and deleted once, and are used in between. -/
structure Balanced (log : List Command) : Prop where
  /-- No object is made twice. -/
  created : ∀ o ∈ createdIn log, (createdIn log).count o = 1
  /-- Every object is deleted, and none is deleted twice. -/
  deleted : ∀ o ∈ createdIn log, (deletedIn log).count o = 1
  /-- What a command is given has been made, and has not been deleted before. -/
  used : Throughout (fun before c => ∀ o ∈ c.uses, o ∈ createdIn before ∧ o ∉ deletedIn before) log

/-- A proper log that leaves nothing alive is balanced. -/
theorem balanced_of_proper {log : List Command} (h : Throughout Proper log)
    (hend : aliveAfter log = []) :
    Balanced log where
  created o ho := List.count_eq_one_of_mem (nodup_createdIn h) ho
  deleted o ho := by
    refine List.count_eq_one_of_mem (nodup_deletedIn h) (by_contra fun hn => ?_)
    have alive := (mem_aliveAfter_iff h ho).mpr hn
    rw [hend] at alive
    cases alive
  used before c after he o ho := by
    have proper : Throughout Proper before := (he ▸ h).of_append
    have alive := (h before c after he).2 o ho
    have created := mem_createdIn_of_alive alive
    exact ⟨created, (mem_aliveAfter_iff proper created).mp alive⟩

/-! ## From the start -/

namespace Session

variable {interface : Interface} {size : SurfaceSize} {x : Context} {host : Host} {s : Session}

theorem leads_start (h : Session.start interface size x = .ok s) :
    (Adapter.connect interface size).Leads x (.ok s.adapter) s.context := by
  rw [Session.start] at h
  split at h
  · rename_i a x' he
    obtain rfl := Except.ok.inj h
    exact he
  · cases h

/-- An adapter that was just made holds all objects there are. -/
theorem holds_start (h : Session.start interface size { host := host } = .ok s) :
    s.Holds [] ∧ Context.Later { host := host } s.context ∧ s.adapter.nextBuffer = 0 ∧
      s.adapter.buffers = [] := by
  rcases Adapter.leads_connect (Context.sound_start host) (leads_start h) with
    ⟨a, ha, gains, -, -, targets, atlases, buffers, next, effects, -⟩ | ⟨e, left, he, -⟩
  · obtain rfl := Except.ok.inj ha
    refine ⟨⟨gains.sound, ?_, ⟨?_, ?_, ?_⟩⟩, gains.later, next, buffers⟩
    · rw [Adapter.objects, targets, atlases, buffers, effects]
      simpa using gains.alive.trans (List.Perm.of_eq (List.append_nil _))
    · rw [atlases]
      exact List.nodup_nil
    · rw [effects]
      exact List.nodup_nil
    · rw [buffers]
      exact List.nodup_nil
  · cases he

/-- **At any time what is alive is with the adapter, or lost.** -/
theorem exists_holds (h : Session.start interface size { host := host } = .ok s)
    (calls : List Call) :
    ∃ lost, (s.serve calls).Holds lost := by
  induction calls using List.reverseRecOn with
  | nil => exact ⟨[], (holds_start h).1⟩
  | append_singleton calls c ih =>
    obtain ⟨lost, held⟩ := ih
    obtain ⟨left, held', -⟩ := held.perform c
    rw [serve_append]
    exact ⟨left ++ lost, held'⟩

/-! ## Numbers of instance buffers -/

/-- Buffers have numbers below the next one, which is the number of buffers so far. -/
structure Numbered (s : Session) (n : Nat) : Prop where
  /-- The next number has been reached by counting. -/
  next : s.adapter.nextBuffer.toNat ≤ n
  /-- The numbers in use are smaller. -/
  below : ∀ e ∈ s.adapter.buffers, e.1.val < s.adapter.nextBuffer

/-- While numbers last the next one is not in use. -/
theorem Numbered.lookup_next {n : Nat} (h : s.Numbered n) :
    s.adapter.buffers.lookup ⟨s.adapter.nextBuffer⟩ = none := by
  refine List.lookup_eq_none_iff.mpr fun e he => bne_iff_ne.mpr fun hk => ?_
  have := h.below e he
  rw [← hk] at this
  exact absurd this (UInt32.lt_irrefl _)

theorem execute_buffers {c : LitTiles.Command} {s' : Session} {r : Except RenderError Unit}
    (h : (Adapter.execute c).Leads s r s') :
    s'.adapter.buffers = s.adapter.buffers ∧ s'.adapter.nextBuffer = s.adapter.nextBuffer := by
  have same : ((s'.adapter.buffers, s'.adapter.nextBuffer) : List _ × UInt32) = _ :=
    Adapter.keep_execute (fun a => (a.buffers, a.nextBuffer)) (fun _ _ => rfl)
      (fun _ _ _ _ _ => rfl)
      (fun _ _ _ => rfl) (fun _ _ => rfl) h
  exact Prod.mk.inj same

/-- A session with fewer buffers, and the same next number. -/
theorem Numbered.of_sublist {n : Nat} {s' : Session} (h : s.Numbered n)
    (hb : s'.adapter.buffers.Sublist s.adapter.buffers)
    (hx : s'.adapter.nextBuffer = s.adapter.nextBuffer) : s'.Numbered n where
  next := hx ▸ h.next
  below e he := hx ▸ h.below e (hb.subset he)

/-- A call counts on by one at most. -/
theorem Numbered.perform {n : Nat} (h : s.Numbered n) (c : Call)
    (hn : n + (if c.makesBuffer then 1 else 0) < 2 ^ 32) :
    (s.perform c).2.Numbered (n + if c.makesBuffer then 1 else 0) := by
  cases c with
  | freeBuffer id =>
    obtain ⟨r, hl⟩ := s.leads_freeBuffer id
    rcases Adapter.leads_freeBuffer hl with ⟨-, ha, -⟩ | ⟨b, -, ha, -⟩
    · exact h.of_sublist (by rw [ha]) (by rw [ha])
    · exact h.of_sublist (by rw [ha]; exact List.filter_sublist) (by rw [ha])
  | issue c =>
    obtain ⟨hb, hx⟩ := execute_buffers (s.leads_issue c)
    exact h.of_sublist (hb ▸ .refl _) hx
  | createBuffer capacity =>
    replace hn : n + 1 < 2 ^ 32 := hn
    obtain ⟨made, y, -, outcome⟩ := Adapter.leads_createBuffer (s.leads_createBuffer capacity)
    rcases outcome with ⟨e, -, -, hs⟩ | ⟨buffer, -, -, ha, -⟩
    · rw [hs]
      exact ⟨h.next.trans (Nat.le_succ n), h.below⟩
    -- the counter does not wrap, as fewer than 2³² buffers were made
    · have count : (s.adapter.nextBuffer + 1).toNat = s.adapter.nextBuffer.toNat + 1 := by
        have := h.next
        rw [UInt32.toNat_add, UInt32.toNat_one]
        omega
      refine ⟨?_, fun e he => ?_⟩
      · rw [ha, count]
        exact Nat.succ_le_succ h.next
      · rw [ha] at he ⊢
        rw [UInt32.lt_iff_toNat_lt, count, Nat.lt_succ_iff]
        rcases List.mem_cons.mp he with rfl | he
        · exact Nat.le_refl _
        · exact Nat.le_of_lt (UInt32.lt_iff_toNat_lt.mp (h.below e (List.mem_of_mem_filter he)))

/-! ## A whole life -/

/-- If no object is refused, and the numbers of the buffers do not run out, then nothing is ever
lost. -/
theorem holds_of_granted (h : Session.start interface size { host := host } = .ok s)
    (calls : List Call) (few : calls.countP Call.makesBuffer < 2 ^ 32)
    (granted : Context.Granted { host := host } (s.serve calls).context) :
    (s.serve calls).Holds [] ∧ Context.Later { host := host } (s.serve calls).context ∧
      (s.serve calls).Numbered (calls.countP Call.makesBuffer) := by
  induction calls using List.reverseRecOn with
  | nil =>
    obtain ⟨held, later, next, none_yet⟩ := holds_start h
    refine ⟨held, later, ?_, fun e he => ?_⟩
    · rw [serve_nil, next]
      exact Nat.le_refl 0
    · rw [serve_nil, none_yet] at he
      cases he
  | append_singleton calls c ih =>
    rw [List.countP_append, List.countP_singleton] at few ⊢
    rw [serve_append] at granted ⊢
    -- the context goes on whatever is lost, so that what is granted in all was granted before
    obtain ⟨lost, held⟩ := exists_holds h calls
    obtain ⟨-, -, step, -⟩ := held.perform c
    obtain ⟨held, later, numbered⟩ := ih (Nat.lt_of_le_of_lt (Nat.le_add_right _ _) few)
      fun k => step.granted_left (granted k)
    obtain ⟨left, held', -, hleft⟩ := held.perform c
    obtain rfl := hleft (fun k => later.granted_right (granted k)) fun _ _ => numbered.lookup_next
    exact ⟨held', later.trans step, numbered.perform c few⟩

/-- **The log of an adapter's whole life is balanced**, if the driver refuses it no object and there
are less than 2³² instance buffers. -/
theorem balanced_of_granted (h : Session.start interface size { host := host } = .ok s)
    (calls : List Call) (few : calls.countP Call.makesBuffer < 2 ^ 32)
    (granted : ∀ k n, n < (s.serve calls).context.requested k → host.creationError k n = none) :
    Balanced (s.serve calls).close.commands.toList := by
  obtain ⟨held, -⟩ := holds_of_granted h calls few fun k n _ hlt => granted k n hlt
  have log : (s.serve calls).close.commands.toList =
      (s.serve calls).context.commands.toList ++ deleteAll (s.serve calls).adapter.objects := by
    rw [close, Adapter.dispose_eq, Array.toList_append, List.toList_toArray]
  obtain ⟨proper, left⟩ := proper_append_deleteAll held.sound.proper held.alive
  rw [log]
  exact balanced_of_proper proper left.eq_nil

/-- A host on which the ninth shader does not compile, and the second framebuffer is not
complete. -/
def faultyHost : Host where
  compileLog n := if n = 8 then some "failed" else none
  framebufferStatus n := if n = 1 then 0 else framebufferComplete

/-- A texture is replaced, an effect does not compile, and of two targets the second one is not
complete. -/
theorem balanced_despite_failures :
    ∃ s, Session.start .gles3 ⟨8, 8⟩ { host := faultyHost } = .ok s ∧
    Balanced (s.serve [.createBuffer 4, .issue (.loadTexture ⟨"atlas", 1, 1, [0, 0, 0, 0]⟩),
      .issue (.loadTexture ⟨"atlas", 1, 1, [1, 1, 1, 1]⟩),
      .issue (.compileProgram "effect" ⟨.glsl "" "", [], 0, .replace⟩),
      .issue (.configureTargets ⟨8, 8⟩ [⟨4, 4⟩, ⟨2, 2⟩])]).close.commands.toList := by
  have started :
      ((Session.start .gles3 ⟨8, 8⟩ { host := faultyHost }).toOption.any fun _ => true) = true := by
    decide +kernel
  obtain ⟨s, hs, -⟩ := exists_ok_of_any started
  exact ⟨s, hs, balanced_of_granted hs _ (by decide) fun _ _ _ => rfl⟩

end Session

end Gl

end LitTiles
