import LitTiles.Proofs.Backend.Ledger
import LitTiles.Proofs.Gl.Runs

/-!
# The objects of a GL context

What objects a context holds is read off the commands it was given: `aliveAfter` lists those that
were created and not deleted since. A command is `Proper` if it creates no object a second time, and
is given objects only that are alive; a log is proper if all its commands are.

A context is `Sound` if its log is proper, and no object has a number that was not given out. From
there each step has a lemma: commands that use objects that are alive (`Sound.use`), an object that
is made (`Sound.made`), objects that are deleted (`Sound.delete`). `Context.Gains` sums up a
computation by the objects that it leaves more than it found.
-/

namespace LitTiles.Gl

/-- An object of some kind. -/
structure Object where
  /-- Its kind. -/
  kind : ObjectKind
  /-- The number the context knows it by. -/
  number : Nat
  deriving DecidableEq

/-- The object that a handle stands for. -/
def Handle.object {k : ObjectKind} (h : Handle k) : Object := ⟨k, h.name⟩

/-- Deletes objects, in order. -/
def deleteAll (os : List Object) : List Command := os.map fun o => .delete o.kind ⟨o.number⟩

namespace Command

/-- The object that a command makes. -/
@[simp] def creates : Command → Option Object
  | create _ h => some h.object
  | createShader _ s => some s.object
  | _ => none

/-- The object that a command deletes. -/
@[simp] def deletes : Command → Option Object
  | delete _ h => some h.object
  | _ => none

/-- The objects that a command is given, one to be deleted included. -/
@[simp] def uses : Command → List Object
  | delete _ h => [h.object]
  | shaderSource s _ => [s.object]
  | compileShader s => [s.object]
  | bindAttribute p _ _ => [p.object]
  | attachShader p s => [p.object, s.object]
  | linkProgram p => [p.object]
  | detachShader p s => [p.object, s.object]
  | uniformLocation p _ _ => [p.object]
  | useProgram p => [p.object]
  | bindBuffer _ b => [b.object]
  | bindVertexArray a => [a.object]
  | bindTexture t => (t.map (·.object)).toList
  | bindFramebuffer f => (f.map (·.object)).toList
  | framebufferTexture t => [t.object]
  | _ => []

/-- The objects that are alive after a command. -/
def settle (alive : List Object) (c : Command) : List Object :=
  match c.deletes with
  | some o => alive.erase o
  | none => c.creates.toList ++ alive

/-- The command neither makes an object nor deletes one. -/
@[simp] def Spares (c : Command) : Prop := c.creates = none ∧ c.deletes = none

end Command

/-- The objects that some commands make. -/
def createdIn (cs : List Command) : List Object := cs.filterMap Command.creates

/-- The objects that some commands delete. -/
def deletedIn (cs : List Command) : List Object := cs.filterMap Command.deletes

/-- The objects that were made and not deleted since. -/
def aliveAfter (cs : List Command) : List Object := cs.foldl Command.settle []

/-- No object is made anew, and none is used that is not alive. -/
def Proper (before : List Command) (c : Command) : Prop :=
  (∀ o, c.creates = some o → o ∉ createdIn before) ∧ ∀ o ∈ c.uses, o ∈ aliveAfter before

section Logs

variable {cs ds : List Command} {c : Command} {o : Object}

@[simp] theorem createdIn_append : createdIn (cs ++ ds) = createdIn cs ++ createdIn ds :=
  List.filterMap_append

@[simp] theorem deletedIn_append : deletedIn (cs ++ ds) = deletedIn cs ++ deletedIn ds :=
  List.filterMap_append

theorem createdIn_singleton (c : Command) : createdIn [c] = c.creates.toList := by
  rw [createdIn, List.filterMap_cons]
  cases c.creates <;> rfl

theorem deletedIn_singleton (c : Command) : deletedIn [c] = c.deletes.toList := by
  rw [deletedIn, List.filterMap_cons]
  cases c.deletes <;> rfl

/-- One command more, settled on what was alive before it. -/
@[simp] theorem aliveAfter_concat : aliveAfter (cs ++ [c]) = c.settle (aliveAfter cs) := by
  simp [aliveAfter]

/-- A command that makes and deletes nothing leaves alive what was. -/
theorem Command.Spares.settle (h : c.Spares) (alive : List Object) : c.settle alive = alive := by
  rw [Command.settle, h.1, h.2]
  rfl

/-- An object that is created is alive, in front of the others. -/
theorem Command.settle_of_creates (h : c.creates = some o) (alive : List Object) :
    c.settle alive = o :: alive := by
  have hd : c.deletes = none := by cases c <;> first | rfl | cases h
  rw [settle, hd, h]
  rfl

/-- What is alive was made. -/
theorem mem_createdIn_of_alive (h : o ∈ aliveAfter cs) : o ∈ createdIn cs := by
  induction cs using List.reverseRecOn with
  | nil => exact h
  | append_singleton cs c ih =>
    rw [aliveAfter_concat, Command.settle] at h
    rw [createdIn_append, List.mem_append]
    split at h
    · exact .inl (ih (List.mem_of_mem_erase h))
    · rcases List.mem_append.mp h with h | h
      · exact .inr (List.mem_filterMap.mpr ⟨c, List.mem_singleton_self c, Option.mem_toList.mp h⟩)
      · exact .inl (ih h)

/-- A proper log holds no object twice. -/
theorem nodup_aliveAfter (h : Throughout Proper cs) : (aliveAfter cs).Nodup := by
  induction cs using List.reverseRecOn with
  | nil => exact List.nodup_nil
  | append_singleton cs c ih =>
    obtain ⟨hcs, hc⟩ := throughout_concat.mp h
    rw [aliveAfter_concat, Command.settle]
    split
    · exact (ih hcs).erase _
    · cases hx : c.creates with
      | none => exact ih hcs
      | some o =>
        refine List.nodup_cons.mpr ⟨fun ho => ?_, ih hcs⟩
        exact hc.1 o hx (mem_createdIn_of_alive ho)

/-- What was deleted was made. -/
theorem mem_createdIn_of_deleted (h : Throughout Proper cs) (ho : o ∈ deletedIn cs) :
    o ∈ createdIn cs := by
  obtain ⟨c, hc, hd⟩ := List.mem_filterMap.mp ho
  obtain ⟨before, after, rfl⟩ := List.append_of_mem hc
  have used : o ∈ c.uses := by
    cases c <;> first | exact List.mem_singleton.mpr (Option.some.inj hd).symm | cases hd
  rw [createdIn_append, List.mem_append]
  exact .inl (mem_createdIn_of_alive ((h before c after rfl).2 o used))

/-- In a proper log an object that was made is either alive or deleted. -/
theorem mem_aliveAfter_iff (h : Throughout Proper cs) (ho : o ∈ createdIn cs) :
    o ∈ aliveAfter cs ↔ o ∉ deletedIn cs := by
  induction cs using List.reverseRecOn with
  | nil => cases ho
  | append_singleton cs c ih =>
    obtain ⟨hcs, hc⟩ := throughout_concat.mp h
    rw [aliveAfter_concat, deletedIn_append, List.mem_append, not_or, deletedIn_singleton]
    by_cases hx : c.creates = some o
    · -- it has just been made, so it cannot have been deleted before
      have hnew : o ∉ createdIn cs := hc.1 o hx
      rw [Command.settle_of_creates hx]
      have hd : c.deletes = none := by cases c <;> first | rfl | cases hx
      rw [hd]
      exact iff_of_true List.mem_cons_self
        ⟨fun hm => hnew (mem_createdIn_of_deleted hcs hm), List.not_mem_nil⟩
    · have hold : o ∈ createdIn cs := by
        rw [createdIn_append, List.mem_append, createdIn_singleton] at ho
        exact ho.resolve_right fun hm => hx (Option.mem_toList.mp hm)
      rw [← ih hcs hold, Command.settle]
      cases c.deletes with
      | some d =>
        rw [(nodup_aliveAfter hcs).mem_erase_iff, Option.toList_some, List.mem_singleton, and_comm]
      | none =>
        rw [List.mem_append]
        have other : o ∉ c.creates.toList := fun hm => hx (Option.mem_toList.mp hm)
        exact ⟨fun hm => ⟨hm.resolve_left other, List.not_mem_nil⟩, fun hm => .inr hm.1⟩

/-- Nothing is made twice. -/
theorem nodup_createdIn (h : Throughout Proper cs) : (createdIn cs).Nodup := by
  induction cs using List.reverseRecOn with
  | nil => exact List.nodup_nil
  | append_singleton cs c ih =>
    obtain ⟨hcs, hc⟩ := throughout_concat.mp h
    rw [createdIn_append, createdIn_singleton]
    cases hx : c.creates with
    | none =>
      rw [Option.toList_none, List.append_nil]
      exact ih hcs
    | some o =>
      exact List.perm_append_singleton o (createdIn cs) |>.nodup_iff.mpr
        (List.nodup_cons.mpr ⟨hc.1 o hx, ih hcs⟩)

/-- Nothing is deleted twice. -/
theorem nodup_deletedIn (h : Throughout Proper cs) : (deletedIn cs).Nodup := by
  induction cs using List.reverseRecOn with
  | nil => exact List.nodup_nil
  | append_singleton cs c ih =>
    obtain ⟨hcs, hc⟩ := throughout_concat.mp h
    rw [deletedIn_append, deletedIn_singleton]
    cases hd : c.deletes with
    | none =>
      rw [Option.toList_none, List.append_nil]
      exact ih hcs
    | some d =>
      have used : d ∈ c.uses := by
        cases c <;> first | exact List.mem_singleton.mpr (Option.some.inj hd).symm | cases hd
      have alive := hc.2 d used
      have gone := (mem_aliveAfter_iff hcs (mem_createdIn_of_alive alive)).mp alive
      exact List.perm_append_singleton d (deletedIn cs) |>.nodup_iff.mpr
        (List.nodup_cons.mpr ⟨gone, ih hcs⟩)

/-- Commands that use what is alive, and neither make nor delete anything. -/
theorem proper_append_of_uses (h : Throughout Proper cs)
    (hd : ∀ c ∈ ds, c.Spares ∧ ∀ o ∈ c.uses, o ∈ aliveAfter cs) :
    Throughout Proper (cs ++ ds) ∧ aliveAfter (cs ++ ds) = aliveAfter cs := by
  induction ds using List.reverseRecOn with
  | nil =>
    rw [List.append_nil]
    exact ⟨h, rfl⟩
  | append_singleton ds c ih =>
    obtain ⟨proper, same⟩ := ih fun c hc => hd c (List.mem_append_left _ hc)
    obtain ⟨spares, uses⟩ := hd c (by simp)
    rw [← List.append_assoc, throughout_concat, aliveAfter_concat, same, spares.settle]
    refine ⟨⟨proper, fun o ho => ?_, fun o ho => ?_⟩, rfl⟩
    · rw [spares.1] at ho
      cases ho
    · rw [same]
      exact uses o ho

/-- Objects that are alive may be deleted, one after the other. -/
theorem proper_append_deleteAll {os rest : List Object} (h : Throughout Proper cs)
    (ho : (aliveAfter cs).Perm (os ++ rest)) :
    Throughout Proper (cs ++ deleteAll os) ∧ (aliveAfter (cs ++ deleteAll os)).Perm rest := by
  induction os generalizing cs with
  | nil =>
    rw [deleteAll, List.map_nil, List.append_nil]
    exact ⟨h, ho⟩
  | cons o os ih =>
    have step : cs ++ deleteAll (o :: os) = cs ++ [.delete o.kind ⟨o.number⟩] ++ deleteAll os := by
      simp [deleteAll]
    have alive : o ∈ aliveAfter cs := ho.mem_iff.mpr List.mem_cons_self
    rw [step]
    apply ih
    · refine throughout_concat.mpr ⟨h, fun o' he => (nomatch he), fun o' hm => ?_⟩
      obtain rfl := List.mem_singleton.mp hm
      exact alive
    · rw [aliveAfter_concat]
      refine (ho.erase o).trans ?_
      rw [List.cons_append, List.erase_cons_head]

end Logs

/-! ## Contexts -/

namespace Context

/-- The objects that a context holds. -/
def alive (x : Context) : List Object := aliveAfter x.commands.toList

/-- The log is proper, and numbers that were not given out yet are not in use. -/
structure Sound (x : Context) : Prop where
  /-- All commands are proper. -/
  proper : Throughout Proper x.commands.toList
  /-- Objects have numbers that were given out. -/
  numbered : ∀ o ∈ createdIn x.commands.toList, o.number ≤ x.requested o.kind

variable {x y z : Context} {cs : List Command} {new more os rest : List Object}

/-- A context starts with no object and nothing asked for. -/
theorem sound_start (host : Host) : Sound { host := host } :=
  ⟨throughout_nil, fun _ ho => nomatch ho⟩

/-- What is alive was asked for, so it has one of the numbers so far. -/
theorem Sound.number_le (h : x.Sound) {o : Object} (ho : o ∈ x.alive) :
    o.number ≤ x.requested o.kind :=
  h.numbered o (mem_createdIn_of_alive ho)

theorem Sound.nodup (h : x.Sound) : x.alive.Nodup := nodup_aliveAfter h.proper

/-- Deleting creates nothing, so only the deletions have to be accounted for. -/
theorem createdIn_deleteAll (os : List Object) : createdIn (deleteAll os) = [] := by
  simp [createdIn, deleteAll]

theorem createdIn_eq_nil_of_spares (h : ∀ c ∈ cs, c.Spares) : createdIn cs = [] :=
  List.filterMap_eq_nil_iff.mpr fun c hc => (h c hc).1

/-- Objects may be used while they are alive. -/
theorem Sound.use (h : x.Sound) (hg : x.Gave cs y)
    (hc : ∀ c ∈ cs, c.Spares ∧ ∀ o ∈ c.uses, o ∈ x.alive) : y.Sound ∧ y.alive = x.alive := by
  obtain ⟨proper, same⟩ := proper_append_of_uses h.proper hc
  have created := createdIn_eq_nil_of_spares fun c h => (hc c h).1
  rw [← hg.commands] at proper same
  refine ⟨⟨proper, ?_⟩, same⟩
  rw [hg.commands, createdIn_append, created, List.append_nil, hg.requested]
  exact h.numbered

/-- Objects that are alive may be deleted. -/
theorem Sound.delete (h : x.Sound) (hg : x.Gave (deleteAll os) y) (ho : x.alive.Perm (os ++ rest)) :
    y.Sound ∧ y.alive.Perm rest := by
  obtain ⟨proper, left⟩ := proper_append_deleteAll h.proper ho
  rw [← hg.commands] at proper left
  refine ⟨⟨proper, ?_⟩, left⟩
  rw [hg.commands, createdIn_append, createdIn_deleteAll, List.append_nil, hg.requested]
  exact h.numbered

/-- An object that is made has a number of its own. -/
theorem Sound.made {k : ObjectKind} {c : Command} {o : Handle k} (h : x.Sound)
    (ha : ContextM.Asked x k [c] y) (ho : o.name = x.requested k + 1)
    (hc : c.creates = some o.object) (hu : c.uses = []) :
    y.Sound ∧ y.alive = o.object :: x.alive := by
  -- names are given out in order, so none of those made before is this one
  have new : o.object ∉ createdIn x.commands.toList := by
    intro hm
    have := h.numbered _ hm
    change o.name ≤ x.requested k at this
    omega
  have created : createdIn [c] = [o.object] := by
    rw [createdIn_singleton, hc]
    rfl
  refine ⟨⟨?_, ?_⟩, ?_⟩
  · rw [ha.commands]
    refine throughout_concat.mpr ⟨h.proper, fun o' he => ?_, fun o' hm => ?_⟩
    · rw [hc] at he
      exact Option.some.inj he ▸ new
    · rw [hu] at hm
      cases hm
  · rw [ha.commands, createdIn_append, created]
    intro o' hm
    rw [ha.requested]
    rcases List.mem_append.mp hm with hm | hm
    · have := h.numbered o' hm
      -- the number of its own kind went up by one, those of the other kinds stay
      split
      · rename_i hk
        rw [hk] at this
        omega
      · exact this
    · obtain rfl := List.mem_singleton.mp hm
      change o.name ≤ if k = k then _ else _
      rw [if_pos rfl, ho]
  · rw [alive, ha.commands, aliveAfter_concat, Command.settle_of_creates hc]
    rfl

/-- A request that is refused changes nothing. -/
theorem Sound.refused {k : ObjectKind} (h : x.Sound) (ha : ContextM.Asked x k [] y) :
    y.Sound ∧ y.alive = x.alive := by
  have same : y.commands.toList = x.commands.toList := by rw [ha.commands, List.append_nil]
  refine ⟨⟨same ▸ h.proper, fun o hm => ?_⟩, by rw [alive, same, alive]⟩
  have := h.numbered o (same ▸ hm)
  rw [ha.requested]
  split
  · rename_i hk
    rw [hk] at this
    omega
  · exact this

/-! ## What a computation gains -/

/-- From one state of a context to the other some objects were made that are still there, and
nothing else has changed about the objects. -/
structure Gains (x x' : Context) (new : List Object) : Prop where
  /-- Everything was done properly. -/
  sound : x'.Sound
  /-- The new objects came to the old ones. -/
  alive : x'.alive.Perm (new ++ x.alive)
  /-- They have new numbers. -/
  fresh : ∀ o ∈ new, x.requested o.kind < o.number
  /-- The state is a later one. -/
  later : x.Later x'

theorem Sound.gains (h : x.Sound) : x.Gains x [] := ⟨h, .refl _, fun _ ho => (nomatch ho), .refl x⟩

/-- What was gained in two stretches: the later gains in front. -/
theorem Gains.trans (h : x.Gains y new) (h' : y.Gains z more) : x.Gains z (more ++ new) where
  sound := h'.sound
  alive := by
    rw [List.append_assoc]
    exact h'.alive.trans (h.alive.append_left more)
  fresh := by
    intro o ho
    rcases List.mem_append.mp ho with ho | ho
    · exact Nat.lt_of_le_of_lt (h.later.requested _) (h'.fresh o ho)
    · exact h.fresh o ho
  later := h.later.trans h'.later

/-- It does not matter in which order the objects are listed. -/
theorem Gains.perm (h : x.Gains y new) (hp : new.Perm more) : x.Gains y more where
  sound := h.sound
  alive := h.alive.trans (hp.append_right _)
  fresh o ho := h.fresh o (hp.mem_iff.mpr ho)
  later := h.later

/-- New objects may be used. -/
theorem Gains.use (h : x.Gains y new) (hg : y.Gave cs z)
    (hc : ∀ c ∈ cs, c.Spares ∧ ∀ o ∈ c.uses, o ∈ new) : x.Gains z new := by
  obtain ⟨sound, same⟩ := h.sound.use hg fun c hm =>
    ⟨(hc c hm).1, fun o ho => h.alive.mem_iff.mpr (List.mem_append_left _ ((hc c hm).2 o ho))⟩
  exact ⟨sound, same ▸ h.alive, h.fresh, h.later.trans hg.later⟩

/-- New objects may be deleted again. -/
theorem Gains.delete (os : List Object) (h : x.Gains y (os ++ new)) (hg : y.Gave (deleteAll os) z) :
    x.Gains z new := by
  obtain ⟨sound, left⟩ := h.sound.delete hg (by rw [← List.append_assoc]; exact h.alive)
  exact ⟨sound, left, fun o ho => h.fresh o (List.mem_append_right _ ho), h.later.trans hg.later⟩

/-- A request that was granted gains its object, and the object is a new one, as its name is the
next of its kind. -/
theorem Gains.made {k : ObjectKind} {c : Command} {o : Handle k} (h : x.Gains y new)
    (ha : ContextM.Asked y k [c] z) (ho : o.name = y.requested k + 1)
    (hc : c.creates = some o.object) (hu : c.uses = []) : x.Gains z (o.object :: new) := by
  obtain ⟨sound, made⟩ := h.sound.made ha ho hc hu
  refine ⟨sound, made ▸ h.alive.cons _, fun o' hm => ?_, h.later.trans ha.later⟩
  rcases List.mem_cons.mp hm with rfl | hm
  · exact Nat.lt_of_le_of_lt (h.later.requested k) (by change _ < o.name; omega)
  · exact h.fresh o' hm

/-- A request that was refused gains nothing. -/
theorem Gains.refused {k : ObjectKind} (h : x.Gains y new) (ha : ContextM.Asked y k [] z) :
    x.Gains z new := by
  obtain ⟨sound, same⟩ := h.sound.refused ha
  exact ⟨sound, same ▸ h.alive, h.fresh, h.later.trans ha.later⟩

/-- Where something is left that was not there before, something was made. -/
theorem Gains.eq_nil (h : x.Gains y new) (hx : x.Sound)
    (hn : createdIn y.commands.toList = createdIn x.commands.toList) : new = [] := by
  refine List.eq_nil_iff_forall_not_mem.mpr fun o ho => ?_
  have there : o ∈ y.alive := h.alive.mem_iff.mpr (List.mem_append_left _ ho)
  have old : o ∈ createdIn x.commands.toList := hn ▸ mem_createdIn_of_alive there
  exact Nat.lt_irrefl _ ((h.fresh o ho).trans_le (hx.numbered o old))

end Context

end LitTiles.Gl
