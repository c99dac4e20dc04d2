import LitTiles.Proofs.Gl.Lifetimes
import LitTiles.Proofs.Gl.Plain
import LitTiles.Proofs.Gl.Quiet

/-!
# How large buffers are

A buffer has memory from when some is reserved for it, or contents are given, until it is deleted:
`Machine.sizesAfter` is the size of each buffer after some commands. An adapter reserves memory for
an instance buffer when it makes it, and never again. Whatever it does later leaves the size alone,
so that at any time each instance buffer has the size that it was made with
(`Session.stocked_serve`).
-/

namespace LitTiles.Gl

open Context ContextM AdapterM

/-- Sizes of buffers in bytes, as far as they have memory. -/
abbrev Sizes := Handle .buffer → Option Int

namespace Machine

/-- The buffer that is bound for a use. -/
def bufferAt (m : Machine) : BufferTarget → Option (Handle .buffer)
  | .vertices => m.vertices
  | .indices => m.bound.indices

/-- The buffer that is bound for a use gets a size. -/
def reserve (m : Machine) (target : BufferTarget) (size : Int) (sizes : Sizes) : Sizes :=
  match m.bufferAt target with
  | some b => Function.update sizes b (some size)
  | none => sizes

/-- Sizes after a command. -/
def resize (m : Machine) (sizes : Sizes) : Command → Sizes
  | .bufferSize target size _ => m.reserve target size.toInt sizes
  | .bufferData target bytes _ => m.reserve target bytes.length sizes
  | .delete .buffer b => Function.update sizes b none
  | _ => sizes

/-- Sizes after some commands. -/
def sizesAfter (m : Machine) (sizes : Sizes) : List Command → Sizes
  | [] => sizes
  | c :: cs => (m.apply c).sizesAfter (m.resize sizes c) cs

/-- The sizes after two blocks of commands. The second needs the state that the first has left, for
a size is given to the buffer that is bound. -/
theorem sizesAfter_append (m : Machine) (sizes : Sizes) (cs ds : List Command) :
    m.sizesAfter sizes (cs ++ ds) = (m.after cs).sizesAfter (m.sizesAfter sizes cs) ds := by
  induction cs generalizing m sizes with
  | nil => rfl
  | cons c cs ih => exact ih _ _

end Machine

/-- Sizes of buffers on a context. -/
def Context.sizes (x : Context) : Sizes := Machine.sizesAfter {} (fun _ => none) x.commands.toList

/-! ## What leaves sizes alone -/

/-- The command neither gives memory to a buffer nor deletes one. -/
@[simp] def Command.SparesMemory : Command → Prop
  | bufferSize _ _ _ | bufferData _ _ _ | delete .buffer _ => False
  | _ => True

/-- Commands that draw give no buffer a size. -/
theorem Command.Plain.sparesMemory {c : Command} (hc : c.Plain) : c.SparesMemory := by
  cases c with
  | bufferSize => exact hc.elim
  | bufferData => exact hc.elim
  | delete k o => exact hc.elim
  | _ => trivial

/-- Neither do those that make programs, textures and targets. -/
theorem Command.Builds.sparesMemory {c : Command} (hc : c.Builds) : c.SparesMemory := by
  cases c with
  | delete k o => cases k <;> trivial
  | _ => trivial

/-- The commands leave the size of a buffer alone, on whatever context. -/
def KeepsSize (b : Handle .buffer) (cs : List Command) : Prop :=
  ∀ (m : Machine) (sizes : Sizes), m.sizesAfter sizes cs b = sizes b

variable {b : Handle .buffer} {cs ds : List Command} {s s' : Session} {a : Adapter}
  {lost : List Object}

/-- Two lists that keep the size of a buffer, in a row. -/
theorem KeepsSize.append (h : KeepsSize b cs) (h' : KeepsSize b ds) : KeepsSize b (cs ++ ds) := by
  intro m sizes
  rw [Machine.sizesAfter_append, h', h]

theorem keepsSize_of_spares (b : Handle .buffer) (h : ∀ c ∈ cs, c.SparesMemory) :
    KeepsSize b cs := by
  induction cs with
  | nil => exact fun _ _ => rfl
  | cons c cs ih =>
    obtain ⟨hc, hcs⟩ := List.forall_mem_cons.mp h
    intro m sizes
    have same : m.resize sizes c = sizes := by
      cases c with
      | bufferSize => exact hc.elim
      | bufferData => exact hc.elim
      | delete k o => cases k <;> first | rfl | exact hc.elim
      | _ => rfl
    rw [Machine.sizesAfter, ih hcs, same]

/-- Filling the stream gives a size to the stream and to no other buffer. -/
theorem Adapter.keepsSize_fillStream (hb : b ≠ a.stream) (bytes : List UInt8) :
    KeepsSize b (a.fillStream bytes) := by
  intro m sizes
  exact Function.update_of_ne hb _ _

/-- A call that makes no objects gives memory to the buffer of lights and shadows alone. -/
theorem Adapter.keepsSize_commands (hb : b ≠ a.stream) {c : LitTiles.Command}
    (hc : a.commands c = .ok cs) :
    KeepsSize b cs :=
  commands_induction KeepsSize.append (fun plain => keepsSize_of_spares b fun c hc =>
    (plain c hc).sparesMemory)
    (keepsSize_fillStream hb) hc

/-! ## Instance buffers -/

theorem Adapter.mem_objects_of_entry {e : BufferId × InstanceBuffer} (he : e ∈ a.buffers) :
    e.2.buffer.object ∈ a.objects := by
  simp only [objects, List.mem_append, List.mem_map]
  exact .inl (.inl (.inl (.inr ⟨e, he, rfl⟩)))

/-- What an adapter asks for a buffer of so many instances. -/
def reservation (capacity : Nat) : Int :=
  (signedSize (max capacity 1 * SpriteInstance.stride)).toInt

namespace Adapter

/-- All that is made by the other calls is programs, textures and framebuffers. -/
theorem builds_execute {c : LitTiles.Command} {r : Except RenderError Unit} (hc : ¬ c.SparesObjects)
    (h : (execute c).Leads s r s') : s.context.Wrote Command.Builds s'.context := by
  cases c with
  | loadTexture t =>
    rcases leads_loadTexture h with ⟨e, -, -, rfl⟩ | ⟨-, made, y, hm, outcome⟩
    · exact .refl _
    have made := builds_createTexture _ _ _ _ _ _ _ _ hm
    rcases outcome with ⟨e, -, -, rfl⟩ | ⟨texture, -, -, -, gave⟩
    · exact made
    · exact made.trans (gave.wrote (by simp))
  | compileProgram name p =>
    obtain ⟨linked, y, hlink, outcome⟩ := leads_compileProgram h
    have wrote := (links_linkSource _ _ _ _ _ _ hlink).mono fun _ => Command.Links.builds
    rcases outcome with ⟨e, -, -, rfl⟩ | ⟨program, made, z, -, hm, outcome⟩
    · exact wrote
    have asked :=
      wrote.trans ((LinkedEffect.links_make _ _ _ _ _ _ hm).mono fun _ => Command.Links.builds)
    obtain ⟨effect, -, rfl, -⟩ := LinkedEffect.leads_make hm
    rcases outcome with ⟨e, he⟩ | ⟨effect, -, -, -, gave⟩
    · cases he
    · exact asked.trans (gave.wrote (by simp))
  | configureTargets surface sizes =>
    obtain ⟨y, ts, z, gave, built, gave', -⟩ := leads_configureTargets h
    have deleted : ∀ c ∈ s.adapter.deleteTargets, c.Builds :=
      List.forall_mem_flatMap.mpr fun t _ => by simp [RenderTarget.delete]
    -- target by target, up to the one that fails
    have all : ∀ {c : Capabilities} {sizes : List (SurfaceSize × Nat)} {x y : Context}
        {ts : List RenderTarget}
        {r : Except RenderError Unit}, Built c sizes x ts r y → x.Wrote Command.Builds y := by
      intro c sizes x y ts r built
      induction built with
      | done x => exact .refl x
      | failed hm => exact builds_renderTarget _ _ _ _ _ _ hm
      | next hm _ ih => exact (builds_renderTarget _ _ _ _ _ _ hm).trans ih
    exact ((gave.wrote deleted).trans (all built)).trans (gave'.wrote (by simp))
  | _ => exact absurd trivial hc

end Adapter

theorem Context.sizes_append {x y : Context} (h : y.commands.toList = x.commands.toList ++ cs) :
    y.sizes = (Machine.after {} x.commands.toList).sizesAfter x.sizes cs := by
  rw [sizes, h, Machine.sizesAfter_append]
  rfl

theorem Context.Wrote.sizes_eq {x y : Context} (h : x.Wrote Command.Builds y) :
    y.sizes = x.sizes := by
  obtain ⟨cs, hcs, builds⟩ := h
  funext b
  rw [sizes_append hcs]
  exact keepsSize_of_spares b (fun c hc => (builds c hc).sparesMemory) _ _

namespace Session

/-- Each instance buffer has the size that it was made with. -/
def Stocked (s : Session) : Prop :=
  ∀ e ∈ s.adapter.buffers, s.context.sizes e.2.buffer = some (reservation e.2.capacity)

variable {e e' : BufferId × InstanceBuffer}

/-- Lights and shadows have a buffer of their own. -/
theorem Holds.ne_stream (held : s.Holds lost) (he : e ∈ s.adapter.buffers) :
    e.2.buffer ≠ s.adapter.stream := by
  intro same
  obtain ⟨-, -, apart⟩ := List.nodup_append.mp held.nodup_objects
  refine apart e.2.buffer.object ?_ s.adapter.stream.object (by simp [Adapter.fixedObjects])
    (congrArg _ same)
  simp only [List.mem_append, List.mem_map]
  exact .inl (.inl (.inr ⟨e, he, rfl⟩))

/-- Two instance buffers are two objects. -/
theorem Holds.eq_of_buffer (held : s.Holds lost) (he : e ∈ s.adapter.buffers)
    (he' : e' ∈ s.adapter.buffers) (same : e.2.buffer = e'.2.buffer) : e = e' := by
  have nodup := held.nodup_objects
  simp only [Adapter.objects, List.append_assoc] at nodup
  have buffers := (List.nodup_append.mp (List.nodup_append.mp nodup).2.1).1
  exact List.inj_on_of_nodup_map buffers he he' (congrArg Handle.object same)

/-- A new buffer is given its size at once. The buffers from before are other ones, by
`Holds.eq_of_buffer`. -/
theorem Stocked.createBuffer {capacity : Nat} {r : Except RenderError BufferId} (h : s.Stocked)
    (held : s.Holds lost) (hl : (Adapter.createBuffer capacity).Leads s r s') : s'.Stocked := by
  obtain ⟨made, y, hm, outcome⟩ := Adapter.leads_createBuffer hl
  rcases leads_create hm with ⟨⟨reason, rfl⟩, asked, -⟩ | ⟨new, rfl, number, asked, -⟩
  · rcases outcome with ⟨e, -, -, rfl⟩ | ⟨b, hb, -⟩
    · intro e he
      rw [Context.sizes_append asked.commands]
      exact h e he
    · cases hb
  rcases outcome with ⟨e, he, -⟩ | ⟨b, hb, -, ha, gave⟩
  · cases he
  obtain rfl := Except.ok.inj hb
  have sizes : s'.context.sizes = Function.update s.context.sizes new
      (some (reservation capacity)) :=
    Context.sizes_append (asked.gave gave).commands
  intro e he
  rw [sizes]
  rw [ha] at he
  rcases List.mem_cons.mp he with rfl | he
  · exact Function.update_self ..
  · have he := List.mem_of_mem_filter he
    -- what is there was numbered before
    have old : e.2.buffer.name ≤ s.context.requested .buffer :=
      held.sound.number_le (o := e.2.buffer.object)
      (held.alive.mem_iff.mpr (List.mem_append_left _ (Adapter.mem_objects_of_entry he)))
    have other : e.2.buffer ≠ new := by
      rintro rfl
      omega
    rw [Function.update_of_ne other]
    exact h e he

/-- A buffer that is freed leaves the table, and the others keep their sizes. -/
theorem Stocked.freeBuffer {id : BufferId} {r : Except RenderError Unit} (h : s.Stocked)
    (held : s.Holds lost) (hl : (Adapter.freeBuffer id).Leads s r s') : s'.Stocked := by
  rcases Adapter.leads_freeBuffer hl with ⟨-, ha, gave⟩ | ⟨b, hb, ha, gave⟩
  · intro e he
    rw [ha] at he
    rw [Context.sizes_append gave.commands]
    exact h e he
  · intro e he
    rw [ha] at he
    obtain ⟨he, hkey⟩ := List.mem_filter.mp he
    have other : e.2.buffer ≠ b.buffer := by
      intro same
      obtain rfl := held.eq_of_buffer he (mem_of_lookup hb) same
      exact bne_iff_ne.mp hkey rfl
    rw [Context.sizes_append gave.commands]
    exact (Function.update_of_ne other _ _).trans (h e he)

/-- Commands never change the size of an instance buffer: what they write goes into the size that is
there. -/
theorem Stocked.execute {c : LitTiles.Command} {r : Except RenderError Unit} (h : s.Stocked)
    (held : s.Holds lost) (hl : (Adapter.execute c).Leads s r s') : s'.Stocked := by
  obtain ⟨buffers, -⟩ := execute_buffers hl
  intro e he
  rw [buffers] at he
  refine Eq.trans ?_ (h e he)
  by_cases hc : c.SparesObjects
  · obtain ⟨-, -, gave⟩ := Adapter.leads_execute_of_spares hc hl
    rw [Context.sizes_append gave.commands]
    cases known : s.adapter.commands c with
    | error e => rfl
    | ok cs => exact Adapter.keepsSize_commands (held.ne_stream he) known _ _
  · exact congrFun (Adapter.builds_execute hc hl).sizes_eq _

/-- **No call changes the size of an instance buffer.** -/
theorem Stocked.perform (h : s.Stocked) (held : s.Holds lost) (c : Call) :
    (s.perform c).2.Stocked := by
  cases c with
  | createBuffer capacity => exact h.createBuffer held (s.leads_createBuffer capacity)
  | freeBuffer id =>
    obtain ⟨r, hl⟩ := s.leads_freeBuffer id
    exact h.freeBuffer held hl
  | issue c => exact h.execute held (s.leads_issue c)

/-- So each has the size that it was made with, at any time. -/
theorem stocked_serve {interface : Interface} {size : SurfaceSize} {host : Host}
    (hs : Session.start interface size { host := host } = .ok s) (calls : List Call) :
    (s.serve calls).Stocked := by
  induction calls using List.reverseRecOn with
  | nil =>
    obtain ⟨-, -, -, none_yet⟩ := holds_start hs
    intro e he
    rw [serve_nil, none_yet] at he
    cases he
  | append_singleton calls c ih =>
    obtain ⟨lost, held⟩ := exists_holds hs calls
    rw [serve_append]
    exact ih.perform held c

end Session

end LitTiles.Gl
