import Mathlib.Algebra.Order.Group.Multiset
import Mathlib.Tactic.Abel
import LitTiles.Proofs.Backend.History
import LitTiles.Proofs.Wgpu.Conduct
import LitTiles.Proofs.Table
import LitTiles.Proofs.Wgpu.Flawless

/-!
# The stock of buffers

An adapter makes buffers and drops them. What it holds (`Adapter.held`) is its stock, and the books
balance: what was held before and what was made since are what was dropped since and what is held
now. All buffers that are made are new. From one state of a platform to the other there was a
`Trade` if this is so, and if the window system was told nothing but that a frame is about to be
presented.

* Connecting is a trade of nothing for the stock of an adapter, and for nothing if it fails
  (`Session.trade_connect`).
* Whatever is run on a session is a trade of one stock for another (`Session.trades_run`).
* Closing is a trade of the stock for nothing (`Session.trade_close`).
-/

namespace LitTiles

open Wgpu

namespace Happening

/-- The buffer that was made. -/
def made? : Happening → Option (Handle .buffer)
  | .device (.createBuffer b _ _ _) | .device (.createFilledBuffer b _ _ _) => some b
  | _ => none

/-- The buffer that was dropped. -/
def dropped? : Happening → Option (Handle .buffer)
  | .device (.dropBuffer b) => some b
  | _ => none

/-- Something that may happen while a script is run on a session. -/
def IsInner : Happening → Prop
  | .device _ | .record _ | .window (.aboutToPresent _) => True
  | _ => False

/-- No happening both makes and drops a buffer. -/
theorem dropped_eq_none_of_made {e : Happening} {b : Handle .buffer} (he : e.made? = some b) :
    e.dropped? = none := by
  unfold made? at he
  split at he
  · rfl
  · rfl
  · cases he

/-- What is not about buffers makes and drops none. -/
theorem Within.plain {cs : List Concern} {e : Happening} (he : e.Within cs) (hc : .buffer ∉ cs) :
    e.made? = none ∧ e.dropped? = none ∧ e.IsInner := by
  cases e with
  | device c => cases c <;> first | exact absurd he hc | exact ⟨rfl, rfl, trivial⟩
  | record r => exact ⟨rfl, rfl, trivial⟩
  | window c => cases he
  | turn t => cases he

end Happening

/-- The buffers that were made, in order. -/
def buffersMade (h : List Happening) : List (Handle .buffer) := h.filterMap Happening.made?

/-- The buffers that were dropped, in order. -/
def buffersDropped (h : List Happening) : List (Handle .buffer) := h.filterMap Happening.dropped?

@[simp] theorem buffersMade_append (h h' : List Happening) :
    buffersMade (h ++ h') = buffersMade h ++ buffersMade h' :=
  List.filterMap_append

@[simp] theorem buffersDropped_append (h h' : List Happening) :
    buffersDropped (h ++ h') = buffersDropped h ++ buffersDropped h' :=
  List.filterMap_append

/-! ## Platforms -/

namespace Platform

variable {p p' p₁ p₂ : Platform} {held old mid new rest : Multiset (Handle .buffer)}
  {more more' : List Happening} {cs : List Concern} {b : Handle .buffer} {e : Happening}

/-- From one state of a platform to the other one stock became another one: the books balance, and
all buffers that were made are new. -/
structure Trade (p : Platform) (old : Multiset (Handle .buffer)) (more : List Happening)
    (new : Multiset (Handle .buffer)) (p' : Platform) : Prop where
  /-- What happened. -/
  history : p'.history.toList = p.history.toList ++ more
  /-- None of it is a turn, or a command to the window system other than that a frame is about to be
  presented. -/
  inner : ∀ e ∈ more, e.IsInner
  /-- What was held and made was dropped, or is held. -/
  balance : old + ↑(buffersMade more) = ↑(buffersDropped more) + new
  /-- No buffer was made twice. -/
  once : (buffersMade more).Nodup
  /-- Buffers that are made get new numbers. -/
  fresh : ∀ b ∈ buffersMade more, p.made .buffer < b.number ∧ b.number ≤ p'.made .buffer
  /-- Numbers are never taken back. -/
  made : p.made .buffer ≤ p'.made .buffer

/-- What neither makes nor drops a buffer is a trade of every stock for itself. -/
theorem trade_plain (history : p'.history.toList = p.history.toList ++ more)
    (plain : ∀ e ∈ more, e.made? = none ∧ e.dropped? = none ∧ e.IsInner)
    (made : p.made .buffer ≤ p'.made .buffer) (held : Multiset (Handle .buffer)) :
    p.Trade held more held p' := by
  have none_made : buffersMade more = [] := List.filterMap_eq_nil_iff.mpr fun e he => (plain e he).1
  have none_dropped : buffersDropped more = [] :=
    List.filterMap_eq_nil_iff.mpr fun e he => (plain e he).2.1
  refine ⟨history, fun e he => (plain e he).2.2, ?_, ?_, ?_, made⟩
  · rw [none_made, none_dropped, Multiset.coe_nil, add_zero, zero_add]
  · rw [none_made]
    exact List.nodup_nil
  · rw [none_made]
    exact List.forall_mem_nil _

/-- Nothing happened, and the stock is the same. -/
theorem trade_nil (p : Platform) (held : Multiset (Handle .buffer)) : p.Trade held [] held p :=
  trade_plain (List.append_nil _).symm (List.forall_mem_nil _) (Nat.le_refl _) held

/-- A happening that neither makes nor drops a buffer leaves every stock as it is. -/
theorem trade_add (p : Platform) (he : e.made? = none ∧ e.dropped? = none ∧ e.IsInner)
    (held : Multiset (Handle .buffer)) : p.Trade held [e] held (p.add e) := by
  refine trade_plain (Array.toList_push ..) (List.forall_mem_singleton.mpr he) ?_ held
  exact Nat.le_refl _

/-- A computation that is confined to other things than buffers trades any stock for itself. This is
how the results about concerns enter here. -/
theorem Saw.trade (h : p.Saw cs p') (hc : .buffer ∉ cs) (held : Multiset (Handle .buffer)) :
    ∃ more, p.Trade held more held p' := by
  obtain ⟨more, history, within⟩ := h.history
  exact ⟨more, trade_plain history (fun e he => (within e he).plain hc) (h.made .buffer) held⟩

/-- Trades compose. That the buffers made in the second are new ones is where the counter is needed:
those of the first have numbers up to it. -/
theorem Trade.trans (h : p.Trade old more mid p₁) (h' : p₁.Trade mid more' new p₂) :
    p.Trade old (more ++ more') new p₂ where
  history := by rw [h'.history, h.history, List.append_assoc]
  inner := List.forall_mem_append.mpr ⟨h.inner, h'.inner⟩
  balance := by
    rw [buffersMade_append, buffersDropped_append, ← Multiset.coe_add, ← Multiset.coe_add,
      ← add_assoc, h.balance, add_assoc, h'.balance, add_assoc]
  once := by
    rw [buffersMade_append, List.nodup_append]
    refine ⟨h.once, h'.once, fun a ha b hb hab => ?_⟩
    have before := (h.fresh a ha).2
    have after := (h'.fresh b hb).1
    rw [hab] at before
    omega
  fresh := by
    rw [buffersMade_append]
    refine List.forall_mem_append.mpr ⟨fun b hb => ?_, fun b hb => ?_⟩
    · exact ⟨(h.fresh b hb).1, Nat.le_trans (h.fresh b hb).2 h'.made⟩
    · exact ⟨Nat.lt_of_le_of_lt h.made (h'.fresh b hb).1, (h'.fresh b hb).2⟩
  made := Nat.le_trans h.made h'.made

/-- Commands that make no buffers may drop some. -/
theorem trade_addAll (p : Platform) (ds : List Wgpu.Command)
    (hm : buffersMade (ds.map .device) = []) (rest : Multiset (Handle .buffer)) :
    p.Trade (↑(buffersDropped (ds.map .device)) + rest) (ds.map .device) rest (p.addAll ds) where
  history := by simp [addAll]
  inner := List.forall_mem_map.mpr fun _ _ => trivial
  balance := by rw [hm, Multiset.coe_nil, add_zero]
  once := hm ▸ List.nodup_nil
  fresh := by
    rw [hm]
    exact List.forall_mem_nil _
  made := Nat.le_refl _

/-- A buffer is made. -/
theorem trade_make (p : Platform) {command : Handle .buffer → Wgpu.Command}
    (hc : ∀ b, (Happening.device (command b)).made? = some b) (rest : Multiset (Handle .buffer)) :
    p.Trade rest [.device (command (p.fresh .buffer).1)] ({(p.fresh .buffer).1} + rest)
      ((p.fresh .buffer).2.add (.device (command (p.fresh .buffer).1))) := by
  have only : buffersMade [.device (command (p.fresh .buffer).1)] = [(p.fresh .buffer).1] := by
    rw [buffersMade, List.filterMap_cons_some (hc _)]
    rfl
  have number : ((p.fresh .buffer).2.add (.device (command (p.fresh .buffer).1))).made .buffer =
      p.made .buffer + 1 := by
    simp [add, Platform.fresh]
  refine ⟨Array.toList_push .., List.forall_mem_singleton.mpr trivial, ?_, ?_, ?_, ?_⟩
  · rw [only, buffersDropped, List.filterMap_cons_none (Happening.dropped_eq_none_of_made (hc _)),
      List.filterMap_nil, Multiset.coe_nil, zero_add, Multiset.coe_singleton, add_comm]
  · rw [only]
    exact List.nodup_singleton _
  · rw [only, number]
    exact List.forall_mem_singleton.mpr ⟨Nat.lt_succ_self _, Nat.le_refl _⟩
  · rw [number]
    exact Nat.le_succ _

/-- The books of a platform: what was made so far was dropped, or is held. -/
structure Books (p : Platform) (held : Multiset (Handle .buffer)) : Prop where
  /-- What was made is numbered. -/
  numbered : ∀ b ∈ buffersMade p.history.toList, b.number ≤ p.made .buffer
  /-- No buffer was made twice. -/
  once : (buffersMade p.history.toList).Nodup
  /-- The books balance. -/
  balance : (↑(buffersMade p.history.toList) : Multiset (Handle .buffer)) =
    ↑(buffersDropped p.history.toList) + held

/-- A trade keeps the books, next to a remainder that is not touched by it. -/
theorem Books.trade (h : p.Books (old + rest)) (t : p.Trade old more new p') :
    p'.Books (new + rest) where
  numbered := by
    rw [t.history, buffersMade_append]
    exact List.forall_mem_append.mpr ⟨fun b hb => Nat.le_trans (h.numbered b hb) t.made, fun b hb =>
      (t.fresh b hb).2⟩
  once := by
    rw [t.history, buffersMade_append, List.nodup_append]
    refine ⟨h.once, t.once, fun a ha b hb hab => ?_⟩
    have before := h.numbered a ha
    have after := (t.fresh b hb).1
    rw [hab] at before
    omega
  balance := by
    rw [t.history, buffersMade_append, buffersDropped_append, ← Multiset.coe_add,
      ← Multiset.coe_add, h.balance, add_assoc, add_right_comm old, t.balance]
    abel

/-- The books are kept under whatever neither makes nor drops a buffer. -/
theorem Books.add (h : p.Books held) (he : e.made? = none ∧ e.dropped? = none) :
    (p.add e).Books held := by
  have history : (p.add e).history.toList = p.history.toList ++ [e] := Array.toList_push ..
  have none_made : buffersMade [e] = [] := List.filterMap_cons_none he.1
  have none_dropped : buffersDropped [e] = [] := List.filterMap_cons_none he.2
  constructor
  · rw [history, buffersMade_append, none_made, List.append_nil]
    exact h.numbered
  · rw [history, buffersMade_append, none_made, List.append_nil]
    exact h.once
  · rw [history, buffersMade_append, buffersDropped_append, none_made, none_dropped,
      List.append_nil, List.append_nil]
    exact h.balance

end Platform

/-! ## Computations on a platform -/

namespace PlatformM

variable {α β : Type} {cs : List Concern} {old : Multiset (Handle .buffer)}
  {new : α → Multiset (Handle .buffer)} {new' : β → Multiset (Handle .buffer)} {m : PlatformM α}
    {f : α → PlatformM β}

/-- The computation has an answer, and trades a stock for one that the answer holds. -/
def Supplies (old : Multiset (Handle .buffer)) (new : α → Multiset (Handle .buffer))
    (m : PlatformM α) : Prop :=
  ∀ p r p', m.Leads p r p' → ∃ v more, r = .ok v ∧ p.Trade old more (new v) p'

/-- A value holds the stock that was there. -/
theorem supplies_pure {v : α} (hv : old = new v) : (pure v : PlatformM α).Supplies old new := by
  intro p r p' h
  obtain ⟨rfl, rfl⟩ := leads_pure h
  exact ⟨v, [], rfl, hv ▸ p'.trade_nil old⟩

/-- The rule of sequencing: the stock that the first value holds is the one that the rest begins
with. -/
theorem Supplies.bind (hm : m.Supplies old new) (hf : ∀ v, (f v).Supplies (new v) new') :
    (m >>= f).Supplies old new' := by
  intro p r p' h
  rcases leads_bind h with ⟨e, -, h⟩ | ⟨v, p₁, h, h'⟩
  · obtain ⟨v, more, hv, -⟩ := hm _ _ _ h
    cases hv
  · obtain ⟨v', more, hv, trade⟩ := hm _ _ _ h
    obtain rfl := Except.ok.inj hv
    obtain ⟨w, more', hw, trade'⟩ := hf v _ _ _ h'
    exact ⟨w, more ++ more', hw, trade.trans trade'⟩

/-- Reading the platform trades nothing. -/
theorem supplies_get_bind {f : Platform → PlatformM α} (hf : ∀ p, (f p).Supplies old new) :
    ((get : PlatformM Platform) >>= f).Supplies old new :=
  fun p _ _ h => hf p _ _ _ (leads_get_bind h)

/-- A command about objects other than buffers. -/
theorem supplies_give {c : Wgpu.Command} (hc : c.concern = .object) :
    (give c).Supplies old fun _ => old := by
  intro p r p' h
  have confined : (give c).Confined [.object] := confined_give (List.mem_singleton.mpr hc)
  obtain ⟨more, trade⟩ := (confined _ _ _ h).trade (by decide) old
  obtain ⟨rfl, rfl⟩ := Prod.mk.inj h
  exact ⟨_, more, rfl, trade⟩

/-- Dropping takes one buffer out of the stock. -/
theorem supplies_dropBuffer (b : Handle .buffer) (old : Multiset (Handle .buffer)) :
    (give (.dropBuffer b)).Supplies ({b} + old) fun _ => old := by
  intro p r p' h
  obtain ⟨rfl, rfl⟩ := Prod.mk.inj h
  have trade : p.Trade ({b} + old) [.device (.dropBuffer b)] old (p.addAll [.dropBuffer b]) :=
    p.trade_addAll [.dropBuffer b] rfl old
  rw [p.addAll_singleton] at trade
  exact ⟨_, _, rfl, trade⟩

theorem supplies_say (severity : Severity) (speaker : Speaker) (text : String) :
    (say severity speaker text).Supplies old fun _ => old := by
  intro p r p' h
  obtain ⟨rfl, rfl⟩ := Prod.mk.inj h
  exact ⟨_, _, rfl, p.trade_add (by exact ⟨rfl, rfl, trivial⟩) old⟩

/-- Making an object that is no buffer. -/
theorem supplies_make {k : ObjectKind} {command : Handle k → Wgpu.Command}
    (hc : ∀ o, (command o).concern = .object) :
    (make command).Supplies old fun _ => old := by
  intro p r p' h
  have confined : (make command).Confined [.object] :=
    confined_make fun o => List.mem_singleton.mpr (hc o)
  obtain ⟨more, trade⟩ := (confined _ _ _ h).trade (by decide) old
  obtain ⟨rfl, rfl⟩ := Prod.mk.inj h
  exact ⟨_, more, rfl, trade⟩

/-- Making a buffer puts it into the stock. It is the only rule that adds to one. -/
theorem supplies_makeBuffer {command : Handle .buffer → Wgpu.Command}
    (hc : ∀ b, (Happening.device (command b)).made? = some b) :
    (make command).Supplies old fun b => {b} + old := by
  intro p r p' h
  obtain ⟨rfl, rfl⟩ := Prod.mk.inj h
  exact ⟨_, _, rfl, p.trade_make hc old⟩

/-- The computation trades nothing for what its answer holds, and nothing for nothing if it
fails. -/
def Furnishes (new : α → Multiset (Handle .buffer)) (m : PlatformM α) : Prop :=
  ∀ p r p', m.Leads p r p' → ∃ more, p.Trade 0 more (r.toOption.elim 0 new) p'

/-- A supply that starts from nothing and cannot fail furnishes. -/
theorem Supplies.furnishes (hm : m.Supplies 0 new) : m.Furnishes new := by
  intro p r p' h
  obtain ⟨v, more, rfl, trade⟩ := hm _ _ _ h
  exact ⟨more, trade⟩

/-- What has nothing to do with buffers may stand first and may fail, since up to there nothing is
held. -/
theorem Confined.furnishes_bind (hm : m.Confined cs) (hc : .buffer ∉ cs)
    (hf : ∀ v, (f v).Furnishes new') :
    (m >>= f).Furnishes new' := by
  intro p r p' h
  rcases leads_bind h with ⟨e, rfl, failed⟩ | ⟨v, p₁, h, h'⟩
  · exact (hm _ _ _ failed).trade hc 0
  · obtain ⟨more, trade⟩ := (hm _ _ _ h).trade hc 0
    obtain ⟨more', trade'⟩ := hf v _ _ _ h'
    exact ⟨more ++ more', trade.trans trade'⟩

end PlatformM

namespace Wgpu

/-- The buffers that an adapter always has. -/
def Adapter.fixtures (a : Adapter) : Multiset (Handle .buffer) :=
  {a.corners.buffer} + {a.indices.buffer} + {a.camera} + {a.uniforms.buffer} + {a.lights.buffer} +
    {a.shadows.buffer}

/-- The buffers of an adapter. -/
def Adapter.held (a : Adapter) : Multiset (Handle .buffer) :=
  a.fixtures + ↑(a.buffers.map (·.2.buffer))

/-- The buffer of the corners is always among those held, so that an adapter never holds none. -/
theorem Adapter.corners_mem_held (a : Adapter) : a.corners.buffer ∈ a.held := by
  simp [held, fixtures]

section OnPlatform

open PlatformM

variable {rest : Multiset (Handle .buffer)}

/-- An arena drops its buffer if it needs another one. -/
theorem supplies_push (arena : FrameArena) (bytes : List UInt8) :
    (arena.push bytes).Supplies ({arena.buffer} + rest) fun r => {r.2.buffer} + rest := by
  unfold FrameArena.push
  have answered : ∀ b : Handle .buffer,
      (pure b : PlatformM (Handle .buffer)).Supplies ({b} + rest) fun b => {b} + rest :=
      fun _ => supplies_pure rfl
  obtain ⟨offset, grown, after⟩ := arena.arena.push bytes.length
  cases grown with
  | none =>
    exact (answered _).bind fun _ => (supplies_give (by rfl)).bind fun _ => supplies_pure rfl
  | some capacity =>
    refine (supplies_say _ _ _).bind fun _ => (supplies_makeBuffer fun _ => rfl).bind fun b => ?_
    have dropped := supplies_dropBuffer arena.buffer ({b} + rest)
    rw [add_left_comm] at dropped
    exact dropped.bind fun _ => (answered b).bind fun _ => (supplies_give (by rfl)).bind fun _ =>
      supplies_pure rfl

/-- A new arena holds the one buffer it was made with. -/
theorem supplies_arena (label : String) (use : BufferUse) (capacity alignment : Nat) :
    (FrameArena.make label use capacity alignment).Supplies rest fun a => {a.buffer} + rest :=
  (supplies_makeBuffer fun _ => rfl).bind fun _ => supplies_pure rfl

/-- The empty view is made without buffers. -/
theorem supplies_makeEmptyView : makeEmptyView.Supplies rest fun _ => rest := by
  refine (supplies_make fun _ => rfl).bind fun _ => (supplies_give (by rfl)).bind fun _ => ?_
  exact (supplies_make fun _ => rfl).bind fun _ => (supplies_give (by rfl)).bind fun _ =>
    supplies_pure rfl

namespace Adapter

/-- A filled buffer is one buffer more. -/
theorem supplies_filledBuffer (label : String) (bytes : List UInt8) (use : BufferUse) :
    (filledBuffer label bytes use).Supplies rest fun s => {s.buffer} + rest :=
  (supplies_makeBuffer fun _ => rfl).bind fun _ => supplies_pure rfl

/-- **An adapter starts with the buffers that were made for it; if it cannot be made, no buffer
was.** -/
theorem furnishes_connect (size : SurfaceSize) (o : DeviceOptions) :
    (connect size o).Furnishes fun a => a.held := by
  have object : Concern.object ∈ [Concern.surface, .object] := by decide
  have bufferless : Concern.buffer ∉ [Concern.surface, .object] := by decide
  refine (confined_openDevice (by decide) object size o).furnishes_bind bufferless fun config => ?_
  refine (confined_layouts object).furnishes_bind bufferless fun layouts => ?_
  refine (confined_makePipeline object _ _ _ _ _ _).furnishes_bind bufferless fun _ => ?_
  refine (confined_makePipeline object _ _ _ _ _ _).furnishes_bind bufferless fun _ => ?_
  refine (confined_makePipeline object _ _ _ _ _ _).furnishes_bind bufferless fun _ => ?_
  refine (confined_makePipeline object _ _ _ _ _ _).furnishes_bind bufferless fun _ => ?_
  -- what is left cannot fail
  refine Supplies.furnishes ?_
  refine (supplies_filledBuffer _ _ _).bind fun _ => (supplies_filledBuffer _ _ _).bind fun _ => ?_
  refine (supplies_makeBuffer fun _ => rfl).bind fun _ =>
    (supplies_make fun _ => rfl).bind fun _ => ?_
  refine supplies_get_bind fun _ => (supplies_arena _ _ _ _).bind fun _ =>
    (supplies_arena _ _ _ _).bind fun _ => ?_
  refine (supplies_arena _ _ _ _).bind fun _ => (supplies_make fun _ => rfl).bind fun _ => ?_
  refine (supplies_make fun _ => rfl).bind fun _ =>
    supplies_makeEmptyView.bind fun _ => supplies_pure ?_
  simp only [held, fixtures, List.map_nil, Multiset.coe_nil, add_zero]
  abel

end Adapter

end OnPlatform

/-! ## Adapters -/

namespace Adapter

/-- With another arena for the uniforms, its buffer is held in place of the old one. The three
equations of this shape are what pushing into an arena needs. -/
theorem held_uniforms (a : Adapter) (x : FrameArena) : { a with uniforms := x }.held = {x.buffer} +
    ({a.corners.buffer} + {a.indices.buffer} + {a.camera} + {a.lights.buffer} + {a.shadows.buffer} +
      ↑(a.buffers.map (·.2.buffer))) := by
  rw [held, fixtures]
  abel

theorem held_lights (a : Adapter) (x : FrameArena) : { a with lights := x }.held = {x.buffer} +
    ({a.corners.buffer} + {a.indices.buffer} + {a.camera} + {a.uniforms.buffer} +
      {a.shadows.buffer} +
      ↑(a.buffers.map (·.2.buffer))) := by
  rw [held, fixtures]
  abel

theorem held_shadows (a : Adapter) (x : FrameArena) : { a with shadows := x }.held = {x.buffer} +
    ({a.corners.buffer} + {a.indices.buffer} + {a.camera} + {a.uniforms.buffer} +
      {a.lights.buffer} +
      ↑(a.buffers.map (·.2.buffer))) := by
  rw [held, fixtures]
  abel

/-- No instance buffer has the number of another one. -/
def Keyed (a : Adapter) : Prop := (a.buffers.map (·.1)).Nodup

/-- The part of an adapter that buffers are kept in. -/
def stock (a : Adapter) : Multiset (Handle .buffer) × List BufferId := (a.held, a.buffers.map (·.1))

/-- The buffers of an adapter are an instance buffer, and the others. -/
theorem Keyed.held_eq {a : Adapter} (h : a.Keyed) (id : BufferId) :
    a.held = ↑((a.buffers.lookup id).map (·.buffer)).toList +
      (a.fixtures + ↑((a.buffers.filter (·.1 != id)).map (·.2.buffer))) := by
  have split := LitTiles.Keyed.map_perm h id InstanceBuffer.buffer
  rw [held, add_left_comm, Multiset.coe_add]
  exact congrArg (a.fixtures + ·) (Multiset.coe_eq_coe.mpr split)

/-- Names stay distinct when a buffer is taken out. -/
theorem Keyed.filter {a : Adapter} (h : a.Keyed) (id : BufferId) :
    ((a.buffers.filter (·.1 != id)).map (·.1)).Nodup := h.sublist (List.filter_sublist.map _)

/-- To drop an instance buffer, if there is one, makes no buffers and drops this one. -/
theorem drop_instances (o : Option InstanceBuffer) :
    buffersMade ((o.map fun old => Command.dropBuffer old.buffer).toList.map .device) = [] ∧
      buffersDropped ((o.map fun old => Command.dropBuffer old.buffer).toList.map .device) =
        (o.map (·.buffer)).toList := by
  cases o <;> exact ⟨rfl, rfl⟩

end Adapter

/-- What commands are about, if not buffers. -/
def Concern.bufferless : List Concern := [.surface, .frame, .pass, .object]

/-- From one state of a session to the other its stock was traded. -/
structure Session.Trades (s : Session) (more : List Happening) (s' : Session) : Prop where
  /-- The window is the same. -/
  window : s'.window = s.window
  /-- Instance buffers are told apart. -/
  keyed : s'.adapter.Keyed
  /-- The books balance. -/
  trade : s.platform.Trade s.adapter.held more s'.adapter.held s'.platform

/-- Trades of sessions compose: the stocks, the window that stays, and the distinct names. -/
theorem Session.Trades.trans {s t s' : Session} {more more' : List Happening} (h : s.Trades more t)
    (h' : t.Trades more' s') : s.Trades (more ++ more') s' :=
  ⟨h'.window.trans h.window, h'.keyed, h.trade.trans h'.trade⟩

namespace AdapterM

variable {α β : Type} {m : AdapterM α} {f : α → AdapterM β}

/-- The computation trades the stock of an adapter. -/
def Trades (m : AdapterM α) : Prop :=
  ∀ s r s', s.adapter.Keyed → m.Leads s r s' → ∃ more, s.Trades more s'

/-- A computation of the adapter that is confined to other things than buffers, and that keeps the
stock, trades it for itself. -/
theorem Confined.trades (hm : ∀ v, m.Confined Concern.bufferless Adapter.stock v) : m.Trades := by
  intro s r s' keyed h
  obtain ⟨same, saw⟩ := hm _ _ _ _ rfl h
  obtain ⟨held, keys⟩ := Prod.mk.inj same
  obtain ⟨more, trade⟩ := saw.trade (by decide) s.adapter.held
  have window : s'.window = s.window := (congrArg (·.2.window) h).symm
  exact ⟨more, window, (congrArg List.Nodup keys).mpr keyed, held.symm ▸ trade⟩

theorem trades_pure (v : α) : (pure v : AdapterM α).Trades := by
  intro s r s' keyed h
  obtain ⟨-, rfl⟩ := leads_pure h
  exact ⟨[], rfl, keyed, s'.platform.trade_nil _⟩

theorem trades_throw (e : RenderError) : (throw e : AdapterM α).Trades := by
  intro s r s' keyed h
  obtain ⟨-, rfl⟩ := leads_throw h
  exact ⟨[], rfl, keyed, s'.platform.trade_nil _⟩

/-- Reading the adapter trades nothing, and the rest has to trade for every adapter. -/
theorem trades_get_bind {f : Adapter → AdapterM β} (hf : ∀ a, (f a).Trades) :
    ((get : AdapterM Adapter) >>= f).Trades :=
  fun s _ _ keyed h => hf s.adapter _ _ _ keyed (leads_get_bind h)

/-- Outside of a frame nothing is done, and inside it is what the computation does. -/
theorem trades_inFrame {m : Frame → AdapterM Unit} (hm : ∀ f, (m f).Trades) :
    (Adapter.inFrame m).Trades := by
  refine trades_get_bind fun a => ?_
  cases a.frame with
  | none => exact trades_pure _
  | some f => exact hm f

/-- A push to an arena may trade its buffer for another one; what follows trades nothing. -/
theorem trades_push_bind {s s' : Session} {r : Except RenderError Unit} {arena : FrameArena}
    {bytes : List UInt8} {k : Slice → AdapterM Unit} {put : FrameArena → Adapter}
    {others : Multiset (Handle .buffer)} (held : ∀ x, (put x).held = {x.buffer} + others)
    (same : put arena = s.adapter) (keyed : ∀ x, (put x).Keyed)
    (hk : ∀ slice v, (k slice).Confined Concern.bufferless Adapter.stock v)
    (h : (onPlatform (arena.push bytes) >>= fun r => set (put r.2) >>= fun _ =>
      k r.1).Leads s r s') :
    ∃ more, s.Trades more s' := by
  have supplied : (arena.push bytes).Supplies ({arena.buffer} + others) fun r =>
      {r.2.buffer} + others :=
    supplies_push arena bytes
  rcases leads_bind h with ⟨e, -, hp⟩ | ⟨⟨slice, x⟩, t, hp, h⟩
  · obtain ⟨-, hp⟩ := leads_onPlatform hp
    obtain ⟨v, more, hv, -⟩ := supplied _ _ _ hp
    cases hv
  · have window : t.window = s.window := (congrArg (·.2.window) hp).symm
    obtain ⟨-, hp⟩ := leads_onPlatform hp
    obtain ⟨v, more, hv, trade⟩ := supplied _ _ _ hp
    obtain rfl := Except.ok.inj hv
    rw [← held arena, same] at trade
    have pushed : s.Trades more { t with adapter := put x } :=
      ⟨window, keyed x, (held x).symm ▸ trade⟩
    obtain ⟨more', after⟩ := Confined.trades (hk slice) _ _ _ pushed.keyed (leads_set_bind h)
    exact ⟨more ++ more', pushed.trans after⟩

end AdapterM

namespace Adapter

open AdapterM

/-- A light is pushed into its arena, which is the only way a draw can come to another buffer. -/
theorem trades_drawLight (target : Target) (light : LightInstance) :
    (drawLight target light).Trades :=
  trades_inFrame fun f s _ _ keyed h =>
    trades_push_bind (held_lights s.adapter) rfl (fun _ => keyed)
    (fun slice _ => confined_lightPass (by decide) s.adapter f target slice) (leads_get_bind h)

/-- Shadows likewise, from their own arena. -/
theorem trades_drawShadows (target : Target) (triangles : List Vec2) :
    (drawShadows target triangles).Trades := by
  refine trades_inFrame fun f => ?_
  split
  · exact trades_pure _
  · exact fun s _ _ keyed h => trades_push_bind (held_shadows s.adapter) rfl (fun _ => keyed)
      (fun slice _ => confined_shadowPass (by decide) s.adapter f target slice triangles.length)
        (leads_get_bind h)

/-- The uniforms of an effect are pushed before the rest of it, which is confined. -/
theorem trades_runProgram (name : String) (inputs : List Nat) (output : Target)
    (uniforms : List Scalar) (clear : Option Color) :
    (runProgram name inputs output uniforms clear).Trades := by
  refine trades_get_bind fun a => ?_
  cases a.programs.lookup name with
  | none => exact trades_throw _
  | some p =>
    exact trades_inFrame fun f s _ _ keyed h =>
      trades_push_bind (held_uniforms s.adapter) rfl (fun _ => keyed)
      (fun slice _ => confined_programPass (by decide) (by decide) s.adapter f name p inputs output
        ((clear.map Load.clear).getD .keep) slice) (leads_get_bind h)

/-- A new instance buffer takes the place of the one of the same number. -/
theorem trades_createBuffer (capacity : Nat) : (createBuffer capacity).Trades := by
  intro s r s' keyed h
  let a := s.adapter
  let id : BufferId := ⟨a.nextBuffer⟩
  let new := (s.platform.fresh .buffer).1
  let create (b : Handle .buffer) :=
    Command.createBuffer b "tessera instance buffer" (instanceBytes capacity)
      { vertex := true, written := true }
  -- the buffer is created first, then whatever stood under its id is dropped
  let made := (s.platform.fresh .buffer).2.add (.device (create new))
  let rest := a.fixtures + ↑((a.buffers.filter (·.1 != id)).map (·.2.buffer))
  obtain ⟨rfl, rfl⟩ := Prod.mk.inj h
  obtain ⟨none_made, one_dropped⟩ := drop_instances (a.buffers.lookup id)
  have trade := made.trade_addAll _ none_made ({new} + rest)
  -- what is held, with the buffer under this id taken apart
  have split : {new} + a.held = ↑((a.buffers.lookup id).map (·.buffer)).toList +
      ({new} + rest) := by
    rw [keyed.held_eq id, add_left_comm]
  rw [one_dropped, ← split] at trade
  have held : ({new} + rest : Multiset (Handle .buffer)) =
      a.fixtures + ↑(new :: (a.buffers.filter (·.1 != id)).map (·.2.buffer)) := by
    rw [← Multiset.cons_coe, ← Multiset.singleton_add, add_left_comm]
  refine ⟨_, rfl, ?_, held ▸ (s.platform.trade_make (fun b => rfl) a.held).trans trade⟩
  refine List.nodup_cons.mpr ⟨fun hid => ?_, keyed.filter id⟩
  obtain ⟨b, hb, same⟩ := List.mem_map.mp hid
  exact bne_iff_ne.mp (List.mem_filter.mp hb).2 same

/-- A freed buffer is dropped if the table has it, and otherwise nothing is. -/
theorem trades_freeBuffer (id : BufferId) : (freeBuffer id).Trades := by
  intro s r s' keyed h
  replace h := leads_get_bind h
  split at h
  · rename_i b hb
    obtain ⟨rfl, rfl⟩ := Prod.mk.inj h
    have trade := s.platform.trade_addAll [.dropBuffer b.buffer] rfl
      (s.adapter.fixtures + ↑((s.adapter.buffers.filter (·.1 != id)).map (·.2.buffer)))
    have split := keyed.held_eq id
    rw [hb] at split
    exact ⟨_, rfl, keyed.filter id, split.symm ▸ trade⟩
  · exact Confined.trades (fun _ => confined_say _ _) _ _ _ keyed h

/-- **Every command trades the stock of the adapter.** -/
theorem trades_execute (c : LitTiles.Command) : (execute c).Trades := by
  cases c with
  -- commands that leave buffers and arenas alone trade nothing, which their confinement says
  | loadTexture t =>
    exact Confined.trades fun _ => confined_loadTexture (by decide) (fun _ _ => rfl) t
  | compileProgram name p =>
    exact Confined.trades fun _ => confined_compileProgram (by decide) (fun _ _ => rfl) name p
  | configureTargets surface sizes =>
    exact Confined.trades fun _ =>
      confined_configureTargets (by decide) (by decide) (fun _ _ => rfl) (fun _ _ => rfl)
        surface sizes
  | writeInstances id instances =>
    exact Confined.trades fun _ => confined_writeInstances (by decide) id instances
  | beginFrame visible =>
    exact Confined.trades fun _ =>
      confined_beginFrame (by decide) (by decide) (by decide) (fun _ _ => rfl)
        (fun _ _ => rfl) visible
  | clear target color => exact Confined.trades fun _ => confined_clear (by decide) target color
  | drawSprites target mode id calls =>
    exact Confined.trades fun _ => confined_drawSprites (by decide) target mode id calls
  | drawLight target light => exact trades_drawLight target light
  | drawShadows target corners => exact trades_drawShadows target corners
  | runProgram name inputs output uniforms clear =>
    exact trades_runProgram name inputs output uniforms clear
  | endFrame => exact Confined.trades fun _ => confined_endFrame (by decide) fun _ _ => rfl

end Adapter

/-! ## Sessions -/

namespace Session

variable {α : Type} {s s' : Session} {p : Platform}

/-- Whatever is called, the stock afterwards is what was held and made without what was dropped. -/
theorem trades_perform (keyed : s.adapter.Keyed) (c : Call) :
    ∃ more, s.Trades more (backend.perform c s).2 := by
  cases c with
  | createBuffer capacity =>
    exact Adapter.trades_createBuffer capacity _ _ _ keyed (s.leads_createBuffer capacity)
  | freeBuffer id =>
    obtain ⟨r, h⟩ := s.leads_freeBuffer id
    exact Adapter.trades_freeBuffer id _ _ _ keyed h
  | issue command => exact Adapter.trades_execute command _ _ _ keyed (s.leads_issue command)

/-- A record of the renderer above reaches the log and no buffer. -/
theorem trades_notice (keyed : s.adapter.Keyed) (n : Notice) :
    ∃ more, s.Trades more (backend.notice n s) := by
  cases n <;> exact ⟨_, rfl, keyed, s.platform.trade_add (by exact ⟨rfl, rfl, trivial⟩) _⟩

/-- **A script trades the stock of the session that it is run on.** -/
theorem trades_run (keyed : s.adapter.Keyed) (m : Script α) :
    ∃ more, s.Trades more (m.run backend s).2 := by
  induction m generalizing s with
  | done a => exact ⟨[], rfl, keyed, s.platform.trade_nil _⟩
  | call c k ih =>
    obtain ⟨more, first⟩ := trades_perform keyed c
    obtain ⟨more', rest⟩ := ih _ first.keyed
    exact ⟨more ++ more', first.trans rest⟩
  | note n k ih =>
    obtain ⟨more, first⟩ := trades_notice keyed n
    obtain ⟨more', rest⟩ := ih first.keyed
    exact ⟨more ++ more', first.trans rest⟩

/-- **A session starts with a stock of its own, or with an error and nothing.** -/
theorem trade_connect (interface : Interface) (size : SurfaceSize) (o : DeviceOptions)
    (window : WindowId) (p : Platform) :
    match connect interface size o window p with
    | .ok s => s.window = window ∧ s.adapter.Keyed ∧ ∃ more,
    p.Trade 0 more s.adapter.held s.platform
    | .error (_, p') => ∃ more, p.Trade 0 more 0 p' := by
  cases interface with
  | wgpu =>
    obtain ⟨⟨r, p'⟩, hr⟩ : ∃ q, q = (Adapter.connect size o).run.run p := ⟨_, rfl⟩
    obtain ⟨more, trade⟩ := Adapter.furnishes_connect size o p r p' hr.symm
    cases r with
    | error e =>
      have failed : start size o window p = .error (e, p') := by rw [start, ← hr]
      rw [connect, failed]
      exact ⟨more, trade⟩
    | ok a =>
      have made : start size o window p = .ok ⟨a, window, p'⟩ := by rw [start, ← hr]
      obtain ⟨-, -, empty⟩ := of_start made
      have keyed : a.Keyed := (congrArg (·.buffers.Nodup) empty).mpr List.nodup_nil
      rw [connect, made]
      exact ⟨rfl, keyed, _, trade.trans (p'.trade_add (by exact ⟨rfl, rfl, trivial⟩) _)⟩
  | _ => exact ⟨[], p.trade_nil 0⟩

/-- What disposal gives up is the frame, the stock, and textures. -/
theorem dispose_eq (a : Adapter) : ∃ (bs : List (Handle .buffer)) (ts : List (Handle .texture)),
    a.dispose = a.abandon ++ bs.map .dropBuffer ++ ts.map .dropTexture ∧ ↑bs = a.held := by
  refine ⟨[a.corners.buffer, a.indices.buffer, a.camera, a.uniforms.buffer, a.lights.buffer,
    a.shadows.buffer] ++
    a.buffers.map (·.2.buffer), a.atlases.map (·.2.texture) ++ a.targets.map (·.texture), ?_, ?_⟩
  · simp [Adapter.dispose, Function.comp_def]
  · rw [← Multiset.coe_add]
    rfl

/-- **Closing a session drops its stock.** -/
theorem trade_close (s : Session) :
    s.platform.Trade s.adapter.held (s.adapter.dispose.map .device) 0 s.close := by
  obtain ⟨bs, ts, dispose, held⟩ := dispose_eq s.adapter
  obtain ⟨made, dropped⟩ : buffersMade (s.adapter.abandon.map .device) = [] ∧
      buffersDropped (s.adapter.abandon.map .device) = [] := by
    unfold Adapter.abandon
    cases s.adapter.frame <;> exact ⟨rfl, rfl⟩
  have none_made : buffersMade (s.adapter.dispose.map .device) = [] := by
    rw [dispose, List.map_append, List.map_append, buffersMade_append, buffersMade_append, made]
    simp [buffersMade, Happening.made?]
  have all_dropped : buffersDropped (s.adapter.dispose.map .device) = bs := by
    rw [dispose, List.map_append, List.map_append, buffersDropped_append,
      buffersDropped_append, dropped]
    simp [buffersDropped, List.filterMap_map, Function.comp_def, Happening.dropped?]
  have trade := s.platform.trade_addAll _ none_made 0
  rw [all_dropped, held, add_zero] at trade
  exact trade

end Session

end Wgpu

end LitTiles
