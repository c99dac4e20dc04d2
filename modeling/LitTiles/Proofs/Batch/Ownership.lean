import LitTiles.Proofs.Backend.Ledger
import LitTiles.Proofs.Batch.Slots

/-!
# Mirrors and the buffers they own

`MirrorTable.Kept` is the invariant that ties a table of mirrors to what was called so far.

* The table is sound.
* Each mirror is `Backed`: either nothing was ever written to it, or what it says of its layer is
  what was written last for that layer.
* A buffer that was never handed out while it was live belongs to one mirror as long as it is live
  (`MirrorTable.Owned`), and everything that was drawn from it is what it held.
* If the backend hands out new buffers only, every use of a buffer so far was lawful.

Ownership is said of one buffer at a time. So a backend that hands out one buffer twice spoils what
is drawn from this buffer, and nothing else.

Each way in which table and history move together has a lemma: a call that settles nothing
(`Kept.quiet`), a change of a mirror in its place (`Kept.modifySlot`), a new buffer (`Kept.occupy`),
a buffer given back (`Kept.evict`), and a write (`Kept.write`).
-/

namespace LitTiles

/-- A call that leaves live buffers, contents and writes as they are. -/
structure Entry.IsQuiet (e : Entry) : Prop where
  /-- No buffer is handed out or given back. -/
  live : ∀ live, e.exchange.settle live = live
  /-- No buffer is written to. -/
  contents : ∀ held, e.settle held = held
  /-- It is not a write that succeeded. -/
  writes : ∀ id, e.writesFor id = false

/-! ## One mirror -/

namespace Mirror

variable {m m' : Mirror} {l : Layer} {h : List Entry} {e : Entry}

/-- The mirror says of itself what an upload of the layer made of it. -/
structure Reflects (m : Mirror) (l : Layer) : Prop where
  /-- The layer is the one the mirror belongs to. -/
  id : l.id = m.id
  /-- The upload policies are the same. -/
  kind : l.kind = m.kind
  /-- The revision of the layer is the one that was uploaded. -/
  revision : m.uploaded = some l.revision
  /-- The draw calls are those of the sprites that fit. -/
  drawCalls : m.drawCalls = DrawCall.ofSprites (m.kept l)

/-- The write of a layer to the buffer of its mirror, when it succeeds. -/
def writing (m : Mirror) (l : Layer) : Entry :=
  ⟨some l, .issue (.writeInstances m.buffer ((m.kept l).map .ofSprite)), .ok ()⟩

/-- Nothing was written to the mirror. -/
structure Unwritten (m : Mirror) : Prop where
  /-- No revision was uploaded. -/
  uploaded : m.uploaded = none
  /-- An upload is due. -/
  needsUpdate : m.needsUpdate = true
  /-- There is nothing to draw. -/
  drawCalls : m.drawCalls = []

/-- Either nothing was written to the mirror, or it reflects a layer that was the last one to be
written under the mirror's identity; and then, if the buffer was never handed out while it was live,
it holds what was written. -/
def Backed (m : Mirror) (h : List Entry) : Prop :=
  m.Unwritten ∨
  ∃ l, m.Reflects l ∧ lastWrite h m.id = some (m.writing l) ∧
    (FreshFor m.buffer (exchanges h) →
      (contentsAfter h m.buffer).source = some l ∧ (contentsAfter h m.buffer).Shows (m.kept l))

/-- Two mirrors that differ at most in their stacking keys, in their lifetimes, in whether dropped
sprites were reported, and in whether an upload is due, and it is due for the first one whenever it
is due for the second one. -/
structure Alike (m' m : Mirror) : Prop where
  /-- Same layer. -/
  id : m'.id = m.id
  /-- Same upload policy. -/
  kind : m'.kind = m.kind
  /-- Same buffer. -/
  buffer : m'.buffer = m.buffer
  /-- Same capacity. -/
  capacity : m'.capacity = m.capacity
  /-- Same draw calls. -/
  drawCalls : m'.drawCalls = m.drawCalls
  /-- Same revision. -/
  uploaded : m'.uploaded = m.uploaded
  /-- An upload stays due. -/
  needsUpdate : m.needsUpdate = true → m'.needsUpdate = true

theorem Alike.refl (m : Mirror) : m.Alike m := ⟨rfl, rfl, rfl, rfl, rfl, rfl, fun hn => hn⟩

/-- Two mirrors that are alike, and an upload is due for both of them or for none. -/
structure Resembles (m' m : Mirror) : Prop extends m'.Alike m where
  /-- An upload is due for the one if it is for the other. -/
  sameRequest : m'.needsUpdate = m.needsUpdate

theorem Resembles.refl (m : Mirror) : m.Resembles m := ⟨.refl m, rfl⟩

theorem Resembles.isStale (hr : m'.Resembles m) (l : Layer) : m'.isStale l = m.isStale l := by
  rw [Mirror.isStale, hr.sameRequest, hr.kind, hr.uploaded, Mirror.isStale]

/-- The buffer of a mirror, and how much it holds. -/
def lodging (m : Mirror) : BufferId × Nat := (m.buffer, m.capacity)

theorem Alike.lodging (ha : m'.Alike m) : m'.lodging = m.lodging :=
  Prod.ext ha.buffer ha.capacity

theorem Alike.kept (ha : m'.Alike m) (l : Layer) : m'.kept l = m.kept l := by
  rw [Mirror.kept, Mirror.kept, ha.capacity]

theorem Alike.writing (ha : m'.Alike m) (l : Layer) : m'.writing l = m.writing l := by
  rw [Mirror.writing, Mirror.writing, ha.buffer, ha.kept]

theorem Alike.reflects (ha : m'.Alike m) (hr : m.Reflects l) : m'.Reflects l where
  id := hr.id.trans ha.id.symm
  kind := hr.kind.trans ha.kind.symm
  revision := ha.uploaded.trans hr.revision
  drawCalls := by rw [ha.drawCalls, ha.kept, hr.drawCalls]

theorem Alike.backed (ha : m'.Alike m) (hb : m.Backed h) : m'.Backed h := by
  rcases hb with hn | ⟨l, hr, hw, hc⟩
  · left
    exact ⟨ha.uploaded.trans hn.uploaded, ha.needsUpdate hn.needsUpdate,
      ha.drawCalls.trans hn.drawCalls⟩
  · right
    refine ⟨l, ha.reflects hr, ?_, ?_⟩
    · rw [ha.id, ha.writing, hw]
    · rw [ha.buffer, ha.kept]
      exact hc

/-- A mirror stays backed after calls that neither wrote for its layer nor changed its buffer. -/
theorem Backed.concat (hb : m.Backed h) (hw : e.writesFor m.id = false)
    (hc : FreshFor m.buffer (exchanges (h ++ [e])) →
      e.settle (contentsAfter h) m.buffer = contentsAfter h m.buffer) :
    m.Backed (h ++ [e]) := by
  rcases hb with hn | ⟨l, hr, hl, hcl⟩
  · exact .inl hn
  · refine .inr ⟨l, hr, ?_, fun hf => ?_⟩
    · rw [lastWrite_concat, hw]
      exact hl
    · rw [contentsAfter_concat, hc hf]
      rw [exchanges_append] at hf
      exact hcl hf.of_append

/-- A write makes a mirror reflect its layer. -/
theorem reflects_written (ha : m'.Alike m) (hid : l.id = m.id) (hk : l.kind = m.kind) :
    (m'.written l).Reflects l where
  id := hid.trans ha.id.symm
  kind := hk.trans ha.kind.symm
  revision := rfl
  drawCalls := rfl

theorem writing_written (ha : m'.Alike m) (l : Layer) : (m'.written l).writing l = m.writing l :=
  ha.writing l

theorem backed_written (ha : m'.Alike m) (hid : l.id = m.id) (hk : l.kind = m.kind) :
    (m'.written l).Backed (h ++ [m.writing l]) := by
  refine .inr ⟨l, reflects_written ha hid hk, ?_, fun _ => ?_⟩
  · have hw : (m.writing l).writesFor (m'.written l).id = true :=
      beq_iff_eq.mpr (hid.trans ha.id.symm)
    rw [lastWrite_concat, if_pos hw, writing_written ha]
  · have hb : contentsAfter (h ++ [m.writing l]) (m'.written l).buffer =
        (contentsAfter h m.buffer).overwrite ((m.kept l).map .ofSprite) (some l) := by
      rw [contentsAfter_concat]
      refine (congrArg _ ha.buffer).trans ?_
      exact Function.update_self ..
    have hk : (m'.written l).kept l = m.kept l := ha.kept l
    rw [hb, hk]
    exact ⟨rfl, Contents.shows_overwrite _ _ _⟩

end Mirror

/-! ## The whole table -/

namespace MirrorTable

variable {t t' : MirrorTable} {i : Nat} {m m' : Mirror} {l : Layer} {h h' : List Entry} {e : Entry}
  {b : BufferId}

/-- A buffer belongs to one mirror if it is live, and to none if it is not. -/
structure Owned (t : MirrorTable) (h : List Entry) (b : BufferId) : Prop where
  /-- The buffer of a mirror is live, and was made for as many instances as the mirror says. -/
  live : ∀ i m, t.mirrorAt i = some m → m.buffer = b →
    liveAfter (exchanges h) b = some m.capacity
  /-- No two slots share the buffer. -/
  apart : ∀ i j m m', t.mirrorAt i = some m → t.mirrorAt j = some m' → m.buffer = b →
    m'.buffer = b → i = j
  /-- If it is live it is the buffer of a mirror. -/
  owner : (liveAfter (exchanges h) b).isSome → ∃ i m, t.mirrorAt i = some m ∧ m.buffer = b

/-- Uses of buffers are lawful on a backend that handed out new buffers only. -/
def UsesOwn (before : List Exchange) (e : Exchange) : Prop := Fresh before → UsesLive before e

/-- What the table has to do with buffers is in order. -/
structure Leases (t : MirrorTable) (h : List Entry) : Prop where
  /-- Mirrors own their buffers. -/
  owned : ∀ b, FreshFor b (exchanges h) → t.Owned h b
  /-- Only live buffers were used, and no write was too long. -/
  lawful : Throughout UsesOwn (exchanges h)
  /-- What was drawn was what the buffers held. -/
  truthful : Throughout DrawsContents h

/-- The invariant of a table and of what was called so far. -/
structure Kept (t : MirrorTable) (h : List Entry) : Prop extends t.Leases h where
  /-- Keys and the free list tell the truth. -/
  sound : t.Sound
  /-- What the mirrors say is what was written. -/
  backed : ∀ i m, t.mirrorAt i = some m → m.Backed h

/-- An empty table keeps the invariant. -/
theorem kept_empty (limits : MirrorLimits) : Kept { limits := limits } [] where
  sound := sound_empty limits
  backed i m hm := by simp [mirrorAt] at hm
  owned b _ := {
    live := fun i m hm => by simp [mirrorAt] at hm
    apart := fun i j m m' hm => by simp [mirrorAt] at hm
    owner := fun hb => by cases hb }
  lawful := throughout_nil
  truthful := throughout_nil

theorem throughout_exchanges_concat {law : List Exchange → Exchange → Prop} :
    Throughout law (exchanges (h ++ [e])) ↔
      Throughout law (exchanges h) ∧ law (exchanges h) e.exchange := by
  rw [exchanges_append, exchanges_singleton, throughout_concat]

theorem liveAfter_exchanges_concat :
    liveAfter (exchanges (h ++ [e])) = e.exchange.settle (liveAfter (exchanges h)) := by
  rw [exchanges_append, exchanges_singleton, liveAfter_concat]

/-- A mirror in a slot of one table belongs to one with the same buffer in that slot of another
table. -/
theorem exists_of_lodging (hs : ∀ i, (t'.mirrorAt i).map Mirror.lodging =
    (t.mirrorAt i).map Mirror.lodging) (hm : t'.mirrorAt i = some m) :
    ∃ m', t.mirrorAt i = some m' ∧ m'.buffer = m.buffer ∧ m'.capacity = m.capacity := by
  have h := hs i
  rw [hm, Option.map_some] at h
  obtain ⟨m', hm', he⟩ := Option.map_eq_some_iff.mp h.symm
  exact ⟨m', hm', congrArg Prod.fst he, congrArg Prod.snd he⟩

/-- If a buffer is live as before, a table with the same buffers in its slots owns it. -/
theorem Owned.transfer (ho : t.Owned h b)
    (hs : ∀ i, (t'.mirrorAt i).map Mirror.lodging = (t.mirrorAt i).map Mirror.lodging)
    (hlive : liveAfter (exchanges h') b = liveAfter (exchanges h) b) : t'.Owned h' b where
  live i m hm hb := by
    obtain ⟨m', hm', hb', hc⟩ := exists_of_lodging hs hm
    rw [hlive, ← hc]
    exact ho.live i m' hm' (hb'.trans hb)
  apart i j m₁ m₂ hm₁ hm₂ hb₁ hb₂ := by
    obtain ⟨m₁', h₁, same₁, -⟩ := exists_of_lodging hs hm₁
    obtain ⟨m₂', h₂, same₂, -⟩ := exists_of_lodging hs hm₂
    exact ho.apart i j m₁' m₂' h₁ h₂ (same₁.trans hb₁) (same₂.trans hb₂)
  owner hb := by
    rw [hlive] at hb
    obtain ⟨i, m, hm, hmb⟩ := ho.owner hb
    obtain ⟨m', hm', same, -⟩ := exists_of_lodging (fun i => (hs i).symm) hm
    exact ⟨i, m', hm', same.trans hmb⟩

/-- On a backend that hands out new buffers only, the buffer of a mirror is live. -/
theorem Leases.live_of_fresh (hl : t.Leases h) (hf : Fresh (exchanges h))
    (hm : t.mirrorAt i = some m) :
    liveAfter (exchanges h) m.buffer = some m.capacity :=
  (hl.owned m.buffer (hf.freshFor _)).live i m hm rfl

/-- On a backend that hands out new buffers only, all uses of buffers were lawful. -/
theorem Leases.usesLive (hl : t.Leases h) (hf : Fresh (exchanges h)) :
    Throughout UsesLive (exchanges h) := by
  intro before e after he
  refine hl.lawful before e after he ?_
  rw [he] at hf
  exact hf.of_append

/-! ### Calls that settle nothing -/

/-- A call that settles nothing keeps the invariant if it was lawful and drew what it ought to. -/
theorem Kept.quiet (hk : t.Kept h) (hq : e.IsQuiet) (hu : UsesOwn (exchanges h) e.exchange)
    (hd : DrawsContents h e) : t.Kept (h ++ [e]) where
  sound := hk.sound
  backed i m hm := (hk.backed i m hm).concat (hq.writes m.id) fun _ => by rw [hq.contents]
  owned b hf := by
    have ho := hk.owned b (throughout_exchanges_concat.mp hf).1
    refine ho.transfer (fun _ => rfl) ?_
    rw [liveAfter_exchanges_concat, hq.live]
  lawful := throughout_exchanges_concat.mpr ⟨hk.lawful, hu⟩
  truthful := throughout_concat.mpr ⟨hk.truthful, hd⟩

/-- A call that has nothing to do with instance buffers keeps the invariant. -/
theorem Kept.idle (hk : t.Kept h) (hi : e.exchange.call.IsIdle) : t.Kept (h ++ [e]) := by
  obtain ⟨source, ⟨c, a⟩⟩ := e
  cases c with
  | createBuffer capacity => exact hi.elim
  | freeBuffer b => exact hi.elim
  | issue c =>
    cases c with
    | writeInstances b instances => exact hi.elim
    | drawSprites target mode b calls => exact hi.elim
    | _ =>
      refine hk.quiet ⟨fun _ => rfl, fun _ => rfl, fun id => ?_⟩ (fun _ => trivial) trivial
      cases source <;> rfl

/-- Drawing what a mirror says keeps the invariant. -/
theorem Kept.draw (hk : t.Kept h) (hm : t.mirrorAt i = some m) (hn : m.drawCalls ≠ [])
    (source : Option Layer) (target : Target) (mode : SpriteMode) (a : Except RenderError Unit) :
    t.Kept (h ++ [⟨source, .issue (.drawSprites target mode m.buffer m.drawCalls), a⟩]) := by
  refine hk.quiet ⟨fun _ => rfl, fun _ => rfl, fun id => ?_⟩ (fun hf => ?_) fun hf => ?_
  · cases source <;> rfl
  · exact Option.isSome_of_eq_some (hk.toLeases.live_of_fresh hf hm)
  · rcases hk.backed i m hm with hu | ⟨l, hr, -, hc⟩
    · exact absurd hu.drawCalls hn
    · obtain ⟨hs, hd⟩ := hc hf
      exact ⟨m.capacity, l, (hk.owned m.buffer hf).live i m hm rfl, hs, hd, hr.drawCalls⟩

/-! ### Changes in place -/

/-- A change of a slot in its place keeps the invariant if it leaves an alike mirror behind. -/
theorem Kept.modifySlot (hk : t.Kept h) {f : Slot → Slot}
    (hg : ∀ s, t.slots[i]? = some s → (f s).generation = s.generation)
    (hf : ∀ s, t.slots[i]? = some s → Option.Rel Mirror.Alike (f s).mirror s.mirror) :
    (t.modifySlot i f).Kept h := by
  have alike := rel_mirrorAt_modifySlot Mirror.Alike.refl hf
  refine ⟨⟨fun b fresh => ?_, hk.lawful, hk.truthful⟩, hk.sound.modifySlot hg fun s hs => ?_,
    fun j m' hm' => ?_⟩
  · have lodged := fun j => map_eq_of_rel (alike j) fun _ _ ha => ha.lodging
    exact (hk.owned b fresh).transfer lodged rfl
  · exact map_eq_of_rel (hf s hs) fun _ _ ha => ha.id
  · have related := alike j
    rw [hm'] at related
    generalize hm : t.mirrorAt j = before at related
    cases related with
    | some ha => exact ha.backed (hk.backed j _ hm)

/-- A change of a slot keeps the invariant if it does not concern the mirror. -/
theorem Kept.mark (hk : t.Kept h) {f : Slot → Slot} (hg : ∀ s, (f s).generation = s.generation)
    (hf : ∀ s, (f s).mirror = s.mirror) : (t.modifySlot i f).Kept h := by
  refine hk.modifySlot (fun s _ => hg s) fun s _ => ?_
  rw [hf]
  cases s.mirror with
  | none => exact .none
  | some m => exact .some (.refl m)

/-- A change of a slot keeps the invariant if it puts an alike mirror in the place of one. -/
theorem Kept.exchange (hk : t.Kept h) (hm : t.mirrorAt i = some m) {f : Slot → Slot}
    (hg : ∀ s, (f s).generation = s.generation) (hf : ∀ s, (f s).mirror = some m')
    (ha : m'.Alike m) :
    (t.modifySlot i f).Kept h := by
  refine hk.modifySlot (fun s _ => hg s) fun s hs => ?_
  rw [hf, mirror_eq_of_mirrorAt hm hs]
  exact .some ha

theorem Kept.putMirror (hk : t.Kept h) (hm : t.mirrorAt i = some m) (ha : m'.Alike m) :
    (t.putMirror i m').Kept h :=
  hk.exchange hm (fun _ => rfl) (fun _ => rfl) ha

/-! ### A new buffer -/

/-- A buffer that is not live is none of those that mirrors have. -/
theorem Owned.buffer_ne (ho : t.Owned h b) (hb : liveAfter (exchanges h) b = none)
    (hm : t.mirrorAt i = some m) : m.buffer ≠ b := by
  intro he
  rw [ho.live i m hm he] at hb
  cases hb

/-- A mirror moves into an empty slot, with a buffer that was handed out to it. -/
theorem Owned.settle (ho : t.Owned h b) (hi : t.mirrorAt i = none)
    (hnew : m.buffer = b → liveAfter (exchanges h) b = none)
    (ht : ∀ j, t'.mirrorAt j = if j = i then some m else t.mirrorAt j) (source : Option Layer) :
    t'.Owned (h ++ [⟨source, .createBuffer m.capacity, .ok m.buffer⟩]) b := by
  let e : Entry := ⟨source, .createBuffer m.capacity, .ok m.buffer⟩
  have live : liveAfter (exchanges (h ++ [e])) b =
      if b = m.buffer then some m.capacity else liveAfter (exchanges h) b := by
    rw [liveAfter_exchanges_concat]
    exact Function.update_apply ..
  -- a mirror of the new table is the new one, or it was there
  have came : ∀ j m', t'.mirrorAt j = some m' → j = i ∧ m = m' ∨ t.mirrorAt j = some m' := by
    intro j m' hm'
    rw [ht] at hm'
    by_cases hj : j = i
    · rw [if_pos hj] at hm'
      exact .inl ⟨hj, Option.some.inj hm'⟩
    · rw [if_neg hj] at hm'
      exact .inr hm'
  refine ⟨fun j m' hm' hb => ?_, fun j j' m' m'' hm' hm'' hb hb' => ?_, fun hb => ?_⟩
  · rw [live]
    rcases came j m' hm' with ⟨-, rfl⟩ | hm'
    · exact if_pos hb.symm
    · have hne : b ≠ m.buffer := fun he => ho.buffer_ne (hnew he.symm) hm' hb
      rw [if_neg hne]
      exact ho.live j m' hm' hb
  · rcases came j m' hm' with ⟨hj, rfl⟩ | hm' <;> rcases came j' m'' hm'' with ⟨hj', rfl⟩ | hm''
    · exact hj.trans hj'.symm
    · exact absurd hb' (ho.buffer_ne (hnew hb) hm'')
    · exact absurd hb (ho.buffer_ne (hnew hb') hm')
    · exact ho.apart j j' m' m'' hm' hm'' hb hb'
  · rw [live] at hb
    by_cases hbm : b = m.buffer
    · exact ⟨i, m, by rw [ht, if_pos rfl], hbm.symm⟩
    · rw [if_neg hbm] at hb
      obtain ⟨j, m', hm', hmb⟩ := ho.owner hb
      have hj : j ≠ i := by
        rintro rfl
        rw [hi] at hm'
        cases hm'
      exact ⟨j, m', by rw [ht, if_neg hj, hm'], hmb⟩

/-- A new buffer, and a mirror to own it, for a layer without one. -/
theorem Kept.occupy (hk : t.Kept h) (hn : t.get? m.id = none) (hu : m.Unwritten)
    (source : Option Layer) :
    (t.occupy m).Kept (h ++ [⟨source, .createBuffer m.capacity, .ok m.buffer⟩]) := by
  let e : Exchange := ⟨.createBuffer m.capacity, .ok m.buffer⟩
  have given : ∀ b, m.buffer = b → e.handsOut b = true := fun b he => decide_eq_true he
  refine ⟨⟨fun b hf => ?_, ?_, ?_⟩, hk.sound.occupy hn, fun j m' hm => ?_⟩
  · obtain ⟨hf, hnew⟩ := throughout_exchanges_concat.mp hf
    exact (hk.owned b hf).settle hk.sound.mirrorAt_nextSlot (fun he => hnew (given b he))
      (hk.sound.mirrorAt_occupy m) source
  · exact throughout_exchanges_concat.mpr ⟨hk.lawful, fun _ => trivial⟩
  · exact throughout_concat.mpr ⟨hk.truthful, trivial⟩
  · rw [hk.sound.mirrorAt_occupy] at hm
    by_cases hj : j = t.nextSlot.1
    · rw [if_pos hj] at hm
      obtain rfl := Option.some.inj hm
      exact .inl hu
    · rw [if_neg hj] at hm
      refine (hk.backed j m' hm).concat (by cases source <;> rfl) fun hf => ?_
      obtain ⟨hf, hnew⟩ := throughout_exchanges_concat.mp hf
      have hb : m'.buffer ≠ m.buffer := fun he =>
        (hk.owned _ hf).buffer_ne (hnew (given _ he.symm)) hm rfl
      exact Function.update_of_ne hb _ _

/-! ### A buffer given back -/

/-- A mirror leaves its slot, and its buffer is given back. -/
theorem Owned.vacate (ho : t.Owned h b) (hm : t.mirrorAt i = some m)
    (ht : ∀ j, t'.mirrorAt j = if i = j then none else t.mirrorAt j) (source : Option Layer) :
    t'.Owned (h ++ [⟨source, .freeBuffer m.buffer, ()⟩]) b := by
  let e : Entry := ⟨source, .freeBuffer m.buffer, ()⟩
  have live : liveAfter (exchanges (h ++ [e])) b =
      if b = m.buffer then none else liveAfter (exchanges h) b := by
    rw [liveAfter_exchanges_concat]
    exact Function.update_apply ..
  have stays : ∀ j m', t'.mirrorAt j = some m' → i ≠ j ∧ t.mirrorAt j = some m' := by
    intro j m' hm'
    rw [ht] at hm'
    by_cases hij : i = j
    · rw [if_pos hij] at hm'
      cases hm'
    · rw [if_neg hij] at hm'
      exact ⟨hij, hm'⟩
  refine ⟨fun j m' hm' hb => ?_, fun j j' m' m'' hm' hm'' => ?_, fun hb => ?_⟩
  · obtain ⟨hij, hm'⟩ := stays j m' hm'
    -- another slot would share the buffer that is given back
    have hne : b ≠ m.buffer := fun he => hij (ho.apart i j m m' hm hm' he.symm hb)
    rw [live, if_neg hne]
    exact ho.live j m' hm' hb
  · exact ho.apart j j' m' m'' (stays j m' hm').2 (stays j' m'' hm'').2
  · rw [live] at hb
    by_cases hbm : b = m.buffer
    · rw [if_pos hbm] at hb
      cases hb
    · rw [if_neg hbm] at hb
      obtain ⟨j, m', hm', hmb⟩ := ho.owner hb
      have hij : i ≠ j := by
        rintro rfl
        obtain rfl := Option.some.inj (hm.symm.trans hm')
        exact hbm hmb.symm
      exact ⟨j, m', by rw [ht, if_neg hij, hm'], hmb⟩

/-- A mirror leaves its slot and everything stays in order, if its buffer is given back. -/
theorem Leases.vacate (hl : t.Leases h) (hm : t.mirrorAt i = some m)
    (ht : ∀ j, t'.mirrorAt j = if i = j then none else t.mirrorAt j) (source : Option Layer) :
    t'.Leases (h ++ [⟨source, .freeBuffer m.buffer, ()⟩]) where
  owned b hf := (hl.owned b (throughout_exchanges_concat.mp hf).1).vacate hm ht source
  lawful := throughout_exchanges_concat.mpr
    ⟨hl.lawful, fun hf => Option.isSome_of_eq_some (hl.live_of_fresh hf hm)⟩
  truthful := throughout_concat.mpr ⟨hl.truthful, trivial⟩

/-- A mirror goes, with its key and its buffer. -/
theorem Kept.evict (hk : t.Kept h) (hm : t.mirrorAt i = some m) (source : Option Layer) :
    ((t.eraseKey m.id).vacate i).Kept (h ++ [⟨source, .freeBuffer m.buffer, ()⟩]) := by
  have ht : ∀ j, ((t.eraseKey m.id).vacate i).mirrorAt j = if i = j then none else t.mirrorAt j :=
    fun j => mirrorAt_vacate
  refine ⟨hk.toLeases.vacate hm ht source, hk.sound.evict hm, fun j m' hm' => ?_⟩
  rw [ht] at hm'
  by_cases hij : i = j
  · rw [if_pos hij] at hm'
    cases hm'
  · rw [if_neg hij] at hm'
    refine (hk.backed j m' hm').concat ?_ fun _ => rfl
    cases source <;> rfl

/-! ### A write -/

/-- A write of a layer to the buffer of its mirror. -/
theorem Kept.write (hk : t.Kept h) (hm : t.mirrorAt i = some m) (ha : m'.Alike m)
    (hid : l.id = m.id) (hkind : l.kind = m.kind) :
    (t.putMirror i (m'.written l)).Kept (h ++ [m.writing l]) := by
  have ht : ∀ j, (t.putMirror i (m'.written l)).mirrorAt j =
      if i = j then some (m'.written l) else t.mirrorAt j := fun j => mirrorAt_putMirror hm
  have live : liveAfter (exchanges (h ++ [m.writing l])) = liveAfter (exchanges h) := by
    rw [liveAfter_exchanges_concat]
    rfl
  refine ⟨⟨fun b hf => ?_, ?_, ?_⟩, hk.sound.putMirror hm ha.id, fun j m'' hm'' => ?_⟩
  -- leases: a write neither makes nor frees, and the mirror keeps its buffer
  · refine (hk.owned b (throughout_exchanges_concat.mp hf).1).transfer (fun j => ?_)
      (congrFun live b)
    rw [ht]
    by_cases hij : i = j
    · subst hij
      rw [if_pos rfl, hm]
      exact congrArg some ha.lodging
    · rw [if_neg hij]
  -- the law of uses: what is written fits into the mirror's own buffer
  · refine throughout_exchanges_concat.mpr ⟨hk.lawful, fun hf => ?_⟩
    refine ⟨m.capacity, hk.toLeases.live_of_fresh hf hm, ?_⟩
    rw [List.length_map, Mirror.kept, List.length_take]
    exact Nat.min_le_left _ _
  · exact throughout_concat.mpr ⟨hk.truthful, trivial⟩
  -- contents: this mirror shows what was just written, and the buffers of the others were not
  -- written
  · rw [ht] at hm''
    by_cases hij : i = j
    · rw [if_pos hij] at hm''
      obtain rfl := Option.some.inj hm''
      exact Mirror.backed_written ha hid hkind
    · rw [if_neg hij] at hm''
      refine (hk.backed j m'' hm'').concat ?_ fun hf => ?_
      · refine beq_eq_false_iff_ne.mpr fun he => hij ?_
        exact hk.sound.eq_of_id_eq hm hm'' (hid.symm.trans he)
      · have ho := hk.owned _ (throughout_exchanges_concat.mp hf).1
        have hb : m''.buffer ≠ m.buffer := fun he => hij (ho.apart i j m m'' hm hm'' he.symm rfl)
        exact Function.update_of_ne hb _ _

end MirrorTable

end LitTiles
