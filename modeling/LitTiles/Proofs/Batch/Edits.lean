import LitTiles.Proofs.Batch.Upkeep

/-!
# Edits of a table

Whatever is done with a table comes down to four edits (`Edit`): a call that neither makes a buffer
nor gives one back, a change of a slot in its place, a mirror that goes with its key and its buffer,
and a mirror that comes with a new buffer. Visits, requests and collections are edits one after the
other (`ByEdits`), wherever they stop. So is `clear`, although it drops the keys only at its end: it
is the eviction of all mirrors (`byEdits_clear`).

Hence a law of tables and what was called holds of every run if each edit keeps it (`Edits.keeps`).
Soundness is the first of these laws (`Edit.sound`).
-/

namespace LitTiles

/-- By how many a call changes the number of buffers that are handed out. -/
def Exchange.gain : Exchange → Int
  | ⟨.createBuffer _, .ok _⟩ => 1
  | ⟨.freeBuffer _, _⟩ => -1
  | _ => 0

/-- What stays of a mirror as long as there is one: its layer, its upload policy and its
capacity. -/
def Mirror.nature (m : Mirror) : LayerId × LayerKind × Nat := (m.id, m.kind, m.capacity)

namespace MirrorTable

/-- An edit of a table, and what is called for it. -/
inductive Edit : MirrorTable → List Exchange → MirrorTable → Prop
  /-- A call that neither makes a buffer nor gives one back. -/
  | call {t : MirrorTable} {e : Exchange} (he : e.gain = 0) : Edit t [e] t
  /-- A slot changes in its place. -/
  | change {t : MirrorTable} {i : Nat} {f : Slot → Slot}
    (hg : ∀ s, t.slots[i]? = some s → (f s).generation = s.generation)
    (hf : ∀ s, t.slots[i]? = some s → (f s).mirror.map Mirror.nature = s.mirror.map Mirror.nature) :
    Edit t [] (t.modifySlot i f)
  /-- A mirror goes, with its key and its buffer. -/
  | evict {t : MirrorTable} {i : Nat} {m : Mirror} (hm : t.mirrorAt i = some m) :
    Edit t [.freed m.buffer] ((t.eraseKey m.id).vacate i)
  /-- A mirror comes with a new buffer, for a layer without one. -/
  | occupy {t : MirrorTable} {m : Mirror} (hn : t.get? m.id = none)
    (hc : m.capacity = t.limits.capacity m.kind) : Edit t [.made m.capacity m.buffer] (t.occupy m)

/-- Edits one after the other. -/
inductive Edits : MirrorTable → List Exchange → MirrorTable → Prop
  /-- No edit. -/
  | refl (t : MirrorTable) : Edits t [] t
  /-- One more edit. -/
  | step {t r t' : MirrorTable} {h h' : List Exchange} (first : Edits t h r) (last : Edit r h' t') :
    Edits t (h ++ h') t'

variable {α β : Type} {t r t' : MirrorTable} {i : Nat} {m m' : Mirror} {l : Layer}
  {h h' : List Exchange} {x : Except RenderError Unit}

theorem Edit.edits (he : Edit t h t') : Edits t h t' := .step (.refl t) he

/-- Runs of edits compose, and what was called is put behind one another. -/
theorem Edits.trans (h₁ : Edits t h r) (h₂ : Edits r h' t') : Edits t (h ++ h') t' := by
  induction h₂ with
  | refl => rwa [List.append_nil]
  | step _ last ih =>
    rw [← List.append_assoc]
    exact ih.step last

/-- A law of a table and of what was called lives on if each edit keeps it. -/
theorem Edits.keeps (law : List Exchange → MirrorTable → Prop)
    (hlaw : ∀ h t h' t', law h t → Edit t h' t' → law (h ++ h') t')
    (he : Edits t h' t') (hl : law h t) :
    law (h ++ h') t' := by
  induction he with
  | refl => rwa [List.append_nil]
  | step _ last ih =>
    rw [← List.append_assoc]
    exact hlaw _ _ _ _ ih last

/-! ## Soundness -/

/-- An edit keeps the table sound, by the three edits that soundness knows of; a call without an
edit of the table keeps it anyway. -/
theorem Edit.sound (hs : t.Sound) (he : Edit t h t') : t'.Sound := by
  cases he with
  | call => exact hs
  | change hg hf =>
    refine hs.modifySlot hg fun s hi => ?_
    have nature := congrArg (Option.map Prod.fst) (hf s hi)
    rwa [Option.map_map, Option.map_map] at nature
  | evict hm => exact hs.evict hm
  | occupy hn => exact hs.occupy hn

/-- So does a run of them. -/
theorem Edits.sound (he : Edits t h t') (hs : t.Sound) : t'.Sound :=
  he.keeps (fun _ t => t.Sound) (h := []) (fun _ _ _ _ hs he => he.sound hs) hs

/-! ## Actions that edit -/

/-- From a sound table on, an action does no more than to edit it. -/
def ByEdits (a : Action MirrorTable α) : Prop :=
  ∀ ⦃t h x t'⦄, t.Sound → a.Leads t h x t' → Edits t h t'

/-- A sequence edits if its parts do. The second one starts from a table that is sound by
`Edits.sound`, which is why soundness is part of `ByEdits`. -/
theorem ByEdits.bind {a : Action MirrorTable α} {f : α → Action MirrorTable β} (ha : ByEdits a)
    (hf : ∀ v, ByEdits (f v)) : ByEdits (a >>= f) := by
  intro t h x t' hs hl
  rcases Action.leads_bind.mp hl with ⟨e, -, hl⟩ | ⟨v, h₁, h₂, r, rfl, hfirst, hrest⟩
  · exact ha hs hl
  · have first := ha hs hfirst
    exact first.trans (hf v (first.sound hs) hrest)

theorem byEdits_pure (v : α) : ByEdits (pure v) := by
  intro t h x t' _ hl
  obtain ⟨rfl, -, rfl⟩ := Action.leads_pure.mp hl
  exact .refl t'

/-- A loop edits if each of its rounds does. -/
theorem ByEdits.forM {f : β → Action MirrorTable Unit} {bs : List β} (hf : ∀ b, ByEdits (f b)) :
    ByEdits (bs.forM f) := by
  induction bs with
  | nil => exact byEdits_pure ()
  | cons b bs ih => exact (hf b).bind fun _ => ih

/-! ### Visits -/

/-- A slot with a mirror gets another one of the same nature. -/
theorem edit_modifySlot {f : Slot → Slot} (hm : t.mirrorAt i = some m)
    (hg : ∀ s, (f s).generation = s.generation) (hf : ∀ s, (f s).mirror = some m')
    (hn : m'.nature = m.nature) : Edit t [] (t.modifySlot i f) := by
  refine .change (fun s _ => hg s) fun s hs => ?_
  rw [hf, mirror_eq_of_mirrorAt hm hs, Option.map_some, Option.map_some, hn]

/-- A mirror may be replaced by one of the same nature, that is, of the same layer, kind and
capacity. -/
theorem edit_putMirror (hm : t.mirrorAt i = some m) (hn : m'.nature = m.nature) : Edit t []
    (t.putMirror i m') :=
  edit_modifySlot hm (fun _ => rfl) (fun _ => rfl) hn

/-- Dropping a mirror of another kind is a record and an eviction. -/
theorem byEdits_dropOther (l : Layer) : ByEdits (dropOther l) := by
  intro t h x t' hs hl
  obtain ⟨-, drops⟩ := drops_of_leads hs hl
  cases drops with
  | fits => exact .refl t
  | other hm => exact (Edit.evict hm).edits

/-- Making sure of a mirror is a request that is refused, or a mirror that comes with the buffer
that was granted. -/
theorem byEdits_ensure (l : Layer) : ByEdits (ensure l) := by
  intro t h x t' hs hl
  cases ensures_of_leads hl with
  | there => exact .refl t
  | refused => exact (Edit.call rfl).edits
  | made hn b =>
    exact (Edit.occupy (m := .ofLayer l b (t.limits.capacity l.kind) t.limits.lifetime)
      hn rfl).edits

/-- Touching changes a slot in its place. -/
theorem byEdits_touch (l : Layer) : ByEdits (touch l) := by
  intro t h x t' hs hl
  obtain ⟨rfl, -, touches⟩ := touches_of_leads hs hl
  cases touches with
  | missing => exact .refl t
  | @marked i m hm =>
    have edit : Edit t [] (t.refresh i m l) := edit_modifySlot hm (fun _ => rfl) (fun _ => rfl) rfl
    exact edit.edits

/-- An update is a call that concerns no buffer's life, and a change in place. -/
theorem byEdits_update (l : Layer) : ByEdits (update l) := by
  intro t h x t' hs hl
  -- granted or not, a write is one call, and then the mirror is put back
  cases updates_of_leads hs hl with
  | missing | current => exact .refl t
  | @refused i m hm hid hs e warned =>
    have put : Edit t [] (t.putMirror i { m with warned := warned }) := edit_putMirror hm rfl
    exact (Edit.call rfl).edits.trans put.edits
  | @granted i m hm hid hs warned =>
    have put : Edit t [] (t.putMirror i (Mirror.written { m with warned := warned } l)) :=
      edit_putMirror hm rfl
    exact (Edit.call rfl).edits.trans put.edits

/-- A `sync` is a loop over its layers, and each visit consists of the four steps above. -/
theorem byEdits_sync (layers : List Layer) : ByEdits (sync layers) :=
  .forM fun l => (byEdits_dropOther l).bind fun _ => (byEdits_ensure l).bind fun _ =>
    (byEdits_touch l).bind fun _ => byEdits_update l

/-! ### Requests and collections -/

/-- A request changes a mirror in its place. -/
theorem byEdits_invalidate (id : LayerId) : ByEdits (modify (·.invalidate id)) := by
  intro t h x t' hs hl
  obtain ⟨rfl, -, rfl⟩ := Action.leads_modify.mp hl
  unfold invalidate
  cases hf : t.find? id with
  | none => exact .refl t
  | some p =>
    obtain ⟨i, m⟩ := p
    obtain ⟨hm, -⟩ := hs.find?_eq_some_iff.mp hf
    have edit : Edit t [] (t.putMirror i { m with needsUpdate := true }) := edit_putMirror hm rfl
    exact edit.edits

/-- Collecting a slot ages its mirror, or evicts it. -/
theorem byEdits_collectSlot (i : Nat) : ByEdits (collectSlot i) := by
  intro t h x t' hs hl
  obtain ⟨-, collects⟩ := collects_of_leads hl
  have edit : Edit t [] (t.modifySlot i fun s => { s with touched := false }) :=
    .change (fun _ _ => rfl) fun _ _ => rfl
  have unmarked : Edits t [] (t.unmark i) := edit.edits
  cases collects with
  | missing => exact .refl t
  | vacant | spared => exact unmarked
  | @aged s m hslot hm =>
    have there := (mirrorAt_unmark t i i).trans (mirrorAt_eq_some_iff.mpr ⟨s, hslot, hm⟩)
    have nature : ({ m with lifetime := m.lifetime - 1 } : Mirror).nature = m.nature := rfl
    exact unmarked.trans (edit_putMirror there nature).edits
  | @evicted s m hslot hm =>
    have there := (mirrorAt_unmark t i i).trans (mirrorAt_eq_some_iff.mpr ⟨s, hslot, hm⟩)
    exact unmarked.trans (Edit.evict there).edits

/-- A collection is a loop over all slots. -/
theorem byEdits_collect : ByEdits collect := fun _ _ _ _ hs hl =>
  ByEdits.forM byEdits_collectSlot hs (Action.leads_get_bind.mp hl)

/-! ### The end -/

/-- While slots are cleared the keys are out of step. With others in their place the mirrors are
evicted. -/
theorem edits_clearSlots (keys : List (LayerId × SlotKey)) {is : List Nat}
    (hl : (is.forM clearSlot).Leads t h x t') :
    ∃ keys', Edits { t with keys := keys } h { t' with keys := keys' } := by
  induction is generalizing t h keys with
  | nil =>
    obtain ⟨rfl, -, rfl⟩ := Action.leads_forM_nil.mp hl
    exact ⟨keys, .refl _⟩
  | cons i is ih =>
    rcases Action.leads_bind.mp hl with ⟨e, rfl, hfirst⟩ | ⟨_, h₁, h₂, r, rfl, hfirst, hrest⟩
    · obtain ⟨he, -⟩ := leads_clearSlot hfirst
      cases he
    obtain ⟨-, -, ⟨rfl, rfl⟩ | ⟨m, hm, rfl, rfl⟩⟩ := leads_clearSlot hfirst
    · exact ih keys hrest
    · obtain ⟨keys', rest⟩ := ih _ hrest
      exact ⟨keys', (Edit.evict (t := { t with keys := keys }) hm).edits.trans rest⟩

/-- A sound table without mirrors has no keys. -/
theorem Sound.keys_eq_nil (hs : t.Sound) (hn : ∀ i, t.mirrorAt i = none) : t.keys = [] := by
  refine List.eq_nil_iff_forall_not_mem.mpr fun ⟨id, k⟩ hk => ?_
  have known : (t.key? id).isSome := by
    rw [← Option.not_isNone, key?, isNone_lookup]
    simpa using ⟨k, hk⟩
  obtain ⟨k, hk⟩ := Option.isSome_iff_exists.mp known
  obtain ⟨s, m, hs, -, hm, -⟩ := (hs.key_iff id k).mp hk
  have := mirrorAt_eq_some_iff.mpr ⟨s, hs, hm⟩
  rw [hn] at this
  cases this

/-- When the last mirror is evicted there is no key left to drop. -/
theorem byEdits_clear : ByEdits clear := by
  intro t h x t' hs hl
  obtain ⟨-, vacant, r, hslots, rfl⟩ := leads_clear hl
  obtain ⟨keys, edits⟩ := edits_clearSlots t.keys hslots
  have none_left : keys = [] := (edits.sound hs).keys_eq_nil vacant
  rwa [none_left] at edits

end MirrorTable

end LitTiles
