import LitTiles.Batch.MirrorTable
import LitTiles.Proofs.Table

/-!
# Slots and keys

The table keeps each mirror in a slot, and finds it by way of a key. `MirrorTable.mirrorAt` looks at
the slots alone. A table is `Sound` if the keys are exactly those of the occupied slots and the free
list holds exactly the vacant ones; then finding a mirror by identity is the same as finding it in
some slot (`Sound.find?_eq_some_iff`), and no two slots hold mirrors of one layer
(`Sound.eq_of_id_eq`).

The edits of a table come down to three, each of which keeps a table sound: a change of a mirror in
its place (`Sound.modifySlot`), the loss of a mirror with its key (`Sound.evict`), and a new mirror
for a layer without one (`Sound.occupy`).
-/

namespace LitTiles

namespace MirrorTable

variable {t : MirrorTable} {id : LayerId} {i j : Nat} {m m' : Mirror}

/-! ## Looking at slots -/

/-- The mirror in a slot. -/
def mirrorAt (t : MirrorTable) (index : Nat) : Option Mirror := t.slots[index]?.bind (·.mirror)

/-- A mirror is at a place if the slot there holds it. -/
theorem mirrorAt_eq_some_iff :
    t.mirrorAt i = some m ↔ ∃ s, t.slots[i]? = some s ∧ s.mirror = some m :=
  Option.bind_eq_some_iff

theorem mirror_eq_of_mirrorAt {s : Slot} (hm : t.mirrorAt i = some m) (hs : t.slots[i]? = some s) :
    s.mirror = some m := by
  rwa [mirrorAt, hs, Option.bind_some] at hm

/-- After a change of one slot the others hold what they held. -/
theorem mirrorAt_modifySlot (f : Slot → Slot) :
    (t.modifySlot i f).mirrorAt j =
      if i = j then t.slots[j]?.bind fun s => (f s).mirror else t.mirrorAt j := by
  simp only [mirrorAt, modifySlot, List.getElem?_modify]
  split <;> cases t.slots[j]? <;> rfl

/-- Marks of a slot make no difference to the mirrors. -/
theorem mirrorAt_mark (f : Slot → Slot) (hf : ∀ s, (f s).mirror = s.mirror) :
    (t.modifySlot i f).mirrorAt j = t.mirrorAt j := by
  rw [mirrorAt_modifySlot]
  simp only [hf]
  exact ite_self _

/-- Related mirrors are the same in what the relation keeps. -/
theorem map_eq_of_rel {β : Type} {R : Mirror → Mirror → Prop} {o o' : Option Mirror}
    (h : Option.Rel R o o') {g : Mirror → β} (hg : ∀ m m', R m m' → g m = g m') :
    o.map g = o'.map g := by
  cases h with
  | none => rfl
  | some hr => exact congrArg some (hg _ _ hr)

/-- A change of a slot in its place relates mirrors to those before if it does so in the slot. -/
theorem rel_mirrorAt_modifySlot {R : Mirror → Mirror → Prop} (refl : ∀ m, R m m) {f : Slot → Slot}
    (hf : ∀ s, t.slots[i]? = some s → Option.Rel R (f s).mirror s.mirror) (j : Nat) :
    Option.Rel R ((t.modifySlot i f).mirrorAt j) (t.mirrorAt j) := by
  rw [mirrorAt_modifySlot]
  by_cases hij : i = j
  · subst hij
    rw [if_pos rfl, mirrorAt]
    cases hs : t.slots[i]? with
    | none => exact .none
    | some s => exact hf s hs
  · rw [if_neg hij]
    cases t.mirrorAt j with
    | none => exact .none
    | some m => exact .some (refl m)

/-- A mirror that is put takes the place of the one there. -/
theorem mirrorAt_putMirror (hm : t.mirrorAt i = some m) :
    (t.putMirror i m').mirrorAt j = if i = j then some m' else t.mirrorAt j := by
  obtain ⟨s, hs, -⟩ := mirrorAt_eq_some_iff.mp hm
  rw [putMirror, mirrorAt_modifySlot]
  by_cases hij : i = j
  · subst hij
    simp [hs]
  · simp [hij]

/-- A vacated slot holds nothing. -/
theorem mirrorAt_vacate :
    (t.vacate i).mirrorAt j = if i = j then none else t.mirrorAt j := by
  have h : (t.vacate i).mirrorAt j = (t.modifySlot i Slot.vacated).mirrorAt j := rfl
  rw [h, mirrorAt_modifySlot]
  cases t.slots[j]? <;> rfl

@[simp] theorem mirrorAt_eraseKey : (t.eraseKey id).mirrorAt i = t.mirrorAt i := rfl

/-! ## Looking at keys -/

/-- Erasing a key is seen by its own layer only. -/
theorem key?_eraseKey (id' : LayerId) :
    (t.eraseKey id).key? id' = if id' = id then none else t.key? id' :=
  lookup_filter_ne id id' t.keys

/-- So is inserting one, which replaces a key that was there. -/
theorem key?_insertKey (id' : LayerId) (k : SlotKey) :
    (t.insertKey id k).key? id' = if id' = id then some k else t.key? id' :=
  lookup_replace t.keys id id' k

/-- What is found under an identity is what `find?` finds, without its place. -/
theorem get?_eq_map_find? (t : MirrorTable) (id : LayerId) :
    t.get? id = (t.find? id).map (·.2) := by
  simp only [get?, find?]
  cases t.key? id with
  | none => rfl
  | some k =>
    cases hs : t.slot? k with
    | none => simp [hs]
    | some s => cases hm : s.mirror <;> simp [hs, hm]

/-! ## The next slot -/

/-- The slot that a new mirror goes to, with the generation it is found under. -/
def nextSlot (t : MirrorTable) : Nat × UInt32 :=
  match t.free with
  | i :: _ => (i, (t.slots[i]?.map (·.generation)).getD 0)
  | [] => (t.slots.length, 0)

/-- A new mirror is found at the next slot, in the generation that the slot is in by now. -/
theorem key?_occupy (m : Mirror) (id : LayerId) :
    (t.occupy m).key? id =
      if id = m.id then some ⟨t.nextSlot.1, t.nextSlot.2⟩ else t.key? id := by
  unfold occupy nextSlot
  cases t.free <;> exact key?_insertKey _ _

/-- The free list loses its head, if it had one. -/
theorem free_occupy (m : Mirror) : (t.occupy m).free = t.free.tail := by
  unfold MirrorTable.occupy
  cases t.free <;> rfl

/-! ## Soundness -/

/-- Keys and the free list tell the truth about the slots. -/
structure Sound (t : MirrorTable) : Prop where
  /-- A layer has a key if and only if the slot that the key leads to holds its mirror. -/
  key_iff : ∀ id k, t.key? id = some k ↔
    ∃ s m, t.slots[k.index]? = some s ∧ s.generation = k.generation ∧ s.mirror = some m ∧ m.id = id
  /-- No vacant slot is listed twice. -/
  free_nodup : t.free.Nodup
  /-- The free list holds the vacant slots. -/
  mem_free : ∀ i, i ∈ t.free ↔ ∃ s, t.slots[i]? = some s ∧ s.mirror = none

theorem sound_empty (limits : MirrorLimits) : Sound { limits := limits } where
  key_iff id k := by simp [key?]
  free_nodup := List.nodup_nil
  mem_free i := by simp

namespace Sound

/-- A mirror is found under an identity if and only if a slot holds it. -/
theorem find?_eq_some_iff (h : t.Sound) :
    t.find? id = some (i, m) ↔ t.mirrorAt i = some m ∧ m.id = id := by
  constructor
  · intro hf
    obtain ⟨k, hk, hf⟩ := Option.bind_eq_some_iff.mp hf
    obtain ⟨s, hs, hf⟩ := Option.bind_eq_some_iff.mp hf
    obtain ⟨m', hm', he⟩ := Option.map_eq_some_iff.mp hf
    obtain ⟨rfl, rfl⟩ := Prod.mk.inj he
    obtain ⟨s', m'', hs', -, hm'', hid⟩ := (h.key_iff id k).mp hk
    obtain rfl : s = s' := Option.some.inj ((Option.filter_eq_some_iff.mp hs).1.symm.trans hs')
    obtain rfl : m' = m'' := Option.some.inj (hm'.symm.trans hm'')
    exact ⟨mirrorAt_eq_some_iff.mpr ⟨s, hs', hm'⟩, hid⟩
  · rintro ⟨hm, rfl⟩
    obtain ⟨s, hs, hsm⟩ := mirrorAt_eq_some_iff.mp hm
    have hk : t.key? m.id = some ⟨i, s.generation⟩ :=
      (h.key_iff _ _).mpr ⟨s, m, hs, rfl, hsm, rfl⟩
    have hslot : t.slot? ⟨i, s.generation⟩ = some s := by simp [slot?, hs]
    simp [find?, hk, hslot, hsm]

/-- Finding a mirror by identity is finding it in some slot. -/
theorem get?_eq_some_iff (h : t.Sound) :
    t.get? id = some m ↔ ∃ i, t.mirrorAt i = some m ∧ m.id = id := by
  rw [get?_eq_map_find?, Option.map_eq_some_iff]
  constructor
  · rintro ⟨⟨i, m'⟩, hf, rfl⟩
    exact ⟨i, h.find?_eq_some_iff.mp hf⟩
  · rintro ⟨i, hm⟩
    exact ⟨(i, m), h.find?_eq_some_iff.mpr hm, rfl⟩

/-- If none is found, no slot has one of this identity. -/
theorem get?_eq_none_iff (h : t.Sound) :
    t.get? id = none ↔ ∀ i m, t.mirrorAt i = some m → m.id ≠ id := by
  rw [Option.eq_none_iff_forall_ne_some]
  constructor
  · intro hn i m hm hid
    exact hn m (h.get?_eq_some_iff.mpr ⟨i, hm, hid⟩)
  · intro hn m hm
    obtain ⟨i, hm, hid⟩ := h.get?_eq_some_iff.mp hm
    exact hn i m hm hid

/-- Mirrors of one layer are in one slot. -/
theorem eq_of_id_eq (h : t.Sound) (hm : t.mirrorAt i = some m) (hm' : t.mirrorAt j = some m')
    (hid : m.id = m'.id) : i = j := by
  have hi := h.find?_eq_some_iff.mpr ⟨hm, rfl⟩
  have hj := h.find?_eq_some_iff.mpr ⟨hm', rfl⟩
  rw [hid, hj] at hi
  exact (Prod.mk.inj (Option.some.inj hi)).1.symm

/-! ## The three edits -/

/-- A change in place that touches neither the generation nor the identity. -/
theorem modifySlot (h : t.Sound) {f : Slot → Slot}
    (hg : ∀ s, t.slots[i]? = some s → (f s).generation = s.generation)
    (hf : ∀ s, t.slots[i]? = some s → (f s).mirror.map (·.id) = s.mirror.map (·.id)) :
    (t.modifySlot i f).Sound := by
  -- keys and the free list tell of a slot no more than its generation and its identity
  let shape (s : Slot) : UInt32 × Option LayerId := (s.generation, s.mirror.map (·.id))
  have alike : ∀ j : Nat, ((t.modifySlot i f).slots[j]?).map shape = (t.slots[j]?).map shape := by
    intro j
    simp only [MirrorTable.modifySlot, List.getElem?_modify]
    by_cases hij : i = j
    · subst hij
      cases hs : t.slots[i]? with
      | none => rfl
      | some s => simp [shape, hg s hs, hf s hs]
    · simp [hij]
  have keyed : ∀ (u : MirrorTable) (j : Nat) g id,
      (∃ s m, u.slots[j]? = some s ∧ s.generation = g ∧ s.mirror = some m ∧ m.id = id) ↔
        (u.slots[j]?).map shape = some (g, some id) := by
    intro u j g id
    simp only [Option.map_eq_some_iff, Prod.mk.injEq, shape]
    grind
  have vacant : ∀ (u : MirrorTable) (j : Nat), (∃ s, u.slots[j]? = some s ∧ s.mirror = none) ↔
      ((u.slots[j]?).map shape).map (·.2) = some none := by
    intro u j
    simp only [Option.map_map, Option.map_eq_some_iff, Function.comp_apply, shape,
      Option.map_eq_none_iff]
  exact {
    key_iff := fun id k => by rw [keyed, alike, ← keyed]; exact h.key_iff id k
    free_nodup := h.free_nodup
    mem_free := fun j => by rw [vacant, alike, ← vacant]; exact h.mem_free j }

/-- A mirror may be replaced by one of the same layer. -/
theorem putMirror (h : t.Sound) (hm : t.mirrorAt i = some m) (hid : m'.id = m.id) :
    (t.putMirror i m').Sound := by
  refine h.modifySlot (fun _ _ => rfl) fun s hs => ?_
  rw [mirror_eq_of_mirrorAt hm hs]
  exact congrArg some hid

/-- A mirror goes, with its key. -/
theorem evict (h : t.Sound) (hm : t.mirrorAt i = some m) :
    ((t.eraseKey m.id).vacate i).Sound := by
  obtain ⟨s, hs, hsm⟩ := mirrorAt_eq_some_iff.mp hm
  have slots : ∀ j, ((t.eraseKey m.id).vacate i).slots[j]? =
      if i = j then some s.vacated else t.slots[j]? := by
    intro j
    simp only [vacate, eraseKey, MirrorTable.modifySlot, List.getElem?_modify]
    by_cases hij : i = j
    · subst hij
      simp [hs]
    · simp [hij]
  refine ⟨fun id k => ?_, ?_, fun j => ?_⟩
  · have hk : ((t.eraseKey m.id).vacate i).key? id = (t.eraseKey m.id).key? id := rfl
    rw [hk, key?_eraseKey, slots]
    -- the layer of the mirror loses its only key; other keys led to other slots already
    by_cases hid : id = m.id
    · subst hid
      simp only [if_true, reduceCtorEq, false_iff]
      rintro ⟨s', m', hs', -, hm', hid⟩
      by_cases hij : i = k.index
      · rw [if_pos hij] at hs'
        obtain rfl := Option.some.inj hs'
        cases hm'
      · rw [if_neg hij] at hs'
        exact hij (h.eq_of_id_eq hm (mirrorAt_eq_some_iff.mpr ⟨s', hs', hm'⟩) hid.symm)
    · rw [if_neg hid, h.key_iff]
      by_cases hij : i = k.index
      · simp only [hij, if_true]
        constructor
        · rintro ⟨s', m', hs', -, hm', rfl⟩
          rw [← hij, hs] at hs'
          obtain rfl := Option.some.inj hs'
          exact absurd (congrArg Mirror.id (Option.some.inj (hm'.symm.trans hsm))) hid
        · rintro ⟨s', m', hs', -, hm', -⟩
          obtain rfl := Option.some.inj hs'
          cases hm'
      · simp only [hij, if_false]
  -- the slot was occupied, so it was not in the free list before
  · refine List.nodup_cons.mpr ⟨fun hi => ?_, h.free_nodup⟩
    obtain ⟨s', hs', hn⟩ := (h.mem_free i).mp hi
    obtain rfl : s = s' := Option.some.inj (hs.symm.trans hs')
    rw [hn] at hsm
    cases hsm
  · rw [slots]
    refine List.mem_cons.trans ?_
    by_cases hij : i = j
    · subst hij
      simp [Slot.vacated]
    · have hji : ¬ j = i := fun e => hij e.symm
      simp only [hij, hji, if_false, false_or]
      exact h.mem_free j

/-- All slots after a new mirror has come: its own, which was vacant or did not exist, and the
others. -/
theorem getElem?_occupy (h : t.Sound) (m : Mirror) (j : Nat) :
    (t.occupy m).slots[j]? =
      if j = t.nextSlot.1 then some ⟨t.nextSlot.2, some m, false⟩ else t.slots[j]? := by
  unfold MirrorTable.occupy nextSlot
  cases hf : t.free with
  | nil =>
    simp only [insertKey, List.getElem?_append, List.getElem?_singleton]
    grind [Slot.occupied]
  | cons i rest =>
    obtain ⟨s, hs, -⟩ := (h.mem_free i).mp (hf ▸ List.mem_cons_self)
    simp only [insertKey, MirrorTable.modifySlot, List.getElem?_modify]
    by_cases hij : j = i
    · subst hij
      simp [hs, Slot.occupied]
    · have hji : ¬ i = j := fun e => hij e.symm
      simp [hij, hji]

/-- The next slot is vacant, or it is behind all slots. -/
theorem mirrorAt_nextSlot (h : t.Sound) : t.mirrorAt t.nextSlot.1 = none := by
  unfold nextSlot
  cases hf : t.free with
  | nil => simp [mirrorAt]
  | cons i rest =>
    obtain ⟨s, hs, hn⟩ := (h.mem_free i).mp (hf ▸ List.mem_cons_self)
    simp [mirrorAt, hs, hn]

/-- What is at a place after a new mirror has come. -/
theorem mirrorAt_occupy (h : t.Sound) (m : Mirror) (j : Nat) :
    (t.occupy m).mirrorAt j = if j = t.nextSlot.1 then some m else t.mirrorAt j := by
  rw [mirrorAt, h.getElem?_occupy]
  split <;> rfl

/-- A mirror comes, for a layer that had none. -/
theorem occupy (h : t.Sound) (hm : t.get? m.id = none) : (t.occupy m).Sound := by
  have vacant := h.mirrorAt_nextSlot
  refine ⟨fun id k => ?_, ?_, fun j => ?_⟩
  · rw [key?_occupy, h.getElem?_occupy]
    -- the new key leads to the new slot and no other one does, since the layer had no mirror
    by_cases hid : id = m.id
    · subst hid
      rw [if_pos rfl]
      constructor
      · intro he
        obtain rfl := Option.some.inj he
        exact ⟨_, m, if_pos rfl, rfl, rfl, rfl⟩
      · rintro ⟨s, m', hs, hg, hm', hid⟩
        by_cases hk : k.index = t.nextSlot.1
        · rw [if_pos hk] at hs
          obtain rfl := Option.some.inj hs
          cases k
          exact congrArg some (SlotKey.mk.injEq .. ▸ ⟨hk.symm, hg⟩)
        · rw [if_neg hk] at hs
          exact absurd hid (h.get?_eq_none_iff.mp hm _ m' (mirrorAt_eq_some_iff.mpr ⟨s, hs, hm'⟩))
    · rw [if_neg hid, h.key_iff]
      by_cases hk : k.index = t.nextSlot.1
      · rw [if_pos hk]
        constructor
        · rintro ⟨s, m', hs, -, hm', -⟩
          have := mirrorAt_eq_some_iff.mpr ⟨s, hs, hm'⟩
          rw [hk, vacant] at this
          cases this
        · rintro ⟨s, m', hs, -, hm', rfl⟩
          obtain rfl := Option.some.inj hs
          exact absurd (congrArg Mirror.id (Option.some.inj hm')).symm hid
      · rw [if_neg hk]
  · rw [free_occupy]
    exact h.free_nodup.tail
  · rw [free_occupy, h.getElem?_occupy]
    have hj := h.mem_free j
    have nodup := h.free_nodup
    -- the next slot is the head of the free list, or it is appended and the list stays empty
    unfold nextSlot
    cases hf : t.free with
    | nil =>
      simp only [hf, List.not_mem_nil, false_iff] at hj
      simp only [List.tail_nil, List.not_mem_nil, false_iff]
      grind
    | cons i rest =>
      rw [hf] at hj nodup
      simp only [List.tail_cons]
      grind

end Sound

end MirrorTable

end LitTiles
