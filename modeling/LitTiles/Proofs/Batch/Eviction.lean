import LitTiles.Proofs.Batch.UploadPolicy

/-!
# When mirrors are evicted

A collection misses a layer if no visit reached it since the collection before. A mirror is evicted
by the collection that is the last of `lifetime` collections in a row to miss its layer, and by no
other deed (`evicts_on_time`). Of what other layers do, of requests and of refused calls nothing
enters the count (`absences`), and neither does the slot that the mirror is in, whoever had it
before.

`Attendance` is what the collections have seen of a layer. `Punctual` ties the slots to it: the mark
of a slot says whether the layer was reached, and the lifetime of the mirror is what is left of it.
Each deed keeps it so (`Punctual.step`), and hence a whole log does (`Punctual.run`).
-/

namespace LitTiles

/-- A slot after a collection. -/
def Slot.aged (s : Slot) : Slot :=
  match s.mirror with
  | none => { s with touched := false }
  | some m =>
    if s.touched then { s with touched := false }
    else if 0 < m.lifetime - 1 then
      { s with touched := false, mirror := some { m with lifetime := m.lifetime - 1 } }
    else s.vacated

namespace MirrorTable

/-! ## What collections see of a layer -/

/-- What collections have seen of a layer. -/
inductive Attendance where
  /-- A visit reached the layer since the last collection. -/
  | reached
  /-- None did, and so it was for as many collections in a row. -/
  | missed (count : Nat)
  deriving DecidableEq

/-- How many collections in a row missed the layer. -/
def Attendance.absences : Attendance → Nat
  | reached => 0
  | missed n => n

/-- What is seen at a collection. -/
def Attendance.collected : Attendance → Attendance
  | reached => missed 0
  | missed n => missed (n + 1)

/-- What there is to see after a deed. Whatever comes of a visit, it reached its layer. -/
def Deed.attend (id : LayerId) (a : Attendance) : Deed → Attendance
  | asked _ => a
  | visited l _ _ => if l.id = id then .reached else a
  | collected _ => a.collected

/-- What the collections of a past have seen of a layer. -/
def attendance (id : LayerId) (past : List Moment) : Attendance :=
  past.foldl (fun a μ => μ.deed.attend id a) (.missed 0)

/-- How many collections in a row, up to the last one of a past, missed a layer: no visit reached it
since the collection before. -/
def absences (id : LayerId) (past : List Moment) : Nat := (attendance id past).absences

/-- The deed is a collection. -/
def Deed.isCollection : Deed → Bool
  | collected _ => true
  | _ => false

variable {t t' : MirrorTable} {l : Layer} {m m' : Mirror} {id : LayerId} {before : List Entry}
  {h : List Exchange} {x : Except RenderError Unit} {past ms : List Moment} {μ : Moment}
    {i : Nat} {s : Slot}

/-- The attendance is a fold over the past, so one more deed is one more step of it. -/
theorem attendance_concat (id : LayerId) (past : List Moment) (μ : Moment) :
    attendance id (past ++ [μ]) = μ.deed.attend id (attendance id past) := by
  rw [attendance, List.foldl_append]
  rfl

/-! ## Slots of other layers -/

/-- Slots with mirrors of other layers than one are as they were. -/
def SlotsBut (id : LayerId) (t t' : MirrorTable) : Prop :=
  ∀ (i : Nat) (s : Slot) (m : Mirror), s.mirror = some m → m.id ≠ id →
    (t'.slots[i]? = some s ↔ t.slots[i]? = some s)

theorem SlotsBut.refl (id : LayerId) (t : MirrorTable) : SlotsBut id t t := fun _ _ _ _ _ => Iff.rfl

/-- What two steps leave alone, both together leave alone. -/
theorem SlotsBut.trans {t₁ t₂ t₃ : MirrorTable} (hb : SlotsBut id t₁ t₂) (hb' : SlotsBut id t₂ t₃) :
    SlotsBut id t₁ t₃ :=
  fun i s m hm hid => (hb' i s m hm hid).trans (hb i s m hm hid)

/-- A slot with a mirror of the layer may change, if no mirror of another layer comes into it. -/
theorem slotsBut_modifySlot {f : Slot → Slot} (hm : t.mirrorAt i = some m) (hid : m.id = id)
    (hf : ∀ s m', t.slots[i]? = some s → (f s).mirror = some m' → m'.id = id) :
    SlotsBut id t (t.modifySlot i f) := by
  intro j s m' hs hne
  rw [modifySlot, List.getElem?_modify]
  by_cases hij : i = j
  · subst hij
    obtain ⟨s', hs', hm'⟩ := mirrorAt_eq_some_iff.mp hm
    simp only [if_pos, hs', Option.map_eq_map, Option.map_some, Option.some.injEq]
    constructor
    · rintro rfl
      exact absurd (hf s' m' hs' hs) hne
    · rintro rfl
      obtain rfl := Option.some.inj (hm'.symm.trans hs)
      exact absurd hid hne
  · simp [hij]

/-- A new mirror goes into a vacant slot, or into one at the end. Either way no mirror of another
layer was there. -/
theorem slotsBut_occupy (hs : t.Sound) (m : Mirror) : SlotsBut m.id t (t.occupy m) := by
  intro j s m' hm' hne
  rw [hs.getElem?_occupy]
  by_cases hj : j = t.nextSlot.1
  · subst hj
    rw [if_pos rfl]
    constructor
    · intro he
      obtain rfl := Option.some.inj he
      obtain rfl := Option.some.inj hm'
      exact absurd rfl hne
    · intro hslot
      have vacant := hs.mirrorAt_nextSlot
      rw [mirrorAt, hslot, Option.bind_some, hm'] at vacant
      cases vacant
  · rw [if_neg hj]

/-- Vacating takes a mirror out of its own slot. -/
theorem slotsBut_vacate (hm : t.mirrorAt i = some m) :
    SlotsBut m.id t ((t.eraseKey m.id).vacate i) := by
  have slots : SlotsBut m.id t (t.modifySlot i Slot.vacated) :=
    slotsBut_modifySlot hm rfl fun s m' _ hm' => by cases hm'
  exact slots

/-- A mirror that is replaced by one of its own layer changes only its own slot. -/
theorem slotsBut_putMirror (hm : t.mirrorAt i = some m) (hid : m'.id = m.id) :
    SlotsBut m.id t (t.putMirror i m') := by
  refine slotsBut_modifySlot hm rfl fun s m'' _ hm'' => ?_
  obtain rfl := Option.some.inj hm''
  exact hid

/-! ## A visit -/

/-- The steps of a visit leave the ceilings and the slots of other layers alone. -/
structure VisitOf (id : LayerId) (t t' : MirrorTable) : Prop where
  /-- Ceilings stay. -/
  limits : t'.limits = t.limits
  /-- So do the slots of other layers. -/
  slots : SlotsBut id t t'

theorem VisitOf.refl (id : LayerId) (t : MirrorTable) : VisitOf id t t := ⟨rfl, .refl id t⟩

/-- A visit is put together from its steps. -/
theorem VisitOf.trans {t₁ t₂ t₃ : MirrorTable} (hv : VisitOf id t₁ t₂) (hv' : VisitOf id t₂ t₃) :
    VisitOf id t₁ t₃ :=
  ⟨hv'.limits.trans hv.limits, hv.slots.trans hv'.slots⟩

/-- A mirror of the wrong kind is dropped from the slot of its layer, and nowhere else. -/
theorem visitOf_dropOther (hk : t.Kept before) (hl : (dropOther l).Leads t h x t') :
    VisitOf l.id t t' := by
  obtain ⟨-, drops⟩ := drops_of_leads hk.sound hl
  cases drops with
  | fits => exact .refl _ _
  | other hm hid =>
    rw [← hid]
    exact ⟨rfl, slotsBut_vacate hm⟩

/-- Ceilings are not moved by a new mirror, whether a slot was free or one is appended. -/
theorem limits_occupy (t : MirrorTable) (m : Mirror) : (t.occupy m).limits = t.limits := by
  unfold occupy
  cases t.free <;> rfl

/-- Making sure of a mirror makes one in a slot for its layer, or does nothing. -/
theorem visitOf_ensure (hk : t.Kept before) (hl : (ensure l).Leads t h x t') :
    VisitOf l.id t t' := by
  cases ensures_of_leads hl with
  | there | refused => exact .refl _ _
  | made hn b => exact ⟨limits_occupy _ _, slotsBut_occupy hk.sound (t.newMirror l b)⟩

/-- A slot with the mirror of a layer is marked, and the mirror has all of its lifetime. -/
def Marked (id : LayerId) (lifetime : Nat) (t : MirrorTable) : Prop :=
  ∀ (i : Nat) (s : Slot) (m : Mirror), t.slots[i]? = some s → s.mirror = some m → m.id = id →
    s.touched = true ∧ m.lifetime = lifetime

/-- A layer without a mirror has no slot that could lack a mark. -/
theorem marked_of_none (hs : t.Sound) (hn : t.get? id = none) (lifetime : Nat) :
    Marked id lifetime t := by
  intro i s m hi hm hid
  exact absurd hid (hs.get?_eq_none_iff.mp hn i m (mirrorAt_eq_some_iff.mpr ⟨s, hi, hm⟩))

/-- It is enough to look at one slot. -/
theorem marked_of_slot {lifetime : Nat} (hs : t.Sound) (hi : t.slots[i]? = some s)
    (hm : s.mirror = some m) (htouched : s.touched = true) (hlifetime : m.lifetime = lifetime) :
    Marked m.id lifetime t := by
  intro j s' m' hj hm' hid
  have same :=
    hs.eq_of_id_eq (mirrorAt_eq_some_iff.mpr ⟨s', hj, hm'⟩)
    (mirrorAt_eq_some_iff.mpr ⟨s, hi, hm⟩) hid
  subst same
  obtain rfl := Option.some.inj (hj.symm.trans hi)
  obtain rfl := Option.some.inj (hm'.symm.trans hm)
  exact ⟨htouched, hlifetime⟩

/-- Touching sets the mark and gives back all of the lifetime. Only here are the two ever raised. -/
theorem marked_touch (hk : t.Kept before) (hl : (touch l).Leads t h x t') :
    VisitOf l.id t t' ∧ Marked l.id t.limits.lifetime t' := by
  obtain ⟨-, -, touches⟩ := touches_of_leads hk.sound hl
  cases touches with
  | missing hn => exact ⟨.refl _ _, marked_of_none hk.sound hn _⟩
  | @marked i m hm hid =>
    obtain ⟨s, hi, hsm⟩ := mirrorAt_eq_some_iff.mp hm
    have slot : (t.refresh i m l).slots[i]? = some
        { s with
          touched := true
          mirror := some { m with lifetime := t.limits.lifetime, z := l.z } } := by
      simp [refresh, modifySlot, hi]
    have marked := marked_of_slot (hk.refresh hm l).sound slot rfl rfl rfl
    rw [← hid]
    refine ⟨⟨rfl, slotsBut_modifySlot hm rfl fun s m' _ hm' => ?_⟩, marked⟩
    obtain rfl := Option.some.inj hm'
    rfl

/-- A mirror of the same age may take the place of another one. -/
theorem marked_putMirror {lifetime : Nat} (hk : t.Kept before) (hmarked : Marked id lifetime t)
    (hm : t.mirrorAt i = some m) (hid : m.id = id) (same : m'.id = m.id)
    (age : m'.lifetime = m.lifetime) :
    VisitOf id t (t.putMirror i m') ∧ Marked id lifetime (t.putMirror i m') := by
  obtain ⟨s, hi, hsm⟩ := mirrorAt_eq_some_iff.mp hm
  obtain ⟨htouched, hlifetime⟩ := hmarked i s m hi hsm hid
  have slot : (t.putMirror i m').slots[i]? = some { s with mirror := some m' } := by
    simp [putMirror, modifySlot, hi]
  have marked := marked_of_slot (hk.sound.putMirror hm same) slot rfl htouched (age.trans hlifetime)
  rw [same, hid] at marked
  exact ⟨⟨rfl, hid ▸ slotsBut_putMirror hm same⟩, marked⟩

/-- An update that writes or reports leaves the mark and the lifetime as they are, since it only
replaces a mirror by one of the same age. -/
theorem marked_update {lifetime : Nat} (hk : t.Kept before) (hmarked : Marked l.id lifetime t)
    (hl : (update l).Leads t h x t') : VisitOf l.id t t' ∧ Marked l.id lifetime t' := by
  cases updates_of_leads hk.sound hl with
  | missing | current => exact ⟨.refl _ _, hmarked⟩
  | refused hm hid | granted hm hid => exact marked_putMirror hk hmarked hm hid rfl rfl

/-- **What a visit does with marks and lifetimes.** The slot of its layer is marked and has all of
its lifetime, if the layer has a mirror at all, and other slots are as they were. -/
theorem marked_syncLayer (hk : t.Kept before) (hl : (syncLayer l).Leads t h x t') :
    VisitOf l.id t t' ∧ Marked l.id t.limits.lifetime t' := by
  have sound := (kept_syncLayer hk hl).1.sound
  cases steps_of_leads hk.sound hl with
  | stopped hd he =>
    obtain ⟨-, hk₁, -⟩ := kept_dropOther hk hd
    obtain ⟨-, hn, -⟩ := leads_room_error hk hd he
    exact ⟨(visitOf_dropOther hk hd).trans (visitOf_ensure hk₁ he), marked_of_none sound hn _⟩
  | arrived hd he ht hu =>
    obtain ⟨-, hk₁, hf₁, -⟩ := kept_dropOther hk hd
    obtain ⟨hk₂, hf₂, -⟩ := kept_ensure hk₁ hf₁ he
    obtain ⟨-, -, hk₃, -⟩ := kept_touch hk₂ hf₂ ht
    have room := (visitOf_dropOther hk hd).trans (visitOf_ensure hk₁ he)
    obtain ⟨touched, marked⟩ := marked_touch hk₂ ht
    rw [room.limits] at marked
    obtain ⟨updated, marked⟩ := marked_update hk₃ marked hu
    exact ⟨(room.trans touched).trans updated, marked⟩

/-! ## A collection -/

/-- Collecting one slot ages it. What it frees is not seen in the slots. -/
theorem slots_of_collectSlot (hl : (collectSlot i).Leads t h x t') :
    t'.limits = t.limits ∧ t'.slots = t.slots.modify i Slot.aged := by
  -- only what becomes of the slot itself is to be shown
  have enough : ∀ {s : Slot} {f : Slot → Slot}, t.slots[i]? = some s → f s = s.aged →
      t.slots.modify i f = t.slots.modify i Slot.aged := by
    intro s f hs hf
    refine List.ext_getElem? fun j => ?_
    rw [List.getElem?_modify, List.getElem?_modify]
    by_cases hij : i = j
    · subst hij
      simp [hs, hf]
    · simp [hij]
  obtain ⟨-, collects⟩ := collects_of_leads hl
  cases collects with
  | missing hs => exact ⟨rfl, (List.modify_eq_self (List.getElem?_eq_none_iff.mp hs)).symm⟩
  | vacant hs hm => exact ⟨rfl, enough hs (by rw [Slot.aged, hm])⟩
  | spared hs hm ht => exact ⟨rfl, enough hs (by simp only [Slot.aged, hm, if_pos ht])⟩
  | aged hs hm ht hlife =>
    refine ⟨rfl, (List.modify_modify_eq ..).trans (enough hs ?_)⟩
    simp only [Function.comp_apply, Slot.aged, hm, if_neg ht, if_pos hlife]
  | evicted hs hm ht hlife =>
    refine ⟨rfl, (List.modify_modify_eq ..).trans (enough hs ?_)⟩
    simp only [Function.comp_apply, Slot.aged, hm, if_neg ht, if_neg hlife, Slot.vacated]

/-- Collecting several slots ages each of them once. The numbers have to be distinct, for a slot
that came twice would age twice. -/
theorem slots_of_collectSlots {is : List Nat} (hn : is.Nodup)
    (hl : (is.forM collectSlot).Leads t h x t') :
    t'.limits = t.limits ∧ ∀ j, t'.slots[j]? = if j ∈ is then (t.slots[j]?).map Slot.aged
    else t.slots[j]? := by
  induction is generalizing t h with
  | nil =>
    obtain ⟨-, -, rfl⟩ := Action.leads_forM_nil.mp hl
    exact ⟨rfl, fun j => rfl⟩
  | cons i is ih =>
    obtain ⟨hi, hn⟩ := List.nodup_cons.mp hn
    rcases Action.leads_bind.mp hl with ⟨e, rfl, hslot⟩ | ⟨_, h₁, h₂, r, rfl, hslot, hrest⟩
    · obtain ⟨-, he, -⟩ := leads_collectSlot hslot
      cases he
    obtain ⟨hlimits, hslots⟩ := slots_of_collectSlot hslot
    obtain ⟨hlimits', hslots'⟩ := ih hn hrest
    refine ⟨hlimits'.trans hlimits, fun j => ?_⟩
    rw [hslots', hslots, List.getElem?_modify]
    by_cases hij : j = i
    · subst hij
      simp [hi]
    · have hji : ¬ i = j := fun he => hij he.symm
      simp [hij, hji]

/-- A collection ages every slot. -/
theorem slots_of_collect (hl : collect.Leads t h x t') :
    t'.limits = t.limits ∧ t'.slots = t.slots.map Slot.aged := by
  obtain ⟨hlimits, hslots⟩ := slots_of_collectSlots List.nodup_range (Action.leads_get_bind.mp hl)
  refine ⟨hlimits, List.ext_getElem? fun j => ?_⟩
  rw [hslots, List.getElem?_map]
  by_cases hj : j < t.slots.length
  · rw [if_pos (List.mem_range.mpr hj)]
  · rw [List.getElem?_eq_none (Nat.le_of_not_lt hj), Option.map_none, ite_self]

/-- The mirrors of a table, in the order of their slots. -/
def mirrors (t : MirrorTable) : List Mirror := t.slots.filterMap (·.mirror)

/-- Reading a list by its numbers finds what reading the list itself finds. -/
theorem filterMap_range_getElem? {α β : Type} (f : α → Option β) (as : List α) :
    (List.range as.length).filterMap (fun i => as[i]?.bind f) = as.filterMap f := by
  induction as with
  | nil => rfl
  | cons a as ih =>
    rw [List.length_cons, List.range_succ_eq_map]
    cases h : f a with
    | none =>
      rw [List.filterMap_cons_none h, List.filterMap_cons_none (by exact h), List.filterMap_map]
      exact ih
    | some b =>
      rw [List.filterMap_cons_some h, List.filterMap_cons_some (by exact h), List.filterMap_map]
      exact congrArg _ ih

/-- The buffers that a collection gives back, slot by slot. -/
theorem evicted_eq (t : MirrorTable) : t.evicted = t.slots.filterMap fun s => s.mirror.bind fun m =>
    if s.touched ∨ 0 < m.lifetime - 1 then none else some m.buffer :=
  filterMap_range_getElem? _ t.slots

/-! ## Marks and lifetimes tell the attendance -/

/-- What collections have seen of a layer can be told from a mark and from what is left of a
lifetime. -/
def Attendance.Tells (lifetime : Nat) : Attendance → Bool → Nat → Prop
  | reached, touched, left => touched = true ∧ left = lifetime
  | missed n, touched, left => touched = false ∧ left + n = lifetime ∧ 0 < left

variable {lifetime : Nat} {a : Attendance}

/-- A mirror that is still there has missed fewer collections than its lifetime. -/
theorem Attendance.Tells.absences_lt {touched : Bool} {left : Nat}
    (ht : a.Tells lifetime touched left) (hlife : 0 < lifetime) : a.absences < lifetime := by
  cases a with
  | reached => exact hlife
  | missed n =>
    obtain ⟨-, rfl, hleft⟩ := ht
    exact Nat.lt_add_of_pos_left hleft

/-- A mirror that is not evicted tells of one collection more. -/
theorem Attendance.Tells.aged (ht : a.Tells lifetime s.touched m.lifetime) (hm : s.mirror = some m)
    (hlife : 0 < lifetime) :
    ((s.touched = true ∨ 0 < m.lifetime - 1) ∧ a.collected.absences ≠ lifetime ∧
      ∃ m', s.aged.mirror = some m' ∧ m'.id = m.id ∧
      a.collected.Tells lifetime s.aged.touched m'.lifetime) ∨
    (¬ (s.touched = true ∨ 0 < m.lifetime - 1) ∧ a.collected.absences = lifetime ∧
      s.aged.mirror = none) := by
  cases a with
  | reached =>
    obtain ⟨htouched, hleft⟩ := ht
    have aged : s.aged = { s with touched := false } := by
      simp only [Slot.aged, hm, if_pos htouched]
    rw [aged]
    exact .inl ⟨.inl htouched, hlife.ne, m, hm, rfl, rfl, hleft, hleft ▸ hlife⟩
  | missed n =>
    obtain ⟨htouched, hleft, hpos⟩ := ht
    have untouched : ¬ s.touched = true := by simp [htouched]
    -- a layer that was missed loses one of its lifetime, and its mirror with the last one
    by_cases hmore : 0 < m.lifetime - 1
    · have aged : s.aged =
          { s with touched := false, mirror := some { m with lifetime := m.lifetime - 1 } } := by
        simp only [Slot.aged, hm, if_neg untouched, if_pos hmore]
      rw [aged]
      refine .inl ⟨.inr hmore, ?_, _, rfl, rfl, rfl, ?_, hmore⟩
      · simp only [Attendance.collected, Attendance.absences]
        omega
      · simp only
        omega
    · have aged : s.aged = s.vacated := by simp only [Slot.aged, hm, if_neg untouched, if_neg hmore]
      rw [aged]
      refine .inr ⟨not_or.mpr ⟨untouched, hmore⟩, ?_, rfl⟩
      simp only [Attendance.collected, Attendance.absences]
      omega

/-- The slots of a table tell what the collections of a past have seen of its layers. -/
structure Punctual (lifetime : Nat) (past : List Moment) (t : MirrorTable) : Prop where
  /-- New mirrors get this lifetime. -/
  limits : t.limits.lifetime = lifetime
  /-- The mark of a slot and the lifetime of its mirror tell of the layer. -/
  tells : ∀ (i : Nat) (s : Slot) (m : Mirror), t.slots[i]? = some s → s.mirror = some m →
    (attendance m.id past).Tells lifetime s.touched m.lifetime

/-- The slot of a mirror, found through the keys, with what its mark and lifetime tell. -/
theorem Punctual.tells_of_get? (hp : Punctual lifetime past t) (hk : t.Kept before)
    (hg : t.get? id = some m) :
    ∃ (i : Nat) (s : Slot), t.slots[i]? = some s ∧ s.mirror = some m ∧ m.id = id ∧
      (attendance id past).Tells lifetime s.touched m.lifetime := by
  obtain ⟨i, hi, rfl⟩ := hk.sound.get?_eq_some_iff.mp hg
  obtain ⟨s, hs, hm⟩ := mirrorAt_eq_some_iff.mp hi
  exact ⟨i, s, hs, hm, rfl, hp.tells i s m hs hm⟩

/-- A request clears the contents of a mirror, not its mark or lifetime. -/
theorem Punctual.asked (hp : Punctual lifetime past t) (hk : t.Kept before) (id : LayerId)
    (t' : MirrorTable) :
    Punctual lifetime (past ++ [⟨.asked id, t'⟩]) (t.invalidate id) := by
  refine ⟨?_, fun i s m hs hm => ?_⟩
  · unfold invalidate
    split <;> exact hp.limits
  rw [attendance_concat]
  unfold invalidate at hs
  cases hf : t.find? id with
  | none =>
    rw [hf] at hs
    exact hp.tells i s m hs hm
  | some p =>
    obtain ⟨j, m₀⟩ := p
    obtain ⟨hm₀, -⟩ := hk.sound.find?_eq_some_iff.mp hf
    obtain ⟨s₀, hs₀, hsm₀⟩ := mirrorAt_eq_some_iff.mp hm₀
    simp only [hf, putMirror, modifySlot, List.getElem?_modify] at hs
    -- a request changes nothing that tells the attendance, be it of this slot or another
    by_cases hji : j = i
    · subst hji
      simp only [if_pos, hs₀, Option.map_eq_map, Option.map_some, Option.some.injEq] at hs
      obtain rfl := hs
      obtain rfl := Option.some.inj hm
      exact hp.tells j s₀ m₀ hs₀ hsm₀
    · simp only [if_neg hji, id_map'] at hs
      exact hp.tells i s m hs hm

/-- After a visit the slot of its layer tells that the layer was reached just now. For other layers
neither the slot nor the attendance has changed. -/
theorem Punctual.visited (hp : Punctual lifetime past t) (hk : t.Kept before)
    (hl : (syncLayer l).Leads t h x t') :
    Punctual lifetime (past ++ [⟨.visited l h x, t'⟩]) t' := by
  obtain ⟨visit, marked⟩ := marked_syncLayer hk hl
  refine ⟨visit.limits ▸ hp.limits, fun i s m hs hm => ?_⟩
  rw [attendance_concat]
  by_cases hid : l.id = m.id
  · obtain ⟨htouched, hleft⟩ := marked i s m hs hm hid.symm
    simp only [Deed.attend, if_pos hid]
    exact ⟨htouched, hleft.trans hp.limits⟩
  · simp only [Deed.attend, if_neg hid]
    exact hp.tells i s m ((visit.slots i s m hm fun he => hid he.symm).mp hs) hm

/-- A collection ages every slot and every attendance by the same rule. Slots whose mirror goes are
empty afterwards, so nothing is left to tell. -/
theorem Punctual.collected (hp : Punctual lifetime past t) (hl : collect.Leads t h (.ok ()) t')
    (hlife : 0 < lifetime) : Punctual lifetime (past ++ [⟨.collected h, t'⟩]) t' := by
  obtain ⟨hlimits, hslots⟩ := slots_of_collect hl
  refine ⟨hlimits ▸ hp.limits, fun i s' m' hs' hm' => ?_⟩
  rw [hslots, List.getElem?_map, Option.map_eq_some_iff] at hs'
  obtain ⟨s, hs, rfl⟩ := hs'
  rw [attendance_concat]
  cases hm : s.mirror with
  | none =>
    rw [Slot.aged, hm] at hm'
    cases hm'
  | some m =>
    rcases (hp.tells i s m hs hm).aged hm hlife with ⟨-, -, m'', haged, hid, tells⟩ | ⟨-, -, hnone⟩
    · obtain rfl := Option.some.inj (haged.symm.trans hm')
      rw [hid]
      exact tells
    · rw [hnone] at hm'
      cases hm'

/-- **Each deed leaves a table whose slots tell of one deed more.** -/
theorem Punctual.step (hp : Punctual lifetime past t) (hk : t.Kept before) (hlife : 0 < lifetime)
    (hd : μ.deed.Leads t μ.table) : Punctual lifetime (past ++ [μ]) μ.table := by
  obtain ⟨d, t'⟩ := μ
  cases d with
  | asked id =>
    obtain rfl : t' = t.invalidate id := hd
    exact hp.asked hk id _
  | visited l h x => exact hp.visited hk hd
  | collected h => exact hp.collected hd hlife

/-- So do all deeds of a log. -/
theorem Punctual.run (hp : Punctual lifetime past t) (hk : t.Kept before) (hlife : 0 < lifetime)
    (hf : Follows t ms) : Punctual lifetime (past ++ ms) (tableAfter t ms) := by
  induction ms generalizing t past before with
  | nil => rwa [List.append_nil]
  | cons μ ms ih =>
    obtain ⟨hd, hrest⟩ := hf
    have rest := ih (hp.step hk hlife hd) (hd.kept hk) hrest
    rwa [List.append_assoc] at rest

/-! ## Which mirrors go -/

/-- The absences after a collection are those of the attendance, collected once more. -/
theorem absences_collected (id : LayerId) (past : List Moment) (h : List Exchange)
    (t' : MirrorTable) :
    absences id (past ++ [⟨.collected h, t'⟩]) = (attendance id past).collected.absences := by
  rw [absences, attendance_concat]
  rfl

/-- The buffers that a collection gives back are those of the mirrors whose layers it is the last
one to miss. -/
theorem Punctual.frees (hp : Punctual lifetime past t) (hlife : 0 < lifetime)
    (hl : collect.Leads t h (.ok ()) t') :
    h = (t.mirrors.filter fun m => absences m.id (past ++ [⟨.collected h, t'⟩]) = lifetime).map
      fun m => .freed m.buffer := by
  obtain ⟨he, -⟩ := leads_collect hl
  simp only [absences_collected]
  rw [he, evicted_eq, mirrors, List.filter_filterMap, List.map_filterMap, List.map_filterMap]
  refine List.filterMap_congr fun s hs => ?_
  obtain ⟨i, hi⟩ := List.mem_iff_getElem?.mp hs
  cases hm : s.mirror with
  | none => rfl
  | some m =>
    rcases (hp.tells i s m hi hm).aged hm hlife with ⟨hstays, hne, -⟩ | ⟨hgoes, heq, -⟩
    · rw [Option.bind_some, if_pos hstays, Option.filter_some, if_neg (by rwa [decide_eq_true_eq])]
      rfl
    · rw [Option.bind_some, if_neg hgoes, Option.filter_some, if_pos (by rwa [decide_eq_true_eq])]
      rfl

/-- A mirror that is in a slot after aging was in it before. -/
theorem exists_of_aged (hm : s.aged.mirror = some m') : ∃ m, s.mirror = some m ∧ m'.id = m.id := by
  unfold Slot.aged at hm
  cases hs : s.mirror with
  | none =>
    rw [hs] at hm
    cases hm
  | some m =>
    simp only [hs] at hm
    split_ifs at hm
    · exact ⟨m, rfl, (congrArg Mirror.id (Option.some.inj hm)).symm⟩
    · exact ⟨m, rfl, (congrArg Mirror.id (Option.some.inj hm)).symm⟩
    · cases hm

/-- So are the mirrors that are gone after it. -/
theorem Punctual.evicts (hp : Punctual lifetime past t) (hk : t.Kept before) (hlife : 0 < lifetime)
    (hl : collect.Leads t h (.ok ()) t') (hg : t.get? id = some m) :
    t'.get? id = none ↔ absences id (past ++ [⟨.collected h, t'⟩]) = lifetime := by
  have sound := (keeps_collect t before _ _ t' hk ⟨h, rfl, hl⟩).sound
  obtain ⟨-, hslots⟩ := slots_of_collect hl
  obtain ⟨i, s, hi, hm, rfl, tells⟩ := hp.tells_of_get? hk hg
  have aged : t'.slots[i]? = some s.aged := by rw [hslots, List.getElem?_map, hi, Option.map_some]
  rw [absences_collected]
  rcases tells.aged hm hlife with ⟨-, hne, m', hm', hid, -⟩ | ⟨-, heq, hnone⟩
  · have stays : t'.get? m.id = some m' :=
      sound.get?_eq_some_iff.mpr ⟨i, mirrorAt_eq_some_iff.mpr ⟨s.aged, aged, hm'⟩, hid⟩
    simp [stays, hne]
  · refine iff_of_true (sound.get?_eq_none_iff.mpr fun j m' hj hid => ?_) heq
    -- the mirror would have been in the same slot before
    obtain ⟨s', hs', hm'⟩ := mirrorAt_eq_some_iff.mp hj
    rw [hslots, List.getElem?_map, Option.map_eq_some_iff] at hs'
    obtain ⟨s₀, hs₀, rfl⟩ := hs'
    obtain ⟨m₀, hm₀, hid₀⟩ := exists_of_aged hm'
    obtain rfl := hk.sound.eq_of_id_eq (mirrorAt_eq_some_iff.mpr ⟨s₀, hs₀, hm₀⟩)
      (mirrorAt_eq_some_iff.mpr ⟨s, hi, hm⟩) (hid₀.symm.trans hid)
    obtain rfl := Option.some.inj (hs₀.symm.trans hi)
    rw [hnone] at hm'
    cases hm'

/-- Requests keep every mirror and its buffer. -/
theorem exists_get?_invalidate (hk : t.Kept before) (hg : t.get? id = some m) (id' : LayerId) :
    ∃ m', (t.invalidate id').get? id = some m' ∧ m'.buffer = m.buffer := by
  have sound := (hk.invalidate id').sound
  unfold invalidate at sound ⊢
  cases hf : t.find? id' with
  | none => exact ⟨m, hg, rfl⟩
  | some p =>
    obtain ⟨j, m₀⟩ := p
    obtain ⟨hj, -⟩ := hk.sound.find?_eq_some_iff.mp hf
    obtain ⟨i, hi, hid⟩ := hk.sound.get?_eq_some_iff.mp hg
    simp only [hf] at sound ⊢
    have put : (t.putMirror j { m₀ with needsUpdate := true }).mirrorAt i =
        if j = i then some { m₀ with needsUpdate := true } else t.mirrorAt i :=
        mirrorAt_putMirror hj
    by_cases hji : j = i
    · subst hji
      obtain rfl := Option.some.inj (hj.symm.trans hi)
      exact ⟨_, sound.get?_eq_some_iff.mpr ⟨j, put.trans (if_pos rfl), hid⟩, rfl⟩
    · exact ⟨m, sound.get?_eq_some_iff.mpr ⟨i, (put.trans (if_neg hji)).trans hi, hid⟩, rfl⟩

/-- A visit of a layer with the upload policy of its mirror leaves it the mirror. -/
theorem exists_get?_syncLayer (hk : t.Kept before) (hg : t.get? l.id = some m)
    (hkind : m.kind = l.kind) (hl : (syncLayer l).Leads t h x t') : ∃ m', t'.get? l.id = some m' ∧
    m'.buffer = m.buffer := by
  rcases leads_syncLayer hk hl with ⟨hfresh, -⟩ | ⟨b, w, -, hw, hcase⟩
  · exact absurd hkind (hfresh m hg)
  rw [(mirrorFor_of_get? hg hkind b).1] at hw hcase
  rcases hcase with ⟨-, -, -, hg'⟩ | ⟨-, hg', -⟩
  · exact ⟨w, hg', hw.buffer⟩
  · refine ⟨answered w l x, hg', ?_⟩
    cases x <;> exact hw.buffer

/-- Other deeds than collections evict nothing. -/
theorem Deed.Leads.spares {d : Deed} (hd : d.Leads t t') (hk : t.Kept before)
    (hother : d.isCollection = false) (hg : t.get? id = some m) :
    (∃ m', t'.get? id = some m' ∧ m'.buffer = m.buffer) ∨
      ∃ l h x, d = .visited l h x ∧ l.id = id ∧ m.kind ≠ l.kind := by
  cases d with
  | collected h => cases hother
  | asked id' =>
    obtain rfl : t' = t.invalidate id' := hd
    exact .inl (exists_get?_invalidate hk hg id')
  | visited l h x =>
    by_cases hid : l.id = id
    · subst hid
      by_cases hkind : m.kind = l.kind
      · exact .inl (exists_get?_syncLayer hk hg hkind hd)
      · exact .inr ⟨l, h, x, rfl, rfl, hkind⟩
    · rw [(kept_syncLayer hk hd).2.1 id fun he => hid he.symm]
      exact .inl ⟨m, hg, rfl⟩

/-- A log evicts mirrors on time. -/
structure EvictsOnTime (lifetime : Nat) (t : MirrorTable) (ms : List Moment) : Prop where
  /-- A collection gives back the buffers of the mirrors whose layers it is the last of `lifetime`
  collections in a row to miss, in the order of their slots. -/
  frees : ∀ past μ future h, ms = past ++ μ :: future → μ.deed = .collected h →
    h = ((tableAfter t past).mirrors.filter fun m => absences m.id (past ++ [μ]) = lifetime).map
      fun m => .freed m.buffer
  /-- Those mirrors go, and no others. -/
  evicts : ∀ past μ future id m, ms = past ++ μ :: future → μ.deed.isCollection = true →
    (tableAfter t past).get? id = some m →
    (μ.table.get? id = none ↔ absences id (past ++ [μ]) = lifetime)
  /-- So none is ever too late. -/
  neverLater : ∀ past future id m, ms = past ++ future → (tableAfter t past).get? id = some m →
    absences id past < lifetime
  /-- No other deed evicts a mirror: it stays, with its buffer, unless its own layer comes with
  another upload policy. -/
  spares : ∀ past μ future id m, ms = past ++ μ :: future → μ.deed.isCollection = false →
    (tableAfter t past).get? id = some m →
    (∃ m', μ.table.get? id = some m' ∧ m'.buffer = m.buffer) ∨
      ∃ l h x, μ.deed = .visited l h x ∧ l.id = id ∧ m.kind ≠ l.kind

/-- Before anything is done there is no slot. -/
theorem punctual_empty (limits : MirrorLimits) : Punctual limits.lifetime []
    { limits := limits } where
  limits := rfl
  tells i s m hs := by simp at hs

/-- The law of evictions over a log, from `Punctual.run`: each collection evicts just the mirrors
whose layers have now been missed `lifetime` times, and no other deed evicts. -/
theorem evictsOnTime {limits : MirrorLimits} (hlife : 0 < limits.lifetime)
    (hf : Follows { limits := limits } ms) :
    EvictsOnTime limits.lifetime { limits := limits } ms := by
  -- before each deed of the log the table is kept and punctual
  have prior : ∀ past future, ms = past ++ future →
      (tableAfter { limits := limits } past).Kept (trailOf past) ∧
      Punctual limits.lifetime past (tableAfter { limits := limits } past) ∧
      Follows (tableAfter { limits := limits } past) future := by
    rintro past future rfl
    obtain ⟨hpast, hfuture⟩ := follows_append.mp hf
    exact ⟨hpast.kept (kept_empty limits),
      (punctual_empty limits).run (kept_empty limits) hlife hpast, hfuture⟩
  refine ⟨?_, ?_, ?_, ?_⟩
  · intro past μ future h hms hdeed
    obtain ⟨-, punctual, hd, -⟩ := prior past _ hms
    obtain ⟨d, t'⟩ := μ
    obtain rfl : d = .collected h := hdeed
    exact punctual.frees hlife hd
  · intro past μ future id m hms hcol hg
    obtain ⟨kept, punctual, hd, -⟩ := prior past _ hms
    obtain ⟨d, t'⟩ := μ
    cases d with
    | collected h => exact punctual.evicts kept hlife hd hg
    | _ => cases hcol
  · intro past future id m hms hg
    obtain ⟨kept, punctual, -⟩ := prior past future hms
    obtain ⟨_, _, -, -, -, tells⟩ := punctual.tells_of_get? kept hg
    exact tells.absences_lt hlife
  · intro past μ future id m hms hother hg
    obtain ⟨kept, -, hd, -⟩ := prior past _ hms
    exact hd.spares kept hother hg

variable {limits : MirrorLimits} {ops : List Op}

/-- **Mirrors are evicted on time.** Whatever is done with a table, and whatever of it fails, can be
logged, and in every log a mirror goes with the last of `lifetime` collections in a row that miss
its layer, and not by any other deed. A collection misses a layer if since the one before no visit
reached it; so a `sync` that stopped at an earlier layer does not count, and neither do other
layers, requests and former tenants of the slot. -/
theorem evicts_on_time (ha : Action.Attempts (ops.map Op.action) { limits := limits } h t)
    (hlife : 0 < limits.lifetime) :
    (∃ ms, IsLog ops { limits := limits } ms h t) ∧
    ∀ ms, IsLog ops { limits := limits } ms h t →
    EvictsOnTime limits.lifetime { limits := limits } ms :=
  ⟨exists_log ha, fun _ hlog => evictsOnTime hlife hlog.follows⟩

/-- A backend that numbers its calls and refuses the third one. -/
def stumbling : Backend Nat where
  perform
    | .createBuffer _, n => (if n = 2 then .error (.surface "lost") else .ok ⟨.ofNat n⟩, n + 1)
    | .freeBuffer _, n => ((), n + 1)
    | .issue _, n => (.ok (), n + 1)
  notice _ n := n

/-- A layer that comes while another one goes. -/
def arriving : Layer := { still with id := ⟨3⟩ }

/-- A layer is seen once, and is asked for in vain. Another one comes twice in front of it, and gets
its slot. -/
def passing : List Op :=
  [.sync [still], .collect, .sync [arriving, still], .invalidate still.id, .collect, .collect,
    .sync [arriving], .collect, .collect, .collect]

/-- The `sync` that stops at the new layer does not save the other one: the second collection to
miss it takes it away. The new tenant of the slot has two collections of its own. -/
theorem evicts_on_time_passing :
    let run := Action.playAll stumbling (passing.map Op.action) { limits := ⟨8, 4, 2⟩ } 0
    run.1.map (fun e => CallKind.of e.call) = [.createBuffer, .writeInstances,
      .createBuffer, .freeBuffer, .createBuffer, .writeInstances, .freeBuffer] ∧
    0 < (⟨8, 4, 2⟩ : MirrorLimits).lifetime ∧
    (∃ ms, IsLog passing { limits := ⟨8, 4, 2⟩ } ms run.1 run.2.1) ∧
    ∀ ms, IsLog passing { limits := ⟨8, 4, 2⟩ } ms run.1 run.2.1 →
    EvictsOnTime 2 { limits := ⟨8, 4, 2⟩ } ms :=
  ⟨by decide +kernel, by decide,
    evicts_on_time (Action.attempts_playAll stumbling (passing.map Op.action) _ 0) (by decide)⟩

end MirrorTable

end LitTiles
