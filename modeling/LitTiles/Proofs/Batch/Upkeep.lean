import LitTiles.Proofs.Backend.Trail
import LitTiles.Proofs.Batch.Steps

/-!
# Operations on the table of mirrors

Each operation on the table keeps the invariant `MirrorTable.Kept`, whatever the backend answers and
wherever an operation stops. What the operations do beyond that is stated with them:

* `syncLayer` leaves the mirrors of other layers alone, and if it succeeds the mirror of its layer
  is up to date (`MirrorTable.UpToDate`);
* after a `sync` of layers with distinct identities all of them are up to date;
* `clear` leaves no live buffer behind.
-/

namespace LitTiles

/-- A mirror that was just written has nothing left to upload. -/
theorem Mirror.not_isStale_written (m : Mirror) (l : Layer) : (m.written l).isStale l = false := by
  simp [isStale, written]

namespace MirrorTable

variable {t t' : MirrorTable} {i : Nat} {m m' : Mirror} {l : Layer} {before : List Entry}
  {h : List Exchange} {x : Except RenderError Unit}

/-! ## Mirrors of other layers -/

/-- No more than the mirror of one layer differs. -/
def SameBut (id : LayerId) (t t' : MirrorTable) : Prop := ∀ id', id' ≠ id → t'.get? id' = t.get? id'

theorem SameBut.refl (id : LayerId) (t : MirrorTable) : SameBut id t t := fun _ _ => rfl

/-- What two steps leave alone, both together leave alone. -/
theorem SameBut.trans {id : LayerId} {t₁ t₂ t₃ : MirrorTable} (h : SameBut id t₁ t₂)
    (h' : SameBut id t₂ t₃) : SameBut id t₁ t₃ :=
  fun id' hid => (h' id' hid).trans (h id' hid)

/-- It is enough to look at the slots. -/
theorem sameBut_of_mirrorAt {id : LayerId} (hs : t.Sound) (hs' : t'.Sound)
    (hm : ∀ j m, m.id ≠ id → (t'.mirrorAt j = some m ↔ t.mirrorAt j = some m)) :
    SameBut id t t' := by
  intro id' hid
  refine Option.ext fun m => ?_
  rw [hs'.get?_eq_some_iff, hs.get?_eq_some_iff]
  constructor
  · rintro ⟨j, hj, rfl⟩
    exact ⟨j, (hm j m hid).mp hj, rfl⟩
  · rintro ⟨j, hj, rfl⟩
    exact ⟨j, (hm j m hid).mpr hj, rfl⟩

/-- A new mirror is found by its own layer only. -/
theorem sameBut_occupy (hs : t.Sound) (hn : t.get? m.id = none) :
    SameBut m.id t (t.occupy m) := by
  refine sameBut_of_mirrorAt hs (hs.occupy hn) fun j m' hid => ?_
  rw [hs.mirrorAt_occupy]
  by_cases hj : j = t.nextSlot.1
  · subst hj
    rw [if_pos rfl, hs.mirrorAt_nextSlot, Option.some.injEq]
    constructor
    · rintro rfl
      exact absurd rfl hid
    · intro hc
      cases hc
  · rw [if_neg hj]

/-- A mirror that is evicted was found by its own layer only. -/
theorem sameBut_evict (hs : t.Sound) (hm : t.mirrorAt i = some m) :
    SameBut m.id t ((t.eraseKey m.id).vacate i) := by
  refine sameBut_of_mirrorAt hs (hs.evict hm) fun j m' hid => ?_
  rw [mirrorAt_vacate]
  by_cases hij : i = j
  · subst hij
    rw [if_pos rfl, hm, Option.some.injEq]
    constructor
    · intro hc
      cases hc
    · rintro rfl
      exact absurd rfl hid
  · rw [if_neg hij, mirrorAt_eraseKey]

/-- Changing a mirror in its slot is seen by its own layer only, as long as the table is sound
before and after. -/
theorem sameBut_modifySlot {f : Slot → Slot} (hs : t.Sound) (hs' : (t.modifySlot i f).Sound)
    (hm : t.mirrorAt i = some m) (hm' : (t.modifySlot i f).mirrorAt i = some m')
    (hid : m'.id = m.id) : SameBut m.id t (t.modifySlot i f) := by
  refine sameBut_of_mirrorAt hs hs' fun j m'' hne => ?_
  by_cases hij : i = j
  · subst hij
    rw [hm, hm', Option.some.injEq, Option.some.injEq]
    constructor
    · rintro rfl
      exact absurd hid hne
    · rintro rfl
      exact absurd rfl hne
  · rw [mirrorAt_modifySlot, if_neg hij]

/-! ## The steps of a `sync` -/

/-- A layer has a mirror that needs no upload. -/
def UpToDate (t : MirrorTable) (l : Layer) : Prop :=
  ∃ m, t.get? l.id = some m ∧ m.kind = l.kind ∧ m.isStale l = false

/-- If a layer has a mirror, its upload policy is that of the layer. -/
def Fits (t : MirrorTable) (l : Layer) : Prop := ∀ m, t.get? l.id = some m → m.kind = l.kind

/-- An evicted mirror is not found any more. -/
theorem get?_evict (t : MirrorTable) (i : Nat) (id : LayerId) :
    ((t.eraseKey id).vacate i).get? id = none := by
  have hkey : ((t.eraseKey id).vacate i).key? id = none := (key?_eraseKey id).trans (if_pos rfl)
  rw [get?, hkey]
  rfl

/-- After `dropOther` there is no mirror of another upload policy. -/
theorem kept_dropOther (hk : t.Kept before) (hl : (dropOther l).Leads t h x t') :
    x = .ok () ∧ t'.Kept (before ++ entries (some l) h) ∧ t'.Fits l ∧ SameBut l.id t t' := by
  obtain ⟨rfl, drops⟩ := drops_of_leads hk.sound hl
  cases drops with
  | fits hf =>
    rw [entries_nil, List.append_nil]
    exact ⟨rfl, hk, hf, .refl _ _⟩
  | @other i m hm hid =>
    rw [← hid]
    refine ⟨rfl, hk.evict hm (some l), fun m' hm' => ?_, sameBut_evict hk.sound hm⟩
    rw [← hid, get?_evict] at hm'
    cases hm'

/-- A new mirror has no contents, whatever was in the memory of its buffer. -/
theorem unwritten_ofLayer (l : Layer) (b : BufferId) (capacity lifetime : Nat) :
    (Mirror.ofLayer l b capacity lifetime).Unwritten := ⟨rfl, rfl, rfl⟩

/-- After `ensure` the layer has a mirror, unless the backend refused to make a buffer. -/
theorem kept_ensure (hk : t.Kept before) (hf : t.Fits l) (hl : (ensure l).Leads t h x t') :
    t'.Kept (before ++ entries (some l) h) ∧ t'.Fits l ∧ SameBut l.id t t' ∧
      (x = .ok () → (t'.get? l.id).isSome) := by
  cases ensures_of_leads hl with
  | there hg =>
    rw [entries_nil, List.append_nil]
    exact ⟨hk, hf, .refl _ _, fun _ => Option.isSome_of_eq_some hg⟩
  | refused =>
    refine ⟨?_, hf, .refl _ _, fun hx => by cases hx⟩
    exact hk.quiet ⟨fun _ => rfl, fun _ => rfl, fun _ => rfl⟩ (fun _ => trivial) trivial
  | made hn b =>
    let m : Mirror := .ofLayer l b (t.limits.capacity l.kind) t.limits.lifetime
    have hm : t.get? m.id = none := hn
    have hs := hk.sound.occupy hm
    have hget : (t.occupy m).get? l.id = some m := by
      refine hs.get?_eq_some_iff.mpr ⟨t.nextSlot.1, ?_, rfl⟩
      rw [hk.sound.mirrorAt_occupy, if_pos rfl]
    refine ⟨hk.occupy hm (unwritten_ofLayer ..) (some l), fun m' hm' => ?_,
      sameBut_occupy hk.sound hm, fun _ => Option.isSome_of_eq_some hget⟩
    rw [hget] at hm'
    obtain rfl := Option.some.inj hm'
    rfl

/-- Lifetime and order are not part of what a mirror says of its contents. -/
theorem resembles_aged (m : Mirror) (z : ZIndex) (lifetime : Nat) :
    Mirror.Resembles { m with lifetime := lifetime, z := z } m :=
  ⟨⟨rfl, rfl, rfl, rfl, rfl, rfl, fun hn => hn⟩, rfl⟩

/-- Touching a mirror keeps the invariant, as no buffer and no content is concerned. -/
theorem Kept.refresh (hk : t.Kept before) (hm : t.mirrorAt i = some m) (l : Layer) :
    (t.refresh i m l).Kept before :=
  hk.exchange hm (fun _ => rfl) (fun _ => rfl) (resembles_aged m l.z t.limits.lifetime).toAlike

/-- The mirror that was touched, with its lifetime raised again and the order of its layer. -/
theorem mirrorAt_refresh (hm : t.mirrorAt i = some m) (l : Layer) :
    (t.refresh i m l).mirrorAt i =
      some { m with lifetime := t.limits.lifetime, z := l.z } := by
  obtain ⟨s, hs, -⟩ := mirrorAt_eq_some_iff.mp hm
  rw [MirrorTable.refresh, mirrorAt_modifySlot, if_pos rfl, hs]
  rfl

/-- After `touch` the layer has a mirror if it had one. -/
theorem kept_touch (hk : t.Kept before) (hf : t.Fits l) (hl : (touch l).Leads t h x t') :
    h = [] ∧ x = .ok () ∧ t'.Kept before ∧ t'.Fits l ∧ SameBut l.id t t' ∧
      ((t.get? l.id).isSome → (t'.get? l.id).isSome) := by
  obtain ⟨rfl, rfl, touches⟩ := touches_of_leads hk.sound hl
  cases touches with
  | missing => exact ⟨rfl, rfl, hk, hf, .refl _ _, fun hs => hs⟩
  | @marked i m hm hid =>
    have hk' := hk.refresh hm l
    have hm' := mirrorAt_refresh hm l
    have hget := hk'.sound.get?_eq_some_iff.mpr ⟨i, hm', rfl⟩
    have hkind : m.kind = l.kind := hf m (hk.sound.get?_eq_some_iff.mpr ⟨i, hm, hid⟩)
    rw [← hid]
    refine ⟨rfl, rfl, hk', fun m' hg => ?_, sameBut_modifySlot hk.sound hk'.sound hm hm' rfl,
      fun _ => Option.isSome_of_eq_some hget⟩
    rw [← hid, hget] at hg
    obtain rfl := Option.some.inj hg
    exact hkind

/-- After `update` the mirror of the layer is up to date, unless the backend refused the write. -/
theorem kept_update (hk : t.Kept before) (hf : t.Fits l) (hl : (update l).Leads t h x t') :
    t'.Kept (before ++ entries (some l) h) ∧ SameBut l.id t t' ∧
      (x = .ok () → (t.get? l.id).isSome → t'.UpToDate l) := by
  cases updates_of_leads hk.sound hl with
  | missing hn =>
    rw [entries_nil, List.append_nil]
    exact ⟨hk, .refl _ _, fun _ hs => absurd hs (by simp [hn])⟩
  | @current i m hm hid hs =>
    have hget := hk.sound.get?_eq_some_iff.mpr ⟨i, hm, hid⟩
    rw [entries_nil, List.append_nil]
    exact ⟨hk, .refl _ _, fun _ _ => ⟨m, hget, hf m hget, hs⟩⟩
  | @refused i m hm hid hs e warned =>
    -- the history grows, and of the mirror only the report is noted
    have reported := Mirror.resembles_warned m warned
    have hq := hk.quiet
      (e := ⟨some l, .issue (.writeInstances m.buffer ((m.kept l).map .ofSprite)), .error e⟩)
      ⟨fun _ => rfl, fun _ => rfl, fun _ => rfl⟩
      (fun hf => ⟨m.capacity, hk.toLeases.live_of_fresh hf hm, ?_⟩) trivial
    · have hk' := hq.putMirror hm reported.toAlike
      have hm' : (t.putMirror i { m with warned := warned }).mirrorAt i =
          some { m with warned := warned } := by
        rw [mirrorAt_putMirror hm, if_pos rfl]
      refine ⟨hk', ?_, fun hx => by cases hx⟩
      rw [← hid]
      exact sameBut_modifySlot hk.sound hk'.sound hm hm' rfl
    · rw [List.length_map, Mirror.kept, List.length_take]
      exact Nat.min_le_left _ _
  | @granted i m hm hid hs warned =>
    let w : Mirror := { m with warned := warned }
    have hkind := hf m (hk.sound.get?_eq_some_iff.mpr ⟨i, hm, hid⟩)
    have hk' := hk.write hm (Mirror.resembles_warned m warned).toAlike hid.symm hkind.symm
    have hm' : (t.putMirror i (w.written l)).mirrorAt i = some (w.written l) := by
      rw [mirrorAt_putMirror hm, if_pos rfl]
    refine ⟨hk', ?_, fun _ _ => ⟨w.written l, ?_, hkind, Mirror.not_isStale_written w l⟩⟩
    · rw [← hid]
      exact sameBut_modifySlot hk.sound hk'.sound hm hm' rfl
    · exact hk'.sound.get?_eq_some_iff.mpr ⟨i, hm', hid⟩

/-- What one layer of a `sync` does. -/
theorem kept_syncLayer (hk : t.Kept before) (hl : (syncLayer l).Leads t h x t') :
    t'.Kept (before ++ entries (some l) h) ∧ SameBut l.id t t' ∧
      (x = .ok () → t'.UpToDate l) := by
  cases steps_of_leads hk.sound hl with
  | stopped hd he =>
    obtain ⟨-, hk₁, hf₁, hb₁⟩ := kept_dropOther hk hd
    obtain ⟨hk₂, -, hb₂, -⟩ := kept_ensure hk₁ hf₁ he
    rw [entries_append, ← List.append_assoc]
    exact ⟨hk₂, hb₁.trans hb₂, fun hx => by cases hx⟩
  | arrived hd he ht hu =>
    obtain ⟨-, hk₁, hf₁, hb₁⟩ := kept_dropOther hk hd
    obtain ⟨hk₂, hf₂, hb₂, hs₂⟩ := kept_ensure hk₁ hf₁ he
    obtain ⟨-, -, hk₃, hf₃, hb₃, hs₃⟩ := kept_touch hk₂ hf₂ ht
    obtain ⟨hk₄, hb₄, hu⟩ := kept_update hk₃ hf₃ hu
    rw [entries_append, entries_append, ← List.append_assoc, ← List.append_assoc]
    exact ⟨hk₄, ((hb₁.trans hb₂).trans hb₃).trans hb₄, fun hx => hu hx (hs₃ (hs₂ rfl))⟩

/-! ## Whole operations -/

/-- The trail of a `sync`: the calls for a layer are made for the layer. -/
def syncTrail (layers : List Layer) : Trail MirrorTable Unit :=
  .forEach (fun l => .of (some l) (syncLayer l)) layers

/-- The trail of a `sync` is the `sync`, with each call noted for the layer that is visited. -/
theorem syncTrail_erases (layers : List Layer) : (syncTrail layers).Erases (sync layers) :=
  .forEach (fun l => Trail.erases_of (some l) (syncLayer l)) layers

/-- A `sync` keeps the invariant, wherever it stops. By `kept_syncLayer` for each layer. -/
theorem keeps_sync (layers : List Layer) : (syncTrail layers).Keeps Kept := by
  refine .forEach fun l _ => ?_
  rintro t before es x t' hk ⟨h, rfl, hl⟩
  exact (kept_syncLayer hk hl).1

/-- A layer stays up to date while mirrors of other layers change. -/
theorem UpToDate.of_sameBut {id : LayerId} (hu : t.UpToDate l) (hb : SameBut id t t')
    (hid : l.id ≠ id) : t'.UpToDate l := by
  obtain ⟨m, hm, hkind, hs⟩ := hu
  exact ⟨m, (hb l.id hid).trans hm, hkind, hs⟩

/-- After a `sync` of layers with distinct identities every one of them is up to date. -/
theorem upToDate_sync {layers : List Layer} {es : List Entry} (hk : t.Kept before)
    (hd : layers.Pairwise fun l l' => l.id ≠ l'.id)
    (hl : syncTrail layers t es (.ok ()) t') : ∀ l ∈ layers, t'.UpToDate l := by
  -- what holds of a layer that is not among those to come stays true of it
  suffices ∀ done : List Layer, (∀ l ∈ done, t.UpToDate l ∧ ∀ l' ∈ layers, l.id ≠ l'.id) →
      ∀ l ∈ done ++ layers, t'.UpToDate l by
    exact this [] (fun _ hl => absurd hl List.not_mem_nil)
  induction layers generalizing t before es with
  | nil =>
    intro done hdone l hmem
    obtain ⟨-, -, rfl⟩ := hl
    rw [List.append_nil] at hmem
    exact (hdone l hmem).1
  | cons l₁ ls ih =>
    intro done hdone l hmem
    rcases hl with ⟨e, he, -⟩ | ⟨_, es₁, es₂, r, rfl, ⟨h, rfl, h₁⟩, h₂⟩
    · cases he
    obtain ⟨hk₁, hb₁, hu₁⟩ := kept_syncLayer hk h₁
    obtain ⟨hne, hd⟩ := List.pairwise_cons.mp hd
    refine ih hk₁ hd h₂ (done ++ [l₁]) (fun l' hl' => ?_) l (by simpa using hmem)
    rcases List.mem_append.mp hl' with hl' | hl'
    · obtain ⟨hu, hother⟩ := hdone l' hl'
      refine ⟨hu.of_sameBut hb₁ (hother l₁ List.mem_cons_self), fun l'' hl'' => ?_⟩
      exact hother l'' (List.mem_cons_of_mem l₁ hl'')
    · obtain rfl := List.mem_singleton.mp hl'
      exact ⟨hu₁ rfl, hne⟩

/-- What is called in a `sync` is called for one of its layers. -/
theorem source_mem_of_sync {layers : List Layer} {es : List Entry}
    (hl : syncTrail layers t es x t') : ∀ e ∈ es, ∃ l ∈ layers, e.source = some l := by
  induction layers generalizing t es with
  | nil =>
    obtain ⟨rfl, -⟩ := hl
    intro e he
    cases he
  | cons l ls ih =>
    have first : ∀ {h : List Exchange}, ∀ e ∈ entries (some l) h, ∃ l' ∈ l :: ls,
        e.source = some l' := by
      intro h e he
      obtain ⟨_, -, rfl⟩ := List.mem_map.mp he
      exact ⟨l, List.mem_cons_self, rfl⟩
    rcases hl with ⟨e, rfl, h, rfl, -⟩ | ⟨_, es₁, es₂, r, rfl, ⟨h, rfl, -⟩, h₂⟩
    · exact first
    · intro e he
      rcases List.mem_append.mp he with he | he
      · exact first e he
      · obtain ⟨l', hl', hs⟩ := ih h₂ e he
        exact ⟨l', List.mem_cons_of_mem l hl', hs⟩

/-! ### Invalidation -/

/-- A request only sets a mark on a mirror. -/
theorem Kept.invalidate (hk : t.Kept before) (id : LayerId) : (t.invalidate id).Kept before := by
  unfold MirrorTable.invalidate
  cases hf : t.find? id with
  | none => exact hk
  | some p =>
    obtain ⟨i, m⟩ := p
    obtain ⟨hm, -⟩ := hk.sound.find?_eq_some_iff.mp hf
    exact hk.putMirror hm ⟨rfl, rfl, rfl, rfl, rfl, rfl, fun _ => rfl⟩

/-! ### Collection -/

/-- Collecting a slot frees the buffer of a mirror whose time is up, in the same step in which the
mirror goes. -/
theorem keeps_collectSlot (i : Nat) : (Trail.of none (collectSlot i)).Keeps Kept := by
  rintro t before es x t' hk ⟨h, rfl, hl⟩
  obtain ⟨-, collects⟩ := collects_of_leads hl
  have marked : (t.unmark i).Kept before := hk.mark (fun _ => rfl) fun _ => rfl
  cases collects with
  | missing =>
    rw [entries_nil, List.append_nil]
    exact hk
  | vacant | spared =>
    rw [entries_nil, List.append_nil]
    exact marked
  | @aged s m hs hm =>
    rw [entries_nil, List.append_nil]
    have there := (mirrorAt_unmark t i i).trans (mirrorAt_eq_some_iff.mpr ⟨s, hs, hm⟩)
    exact marked.putMirror there (resembles_aged m m.z (m.lifetime - 1)).toAlike
  | @evicted s m hs hm =>
    exact marked.evict ((mirrorAt_unmark t i i).trans (mirrorAt_eq_some_iff.mpr ⟨s, hs, hm⟩)) none

/-- So a collection keeps the invariant, slot by slot. -/
theorem keeps_collect : (Trail.of none collect).Keeps Kept := by
  rintro t before es x t' hk ⟨h, rfl, hl⟩
  have hl := Action.leads_get_bind.mp hl
  have keeps : (Trail.of none ((List.range t.slots.length).forM collectSlot)).Keeps Kept := by
    rw [Trail.of_forM]
    exact .forEach fun i _ => keeps_collectSlot i
  exact keeps t before _ x t' hk ⟨h, rfl, hl⟩

/-! ### The end -/

/-- Clearing a slot empties it, and gives the buffer of its mirror back if it has one. -/
theorem leads_clearSlot (hl : (clearSlot i).Leads t h x t') :
    x = .ok () ∧ (∀ j, t'.mirrorAt j = if i = j then none else t.mirrorAt j) ∧
      ((h = [] ∧ t' = t) ∨
        ∃ m, t.mirrorAt i = some m ∧ h = [⟨.freeBuffer m.buffer, ()⟩] ∧ t' = t.vacate i) := by
  simp only [clearSlot, Action.leads_get_bind] at hl
  cases hm : t.slots[i]?.bind (·.mirror) with
  | none =>
    rw [hm] at hl
    obtain ⟨rfl, rfl, rfl⟩ := Action.leads_pure.mp hl
    refine ⟨rfl, fun j => ?_, .inl ⟨rfl, rfl⟩⟩
    by_cases hij : i = j
    · rw [if_pos hij, ← hij]
      exact hm
    · rw [if_neg hij]
  | some m =>
    simp only [hm, Action.leads_freeBuffer_bind, Action.leads_modify] at hl
    obtain ⟨rest, rfl, rfl, rfl, rfl⟩ := hl
    exact ⟨rfl, fun j => mirrorAt_vacate, .inr ⟨m, hm, rfl, rfl⟩⟩

/-- Clearing several slots empties them and cannot fail. By induction on the slots. -/
theorem leads_clearSlots {is : List Nat} (hl : (is.forM clearSlot).Leads t h x t') :
    x = .ok () ∧ ∀ j, t'.mirrorAt j = if j ∈ is then none else t.mirrorAt j := by
  induction is generalizing t h with
  | nil =>
    obtain ⟨-, rfl, rfl⟩ := Action.leads_forM_nil.mp hl
    exact ⟨rfl, fun j => rfl⟩
  | cons i is ih =>
    rcases Action.leads_bind.mp hl with ⟨e, rfl, h₁⟩ | ⟨_, h₁, h₂, r, rfl, hl₁, hl₂⟩
    · obtain ⟨he, -⟩ := leads_clearSlot h₁
      cases he
    obtain ⟨-, hm₁, -⟩ := leads_clearSlot hl₁
    obtain ⟨rfl, hm₂⟩ := ih hl₂
    refine ⟨rfl, fun j => ?_⟩
    -- a slot is empty in the end if it was emptied first or by the rest of the loop
    rw [hm₂, hm₁]
    by_cases hj : j ∈ is
    · rw [if_pos hj, if_pos (List.mem_cons_of_mem i hj)]
    · by_cases hij : i = j
      · subst hij
        rw [if_neg hj, if_pos rfl, if_pos List.mem_cons_self]
      · have hj' : j ∉ i :: is := fun hc =>
          (List.mem_cons.mp hc).elim (fun he => hij he.symm) hj
        rw [if_neg hj, if_neg hij, if_neg hj']

/-- After `clear` there is no mirror. The keys go at its end. -/
theorem leads_clear (hl : clear.Leads t h x t') :
    x = .ok () ∧ (∀ j, t'.mirrorAt j = none) ∧
      ∃ r, ((List.range t.slots.length).forM clearSlot).Leads t h (.ok ()) r ∧
      t' = { r with keys := [] } := by
  have hl := Action.leads_get_bind.mp hl
  rcases Action.leads_bind.mp hl with ⟨e, rfl, h₁⟩ | ⟨_, h₁, h₂, r, rfl, hl₁, hl₂⟩
  · obtain ⟨he, -⟩ := leads_clearSlots h₁
    cases he
  obtain ⟨-, hm⟩ := leads_clearSlots hl₁
  obtain ⟨rfl, rfl, rfl⟩ := Action.leads_modify.mp hl₂
  rw [List.append_nil]
  refine ⟨rfl, fun j => (hm j).trans ?_, r, hl₁, rfl⟩
  by_cases hj : j ∈ List.range t.slots.length
  · rw [if_pos hj]
  · rw [if_neg hj, mirrorAt, List.getElem?_eq_none (by simpa using hj)]
    rfl

/-- While slots are cleared the buffers stay in order. -/
theorem leases_clearSlots {is : List Nat} (ho : t.Leases before)
    (hl : (is.forM clearSlot).Leads t h x t') : t'.Leases (before ++ entries none h) := by
  induction is generalizing t before h with
  | nil =>
    obtain ⟨rfl, -, rfl⟩ := Action.leads_forM_nil.mp hl
    rwa [entries_nil, List.append_nil]
  | cons i is ih =>
    rcases Action.leads_bind.mp hl with ⟨e, rfl, h₁⟩ | ⟨_, h₁, h₂, r, rfl, hl₁, hl₂⟩
    · obtain ⟨he, -⟩ := leads_clearSlot h₁
      cases he
    rw [entries_append, ← List.append_assoc]
    refine ih ?_ hl₂
    obtain ⟨-, hm, ⟨rfl, rfl⟩ | ⟨m, hi, rfl, -⟩⟩ := leads_clearSlot hl₁
    · rwa [entries_nil, List.append_nil]
    · exact ho.vacate hi hm none

/-- After `clear` the buffers are in order, and no buffer is live that was never handed out while it
was live. -/
theorem leases_clear (ho : t.Leases before) (hl : clear.Leads t h x t') :
    t'.Leases (before ++ entries none h) ∧
      ∀ b, FreshFor b (exchanges (before ++ entries none h)) →
        liveAfter (exchanges (before ++ entries none h)) b = none := by
  obtain ⟨-, vacant, r, hslots, rfl⟩ := leads_clear hl
  have ho' := leases_clearSlots ho hslots
  -- the keys that go in the end have nothing to do with buffers
  refine ⟨⟨fun b hf => (ho'.owned b hf).transfer (fun _ => rfl) rfl, ho'.lawful, ho'.truthful⟩, ?_⟩
  intro b hf
  rw [← Option.not_isSome_iff_eq_none]
  intro hb
  obtain ⟨j, m, hj, -⟩ := (ho'.owned b hf).owner hb
  have hn : r.mirrorAt j = none := vacant j
  rw [hn] at hj
  cases hj

end MirrorTable

end LitTiles
