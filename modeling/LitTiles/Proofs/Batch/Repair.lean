import LitTiles.Proofs.Batch.Operations
import LitTiles.Proofs.Batch.Syncing

/-!
# What a `sync` makes good

A `sync` that stops half-way may leave layers behind that are `Due`: a layer without a mirror, with
a mirror of another upload policy, or with one that has still to be written. Such a layer stays due,
whatever is done with the table, until something is written for it (`Neglects.due`, and `Watched`
along trails).

The next `sync` that succeeds writes it, and afterwards every layer is `Shown`: its mirror has
nothing left to upload, and says of itself what was written last for the layer (`madeGood_of_sync`).
-/

namespace LitTiles

variable {e : Entry} {es : List Entry} {id : LayerId} {l : Layer}

/-! ## Writes for other layers -/

/-- A write for a layer was made for a layer of the identity, and succeeded. -/
theorem Entry.eq_of_writesFor (hw : e.writesFor id = true) : ∃ source buffer instances,
    source.id = id ∧ e = ⟨some source, .done (.writeInstances buffer instances)⟩ := by
  unfold writesFor at hw
  split at hw
  · rename_i source buffer instances _
    exact ⟨source, buffer, instances, beq_iff_eq.mp hw, rfl⟩
  · cases hw

/-- A call that was made for one layer writes for no other. -/
theorem Entry.writesFor_eq_false {l' : Layer} (hs : e.source = some l') (hid : l'.id ≠ id) :
    e.writesFor id = false := by
  refine eq_false_of_ne_true fun hw => ?_
  obtain ⟨source, _, _, hsource, rfl⟩ := eq_of_writesFor hw
  obtain rfl := Option.some.inj hs
  exact hid hsource

/-- Writes for other layers make no difference to the last one for a layer. -/
theorem lastWrite_append_of_others {h : List Entry} (he : ∀ e ∈ es, e.writesFor id = false) :
    lastWrite (h ++ es) id = lastWrite h id := by
  induction es generalizing h with
  | nil => rw [List.append_nil]
  | cons e es ih =>
    have step := ih (h := h ++ [e]) fun e' he' => he e' (List.mem_cons_of_mem e he')
    rw [lastWrite_concat, he e List.mem_cons_self] at step
    rwa [List.append_assoc] at step

namespace Mirror

variable {m m' m'' : Mirror}

/-- Mirrors that are alike in two steps are alike, and an upload that was due stays so. -/
theorem Alike.trans (ha : m''.Alike m') (ha' : m'.Alike m) : m''.Alike m where
  id := ha.id.trans ha'.id
  kind := ha.kind.trans ha'.kind
  buffer := ha.buffer.trans ha'.buffer
  capacity := ha.capacity.trans ha'.capacity
  drawCalls := ha.drawCalls.trans ha'.drawCalls
  uploaded := ha.uploaded.trans ha'.uploaded
  needsUpdate hn := ha.needsUpdate (ha'.needsUpdate hn)

/-- So are mirrors of which an upload is due for all or for none. -/
theorem Resembles.trans (hr : m''.Resembles m') (hr' : m'.Resembles m) : m''.Resembles m :=
  ⟨hr.toAlike.trans hr'.toAlike, hr.sameRequest.trans hr'.sameRequest⟩

/-- What is stale stays stale. -/
theorem Alike.isStale (ha : m'.Alike m) (hs : m.isStale l = true) : m'.isStale l = true := by
  rw [Mirror.isStale, Bool.or_eq_true] at hs
  rw [Mirror.isStale, Bool.or_eq_true, ha.kind, ha.uploaded]
  exact hs.imp_left ha.needsUpdate

/-- A write for a layer is one for its identity. -/
@[simp] theorem writesFor_writing (m : Mirror) (l : Layer) : (m.writing l).writesFor l.id = true :=
  beq_self_eq_true l.id

end Mirror

namespace MirrorTable

variable {t t' : MirrorTable} {m : Mirror} {before : List Entry} {layers : List Layer}
  {h : List Exchange} {x : Except RenderError Unit}

/-! ## Layers that are due -/

/-- Something has to be uploaded for a layer: it has no mirror of its upload policy, or a stale
one. -/
def Due (t : MirrorTable) (l : Layer) : Prop :=
  ∀ m, t.get? l.id = some m → m.kind = l.kind → m.isStale l = true

/-- A layer is up to date if and only if it is not due. -/
theorem upToDate_iff_not_due : t.UpToDate l ↔ ¬ t.Due l := by
  simp only [UpToDate, Due, not_forall, Bool.not_eq_true]
  constructor
  · rintro ⟨m, hm, hk, hs⟩
    exact ⟨m, hm, hk, hs⟩
  · rintro ⟨m, hm, hk, hs⟩
    exact ⟨m, hm, hk, hs⟩

/-- A layer that is due has a stale mirror by the time a visit looks at it, be it the one that is
there or a new one. -/
theorem Due.isStale_mirrorFor (hd : t.Due l) (b : BufferId) :
    (t.mirrorFor l b).isStale l = true := by
  unfold mirrorFor
  cases hg : t.get? l.id with
  | none => rfl
  | some m =>
    by_cases hk : m.kind = l.kind
    · simp only [if_pos hk]
      exact hd m hg hk
    · simp only [if_neg hk]
      rfl

/-! ## Layers that nothing was uploaded for -/

/-- Nothing was uploaded for a layer: the mirror that it has now is due whatever the revision, or is
like the one that it had. -/
def Neglects (id : LayerId) (t t' : MirrorTable) : Prop :=
  ∀ m', t'.get? id = some m' → m'.needsUpdate = true ∨ ∃ m, t.get? id = some m ∧ m'.Alike m

theorem Neglects.refl (id : LayerId) (t : MirrorTable) : Neglects id t t :=
  fun m' hm' => .inr ⟨m', hm', .refl m'⟩

/-- What two steps have neglected, both together have. -/
theorem Neglects.trans {r : MirrorTable} (h : Neglects id t r) (h' : Neglects id r t') :
    Neglects id t t' := by
  intro m' hm'
  rcases h' m' hm' with hn | ⟨m, hm, ha⟩
  · exact .inl hn
  · rcases h m hm with hn | ⟨m₀, hm₀, ha₀⟩
    · exact .inl (ha.needsUpdate hn)
    · exact .inr ⟨m₀, hm₀, ha.trans ha₀⟩

/-- A layer that has no mirror afterwards was neglected, for nothing is shown of it. -/
theorem neglects_of_none (hn : t'.get? id = none) : Neglects id t t' := by
  intro m' hm'
  rw [hn] at hm'
  cases hm'

/-- Steps for one layer neglect the others. -/
theorem SameBut.neglects {id' : LayerId} (hb : SameBut id' t t') (hid : id ≠ id') :
    Neglects id t t' := by
  intro m' hm'
  exact .inr ⟨m', hb id hid ▸ hm', .refl m'⟩

/-- It is enough to look at the slots. -/
theorem neglects_of_mirrorAt (hs : t.Sound) (hs' : t'.Sound)
    (hm : ∀ i m', t'.mirrorAt i = some m' → m'.needsUpdate = true ∨
      ∃ m, t.mirrorAt i = some m ∧ m'.Alike m) : Neglects id t t' := by
  intro m' hm'
  obtain ⟨i, hi, hid⟩ := hs'.get?_eq_some_iff.mp hm'
  refine (hm i m' hi).imp_right ?_
  rintro ⟨m, hmi, ha⟩
  exact ⟨m, hs.get?_eq_some_iff.mpr ⟨i, hmi, ha.id.symm.trans hid⟩, ha⟩

/-- What is due stays due while nothing is uploaded. -/
theorem Neglects.due (hn : Neglects l.id t t') (hd : t.Due l) : t'.Due l := by
  intro m' hm' hk
  rcases hn m' hm' with hu | ⟨m, hm, ha⟩
  · rw [Mirror.isStale, hu]
    rfl
  · exact ha.isStale (hd m hm (ha.kind.symm.trans hk))

/-! ### Steps of a `sync` -/

/-- Dropping a mirror of the wrong kind uploads nothing. -/
theorem neglects_dropOther (hk : t.Kept before) (hl : (dropOther l).Leads t h x t') :
    Neglects l.id t t' := by
  rcases leads_dropOther hk hl with ⟨rfl, -⟩ | ⟨_, -, -, -, hn, -⟩
  · exact .refl _ _
  · exact neglects_of_none hn

/-- A new mirror starts unwritten. -/
theorem neglects_ensure (hk : t.Kept before) (hl : (ensure l).Leads t h x t') :
    Neglects l.id t t' := by
  rcases leads_ensure hk hl with ⟨rfl, -⟩ | ⟨rfl, -⟩ | ⟨b, -, -, -, hg⟩
  · exact .refl _ _
  · exact .refl _ _
  · -- nothing was ever written to a new mirror
    intro m' hm'
    obtain rfl := Option.some.inj (hg.symm.trans hm')
    exact .inl rfl

/-- Touching changes lifetime and order, and nothing of the contents. -/
theorem neglects_touch (hk : t.Kept before) (hg : t.get? l.id = some m)
    (hl : (touch l).Leads t h x t') : Neglects l.id t t' := by
  obtain ⟨-, hg'⟩ := get?_of_touch hk hg hl
  refine fun m' hm' => .inr ⟨m, hg, ?_⟩
  obtain rfl := Option.some.inj (hg'.symm.trans hm')
  exact (resembles_aged m l.z t.limits.lifetime).toAlike

/-- An update that does not write, be it refused or not needed, leaves the layer as it was. That no
call writes for it is assumed, since an update that writes is no neglect. -/
theorem neglects_update (hk : t.Kept before) (hg : t.get? l.id = some m)
    (hl : (update l).Leads t h x t') (hw : ∀ e ∈ entries (some l) h, e.writesFor l.id = false) :
    Neglects l.id t t' := by
  rcases leads_update hk hg hl with ⟨-, -, -, rfl⟩ | ⟨e, w, -, -, -, ha, hg'⟩ | ⟨-, rfl, -⟩
  · exact .refl _ _
  · refine fun m' hm' => .inr ⟨m, hg, ?_⟩
    obtain rfl := Option.some.inj (hg'.symm.trans hm')
    exact ha.toAlike
  · -- the write is one for the layer
    have none := hw (m.writing l) (List.mem_singleton_self _)
    rw [Mirror.writesFor_writing] at none
    cases none

/-- What one layer of a `sync` does uploads nothing for any layer, unless something is written. -/
theorem neglects_syncLayer (hk : t.Kept before) (hl : (syncLayer l).Leads t h x t')
    (hw : ∀ e ∈ entries (some l) h, e.writesFor id = false) : Neglects id t t' := by
  by_cases hid : id = l.id
  case neg => exact (kept_syncLayer hk hl).2.1.neglects hid
  subst hid
  cases steps_of_leads hk.sound hl with
  | stopped hd he =>
    obtain ⟨-, hk₁, -⟩ := kept_dropOther hk hd
    exact (neglects_dropOther hk hd).trans (neglects_ensure hk₁ he)
  | @arrived h₁ h₂ h₃ x r₁ r₂ r₃ t' hd he ht hu =>
    obtain ⟨-, hk₁, hf₁, -⟩ := kept_dropOther hk hd
    obtain ⟨hk₂, hf₂, -, hs₂⟩ := kept_ensure hk₁ hf₁ he
    obtain ⟨m, hg⟩ := Option.isSome_iff_exists.mp (hs₂ rfl)
    obtain ⟨-, -, hk₃, -⟩ := kept_touch hk₂ hf₂ ht
    obtain ⟨-, hg₃⟩ := get?_of_touch hk₂ hg ht
    have unwritten : ∀ e ∈ entries (some l) h₃, e.writesFor l.id = false := fun e he => hw e (by
      rw [entries_append]
      exact List.mem_append_right _ he)
    have room := (neglects_dropOther hk hd).trans (neglects_ensure hk₁ he)
    exact (room.trans (neglects_touch hk₂ hg ht)).trans (neglects_update hk₃ hg₃ hu unwritten)

/-! ### Other operations -/

/-- Collecting drops mirrors or ages them. -/
theorem neglects_collectSlot {i : Nat} (hk : t.Kept before) (hl : (collectSlot i).Leads t h x t') :
    Neglects id t t' := by
  have hs' := (keeps_collectSlot i t before _ x t' hk ⟨h, rfl, hl⟩).sound
  obtain ⟨-, -, hothers, haged⟩ := leads_collectSlot hl
  refine neglects_of_mirrorAt hk.sound hs' fun j m' hm' => .inr ?_
  by_cases hj : j = i
  · subst hj
    exact (haged m' hm').imp fun m hm => ⟨hm.1, hm.2.toAlike⟩
  · refine ⟨m', ?_, .refl m'⟩
    rwa [mirrorAt, hothers j hj] at hm'

/-- A request makes a mirror stale, never fresh. -/
theorem neglects_invalidate (hk : t.Kept before) (id' : LayerId) :
    Neglects id t (t.invalidate id') := by
  refine neglects_of_mirrorAt hk.sound (hk.invalidate id').sound fun j m' hm' => ?_
  unfold invalidate at hm'
  cases hf : t.find? id' with
  | none =>
    rw [hf] at hm'
    exact .inr ⟨m', hm', .refl m'⟩
  | some p =>
    obtain ⟨i, m⟩ := p
    obtain ⟨hm, -⟩ := hk.sound.find?_eq_some_iff.mp hf
    simp only [hf, mirrorAt_putMirror hm] at hm'
    by_cases hij : i = j
    · rw [if_pos hij] at hm'
      obtain rfl := Option.some.inj hm'
      exact .inl rfl
    · rw [if_neg hij] at hm'
      exact .inr ⟨m', hm', .refl m'⟩

/-! ### Along trails -/

/-- Since there was a table, and a history, nothing was uploaded for a layer unless something was
written for it. -/
def Watched (id : LayerId) (t₀ : MirrorTable) (h₀ : List Entry) (t : MirrorTable) (h : List Entry) :
    Prop :=
  t.Kept h ∧ ∃ es, h = h₀ ++ es ∧ ((∀ e ∈ es, e.writesFor id = false) → Neglects id t₀ t)

/-- Watching begins with any table that is kept. -/
theorem Kept.watched {h : List Entry} (hk : t.Kept h) (id : LayerId) : Watched id t h t h :=
  ⟨hk, [], (List.append_nil h).symm, fun _ => .refl id t⟩

/-- One more operation is watched, given that it neglects the layer whenever it does not write for
it. -/
theorem Watched.step {t₀ : MirrorTable} {h₀ h : List Entry} (hw : Watched id t₀ h₀ t h)
    (hk : t'.Kept (h ++ es)) (hn : (∀ e ∈ es, e.writesFor id = false) → Neglects id t t') :
    Watched id t₀ h₀ t' (h ++ es) := by
  obtain ⟨-, es₀, rfl, hn₀⟩ := hw
  refine ⟨hk, es₀ ++ es, List.append_assoc .., fun hall => ?_⟩
  obtain ⟨hall₀, hall⟩ := List.forall_mem_append.mp hall
  exact (hn₀ hall₀).trans (hn hall)

/-- A table that was watched neglects a layer for which nothing was written. -/
theorem Watched.neglects {t₀ : MirrorTable} {h₀ : List Entry} (hw : Watched id t₀ h₀ t (h₀ ++ es))
    (hn : ∀ e ∈ es, e.writesFor id = false) : Neglects id t₀ t := by
  obtain ⟨-, es', he, hneglects⟩ := hw
  rw [List.append_cancel_left he] at hn
  exact hneglects hn

/-- A `sync` is watched, visit by visit. -/
theorem watched_sync (id : LayerId) (t₀ : MirrorTable) (h₀ : List Entry) (layers : List Layer) :
    (syncTrail layers).Keeps (Watched id t₀ h₀) := by
  refine .forEach fun l _ => ?_
  rintro t before es x t' hw ⟨h, rfl, hl⟩
  exact hw.step (kept_syncLayer hw.1 hl).1 (neglects_syncLayer hw.1 hl)

/-- So is a collection, slot by slot. -/
theorem watched_collect (id : LayerId) (t₀ : MirrorTable) (h₀ : List Entry) :
    (Trail.of none collect).Keeps (Watched id t₀ h₀) := by
  rintro t before es x t' hw ⟨h, rfl, hl⟩
  have keeps : (Trail.of none ((List.range t.slots.length).forM collectSlot)).Keeps
      (Watched id t₀ h₀) := by
    rw [Trail.of_forM]
    refine .forEach fun i _ => ?_
    rintro t before es x t' hw ⟨h, rfl, hl⟩
    exact hw.step (keeps_collectSlot i t before _ x t' hw.1 ⟨h, rfl, hl⟩) fun _ =>
      neglects_collectSlot hw.1 hl
  exact keeps t before _ x t' hw ⟨h, rfl, Action.leads_get_bind.mp hl⟩

/-- What is due before a `sync` is written in it, by one layer of the identity or another. -/
theorem exists_write_of_due (hk : t.Kept before) (hl : syncTrail layers t es (.ok ()) t')
    (hmem : l ∈ layers) (hd : t.Due l) : ∃ e ∈ es, e.writesFor l.id = true := by
  induction layers generalizing t before es with
  | nil => cases hmem
  | cons l' layers ih =>
    rcases hl with ⟨err, he, -⟩ | ⟨_, _, es₂, r, rfl, ⟨h, rfl, hfirst⟩, hrest⟩
    · cases he
    by_contra hnone
    have unwritten : ∀ e ∈ entries (some l') h ++ es₂, e.writesFor l.id = false := fun e he =>
      eq_false_of_ne_true fun hw => hnone ⟨e, he, hw⟩
    obtain ⟨hfew, hothers⟩ := List.forall_mem_append.mp unwritten
    obtain ⟨hk', -, hu⟩ := kept_syncLayer hk hfirst
    have hd' : r.Due l := (neglects_syncLayer hk hfirst hfew).due hd
    rcases List.mem_cons.mp hmem with rfl | hmem
    · exact upToDate_iff_not_due.mp (hu rfl) hd'
    · obtain ⟨e, he, hw⟩ := ih hk' hrest hmem hd'
      rw [hothers e he] at hw
      cases hw

/-- What is due before a `sync` is written in it. -/
theorem source_of_due {earlier later : List Layer} (hk : t.Kept before)
    (hl : syncTrail (earlier ++ l :: later) t es (.ok ()) t')
    (hearlier : ∀ l' ∈ earlier, l'.id ≠ l.id) (hlater : ∀ l' ∈ later, l'.id ≠ l.id) (hd : t.Due l) :
    ∃ e, lastWrite (before ++ es) l.id = some e ∧ e.source = some l := by
  induction earlier generalizing t before es with
  | nil =>
    rcases hl with ⟨err, he, -⟩ | ⟨_, _, es₂, r, rfl, ⟨h, rfl, hfirst⟩, hrest⟩
    · cases he
    obtain ⟨b, hlined⟩ := linedUp_of_syncLayer hk hfirst
    have wrote : h = t.roomCalls l b ++ [((t.mirrorFor l b).writing l).exchange] := by
      rw [hlined.calls, layerCalls, if_pos (hd.isStale_mirrorFor b)]
    refine ⟨(t.mirrorFor l b).writing l, ?_, rfl⟩
    -- nothing is written for the layer after that
    rw [← List.append_assoc, lastWrite_append_of_others fun e he => ?_]
    · have last : entries (some l) h =
          entries (some l) (t.roomCalls l b) ++ [(t.mirrorFor l b).writing l] := by
        rw [wrote, entries_append]
        rfl
      rw [last, ← List.append_assoc, lastWrite_concat, if_pos (Mirror.writesFor_writing _ _)]
    · obtain ⟨l', hl', hs⟩ := source_mem_of_sync hrest e he
      exact Entry.writesFor_eq_false hs (hlater l' hl')
  | cons l' earlier ih =>
    rcases hl with ⟨err, he, -⟩ | ⟨_, _, es₂, r, rfl, ⟨h, rfl, hfirst⟩, hrest⟩
    · cases he
    obtain ⟨hk', hb, -⟩ := kept_syncLayer hk hfirst
    have hne : l.id ≠ l'.id := fun he => hearlier l' List.mem_cons_self he.symm
    rw [← List.append_assoc]
    exact ih hk' hrest (fun l'' hl'' => hearlier l'' (List.mem_cons_of_mem l' hl''))
      ((hb.neglects hne).due hd)

/-! ## Layers that are shown -/

/-- A layer has a mirror of its upload policy with nothing left to upload, and what the mirror says
of itself was written last for the layer, from the sprites of a source. -/
structure Shown (t : MirrorTable) (h : List Entry) (l : Layer) (m : Mirror) (source : Layer) :
    Prop where
  /-- The mirror is the one of the layer. -/
  mirror : t.get? l.id = some m
  /-- The upload policies are the same. -/
  kind : m.kind = l.kind
  /-- Nothing is left to upload. -/
  upToDate : m.isStale l = false
  /-- The mirror says of itself what an upload of the source made of it. -/
  reflects : m.Reflects source
  /-- The source of a dynamic layer has its revision. -/
  revision : l.kind = .dynamic → source.revision = l.revision
  /-- The source was the last layer to be written to the buffer of the mirror. -/
  written : lastWrite h l.id = some (m.writing source)

/-- A layer that is up to date is shown. -/
theorem Kept.exists_shown {h : List Entry} (hk : t.Kept h) (hu : t.UpToDate l) :
    ∃ m source, t.Shown h l m source := by
  obtain ⟨m, hm, hkind, hs⟩ := hu
  obtain ⟨i, hi, hid⟩ := hk.sound.get?_eq_some_iff.mp hm
  rcases hk.backed i m hi with hn | ⟨source, hr, hw, -⟩
  · -- a mirror that was never written is stale
    rw [Mirror.isStale, hn.needsUpdate] at hs
    cases hs
  · refine ⟨m, source, hm, hkind, hs, hr, fun hdyn => ?_, hid ▸ hw⟩
    have hmdyn : m.kind = .dynamic := hkind.trans hdyn
    rw [Mirror.isStale, hmdyn] at hs
    simp only [beq_self_eq_true, Bool.true_and, Bool.or_eq_false_iff, bne_eq_false_iff_eq] at hs
    exact Option.some.inj (hr.revision.symm.trans hs.2)

/-- What was due is shown by its own sprites. -/
theorem Shown.source_eq {h : List Entry} {source : Layer} (hs : t.Shown h l m source)
    (hw : ∃ e, lastWrite h l.id = some e ∧ e.source = some l) : source = l := by
  obtain ⟨e, he, hsource⟩ := hw
  obtain rfl := Option.some.inj (he.symm.trans hs.written)
  exact Option.some.inj hsource

/-- What was missed of some layers is made good by a `sync`, and all of them are shown. -/
structure MadeGood (layers : List Layer) (before : List Entry) (missed : Layer → Prop)
    (updates : List Entry) (t : MirrorTable) : Prop where
  /-- There is a write for every layer that was missed. -/
  written : ∀ l ∈ layers, missed l → ∃ e ∈ updates, e.writesFor l.id = true
  /-- The last layer of every identity is shown; if it was missed and is the only one of its
  identity, it is shown by its own sprites. -/
  shown : ∀ earlier l later, layers = earlier ++ l :: later → (∀ l' ∈ later, l'.id ≠ l.id) →
    ∃ m source, t.Shown (before ++ updates) l m source ∧
      (missed l → (∀ l' ∈ earlier, l'.id ≠ l.id) → source = l)

/-- A `sync` that succeeds makes good what is due. -/
theorem madeGood_of_sync {missed : Layer → Prop} (hk : t.Kept before)
    (hl : syncTrail layers t es (.ok ()) t') (hm : ∀ l, missed l → t.Due l) :
    MadeGood layers before missed es t' := by
  have hk' : t'.Kept (before ++ es) := keeps_sync layers t before es _ t' hk hl
  have synced : Synced layers t (exchanges es) t' :=
    synced_of_sync hk ((syncTrail_erases _ _ _ _ _).mpr ⟨es, rfl, hl⟩)
  refine ⟨fun l hmem hmissed => exists_write_of_due hk hl hmem (hm l hmissed), ?_⟩
  rintro earlier l later rfl hlater
  obtain ⟨m, source, hs⟩ := hk'.exists_shown (synced.upToDate hlater)
  refine ⟨m, source, hs, fun hmissed hearlier => hs.source_eq ?_⟩
  exact source_of_due hk hl hearlier hlater (hm l hmissed)

end MirrorTable

end LitTiles
