import LitTiles.Proofs.Batch.Upkeep
import Mathlib.Data.List.Basic

/-!
# What a `sync` and a collection call

When no call fails, what a `sync` calls for a layer is known from the mirror that the layer has: the
mirror may be of another upload policy and be replaced (`MirrorTable.layerCalls`), and it may need
an upload. Afterwards it does not (`MirrorTable.LinedUp`), and mirrors of other layers are as they
were. `MirrorTable.Synced` says this of all layers of a scene, one after the other.

A collection gives back the buffers of the mirrors whose time is up, in the order of their slots
(`leads_collect`), and calls nothing else.
-/

namespace LitTiles

/-- Calls that hand out instance buffers, write to them or give them back. -/
def Call.IsUpkeep : Call → Prop
  | .createBuffer _ | .freeBuffer _ | .issue (.writeInstances _ _) => True
  | _ => False

/-- Targets have nothing to do with instance buffers. -/
theorem Call.IsUpkeep.not_configures {c : Call} (hc : c.IsUpkeep) : ¬ c.Configures := by
  cases c with
  | issue c =>
    cases c with
    | configureTargets surface targets => exact hc.elim
    | _ => exact id
  | _ => exact id

/-- No calls but these, and no errors but theirs. -/
def Contract.upkeep (σ : Type) : Contract σ := ⟨fun _ => True, Call.IsUpkeep, fun _ => False⟩

/-- An action under a contract that asks nothing of the state makes only the calls it allows. -/
theorem Action.Meets.spares {σ α : Type} {a : Action σ α} {c : Contract σ} (ha : a.Meets c)
    (hk : ∀ s, c.keeps s) : a.Spares c.calls fun _ => () :=
  fun s h x t hl => ⟨rfl, (ha s h x t (hk s) hl).calls⟩

namespace MirrorTable

variable {t t' r : MirrorTable} {i : Nat} {m : Mirror} {l : Layer} {b : BufferId}
  {before : List Entry} {h : List Exchange} {x : Except RenderError Unit} {layers : List Layer}

/-! ## One layer -/

/-- A new mirror for a layer. -/
def newMirror (t : MirrorTable) (l : Layer) (b : BufferId) : Mirror :=
  .ofLayer l b (t.limits.capacity l.kind) t.limits.lifetime

/-- The mirror that a layer has as soon as it has one of its upload policy: the one it had, or else
a new one. -/
def mirrorFor (t : MirrorTable) (l : Layer) (b : BufferId) : Mirror :=
  match t.get? l.id with
  | some m => if m.kind = l.kind then m else t.newMirror l b
  | none => t.newMirror l b

/-- The calls that give a layer a mirror of its upload policy. -/
def roomCalls (t : MirrorTable) (l : Layer) (b : BufferId) : List Exchange :=
  match t.get? l.id with
  | some m =>
    if m.kind = l.kind then [] else [.freed m.buffer, .made (t.limits.capacity l.kind) b]
  | none => [.made (t.limits.capacity l.kind) b]

/-- The calls that bring the mirror of a layer in line with it, if `b` is the buffer that is handed
out to a new mirror. -/
def layerCalls (t : MirrorTable) (l : Layer) (b : BufferId) : List Exchange :=
  t.roomCalls l b ++
    if (t.mirrorFor l b).isStale l then [((t.mirrorFor l b).writing l).exchange] else []

/-- The mirror of a layer was brought in line with it. -/
structure LinedUp (t : MirrorTable) (l : Layer) (h : List Exchange)
    (t' : MirrorTable) (b : BufferId) :
    Prop where
  /-- The calls are those it takes. -/
  calls : h = t.layerCalls l b
  /-- The layer has the mirror, and there is nothing left to upload. What it draws was uploaded by
  now or was there before. -/
  mirror : ∃ m, t'.get? l.id = some m ∧ m.kind = l.kind ∧ m.isStale l = false ∧
    m.buffer = (t.mirrorFor l b).buffer ∧
    m.drawCalls = if (t.mirrorFor l b).isStale l then DrawCall.ofSprites ((t.mirrorFor l b).kept l)
      else (t.mirrorFor l b).drawCalls
  /-- Mirrors of other layers are as they were. -/
  others : SameBut l.id t t'

theorem LinedUp.upToDate (hl : LinedUp t l h t' b) : t'.UpToDate l := by
  obtain ⟨m, hm, hk, hs, -⟩ := hl.mirror
  exact ⟨m, hm, hk, hs⟩

/-- A mirror of another upload policy is dropped. -/
theorem leads_dropOther (hk : t.Kept before) (hl : (dropOther l).Leads t h x t') :
    (t' = t ∧ h = [] ∧ t.Fits l) ∨
      ∃ m, t.get? l.id = some m ∧ m.kind ≠ l.kind ∧ h = [.freed m.buffer] ∧
        t'.get? l.id = none ∧ t'.limits = t.limits := by
  obtain ⟨-, drops⟩ := drops_of_leads hk.sound hl
  cases drops with
  | fits hf => exact .inl ⟨rfl, rfl, hf⟩
  | @other i m hm hid hkind =>
    have hg := hk.sound.get?_eq_some_iff.mpr ⟨i, hm, hid⟩
    exact .inr ⟨m, hg, hkind, rfl, hid ▸ get?_evict t i m.id, rfl⟩

/-- A mirror is made for a layer that has none, unless the backend refuses to make a buffer. -/
theorem leads_ensure (hk : t.Kept before) (hl : (ensure l).Leads t h x t') :
    (t' = t ∧ h = [] ∧ x = .ok () ∧ (t.get? l.id).isSome) ∨
      (t' = t ∧ t.get? l.id = none ∧ ∃ e, x = .error e ∧
        h = [⟨.createBuffer (t.limits.capacity l.kind), .error e⟩]) ∨
      ∃ b, t.get? l.id = none ∧ h = [.made (t.limits.capacity l.kind) b] ∧ x = .ok () ∧
        t'.get? l.id = some (t.newMirror l b) := by
  cases ensures_of_leads hl with
  | there hg => exact .inl ⟨rfl, rfl, rfl, Option.isSome_of_eq_some hg⟩
  | refused hn e => exact .inr (.inl ⟨rfl, hn, e, rfl, rfl⟩)
  | made hn b =>
    have hs := hk.sound.occupy (m := t.newMirror l b) hn
    refine .inr (.inr ⟨b, hn, rfl, rfl, hs.get?_eq_some_iff.mpr ⟨t.nextSlot.1, ?_, rfl⟩⟩)
    exact (hk.sound.mirrorAt_occupy _ _).trans (if_pos rfl)

/-- The mirror of a layer is marked, and nothing else changes. -/
theorem get?_of_touch (hk : t.Kept before) (hg : t.get? l.id = some m)
    (hl : (touch l).Leads t h x t') :
    h = [] ∧ t'.get? l.id = some { m with lifetime := t.limits.lifetime, z := l.z } := by
  obtain ⟨rfl, -, touches⟩ := touches_of_leads hk.sound hl
  refine ⟨rfl, ?_⟩
  cases touches with
  | missing hn => cases hn.symm.trans hg
  | @marked i m' hm hid =>
    obtain rfl := Option.some.inj ((hk.sound.get?_eq_some_iff.mpr ⟨i, hm, hid⟩).symm.trans hg)
    exact (hk.refresh hm l).sound.get?_eq_some_iff.mpr ⟨i, mirrorAt_refresh hm l, hid⟩

/-- A stale mirror is written, and no other. A write may be refused. -/
theorem leads_update (hk : t.Kept before) (hg : t.get? l.id = some m)
    (hl : (update l).Leads t h x t') :
    (m.isStale l = false ∧ h = [] ∧ x = .ok () ∧ t' = t) ∨
      (∃ e w, m.isStale l = true ∧
        h = [⟨.issue (.writeInstances m.buffer ((m.kept l).map .ofSprite)), .error e⟩] ∧
        x = .error e ∧ w.Resembles m ∧ t'.get? l.id = some w) ∨
      (m.isStale l = true ∧ h = [(m.writing l).exchange] ∧ x = .ok () ∧
        ∃ w : Mirror, w.Resembles m ∧ t'.get? l.id = some (w.written l)) := by
  -- the mirror of the layer is found in its slot, and what is put there is the mirror of the layer
  have found : ∀ {i : Nat} {m' : Mirror}, t.mirrorAt i = some m' → m'.id = l.id → m' = m :=
    fun hm hid => Option.some.inj ((hk.sound.get?_eq_some_iff.mpr ⟨_, hm, hid⟩).symm.trans hg)
  have put : ∀ {i : Nat} {w : Mirror}, t.mirrorAt i = some m → w.id = m.id → m.id = l.id →
      (t.putMirror i w).get? l.id = some w := by
    intro i w hm hw hid
    refine (hk.sound.putMirror hm hw).get?_eq_some_iff.mpr ⟨i, ?_, hw.trans hid⟩
    rw [mirrorAt_putMirror hm, if_pos rfl]
  cases updates_of_leads hk.sound hl with
  | missing hn => cases hn.symm.trans hg
  | current hm hid hs =>
    obtain rfl := found hm hid
    exact .inl ⟨hs, rfl, rfl, rfl⟩
  | refused hm hid hs e warned =>
    obtain rfl := found hm hid
    exact .inr (.inl ⟨e, _, hs, rfl, rfl, Mirror.resembles_warned _ warned, put hm rfl hid⟩)
  | granted hm hid hs warned =>
    obtain rfl := found hm hid
    exact .inr (.inr ⟨hs, rfl, rfl, _, Mirror.resembles_warned _ warned, put hm rfl hid⟩)

/-- After `dropOther` and `ensure` the layer has its mirror. -/
theorem leads_room_ok {h₁ h₂ : List Exchange} (hk : t.Kept before)
    (hd : (dropOther l).Leads t h₁ (.ok ()) r) (he : (ensure l).Leads r h₂ (.ok ()) t') :
    ∃ b, h₁ ++ h₂ = t.roomCalls l b ∧ t'.get? l.id = some (t.mirrorFor l b) := by
  obtain ⟨-, hk₁, -, -⟩ := kept_dropOther hk hd
  unfold roomCalls mirrorFor
  rcases leads_dropOther hk hd with ⟨rfl, rfl, hf⟩ | ⟨m, hg, hkind, rfl, hn, hlim⟩
  · rcases leads_ensure hk he with ⟨rfl, rfl, -, hs⟩ | ⟨-, -, e, herr, -⟩ | ⟨b, hg, rfl, -, hg'⟩
    · -- the mirror that was there stays
      obtain ⟨m, hg⟩ := Option.isSome_iff_exists.mp hs
      exact ⟨⟨0⟩, by simp [hg, hf m hg]⟩
    · cases herr
    · exact ⟨b, by simp [hg, hg']⟩
  · rcases leads_ensure hk₁ he with ⟨rfl, rfl, -, hs⟩ | ⟨-, -, e, herr, -⟩ | ⟨b, -, rfl, -, hg'⟩
    · rw [hn] at hs
      cases hs
    · cases herr
    · have hnew : r.newMirror l b = t.newMirror l b := by rw [newMirror, hlim, newMirror]
      refine ⟨b, ?_, ?_⟩
      · simp only [hg, if_neg hkind, hlim, List.singleton_append]
      · simp only [hg, if_neg hkind, hg', hnew]

/-- What `syncLayer` does when it succeeds. -/
theorem linedUp_of_syncLayer (hk : t.Kept before) (hl : (syncLayer l).Leads t h (.ok ()) t') :
    ∃ b, LinedUp t l h t' b := by
  obtain ⟨-, hothers, -⟩ := kept_syncLayer hk hl
  obtain ⟨_, h₁, _, r₁, rfl, hd, hl⟩ := Action.leads_bind_ok.mp hl
  obtain ⟨_, h₂, _, r₂, rfl, he, hl⟩ := Action.leads_bind_ok.mp hl
  obtain ⟨_, h₃, h₄, r₃, rfl, ht, hu⟩ := Action.leads_bind_ok.mp hl
  -- the invariant is carried through the first three steps, to know the mirror that the last one
  -- finds
  obtain ⟨-, hk₁, hf₁, -⟩ := kept_dropOther hk hd
  obtain ⟨hk₂, hf₂, -⟩ := kept_ensure hk₁ hf₁ he
  obtain ⟨-, -, hk₃, -⟩ := kept_touch hk₂ hf₂ ht
  obtain ⟨b, hroom, hg⟩ := leads_room_ok hk hd he
  obtain ⟨rfl, hg'⟩ := get?_of_touch hk₂ hg ht
  have hkind : (t.mirrorFor l b).kind = l.kind := hf₂ _ hg
  -- the calls of the first three steps are those that make room; the last one adds the write, if
  -- any
  rw [List.nil_append, ← List.append_assoc, hroom]
  rcases leads_update hk₃ hg' hu with
    ⟨hs, rfl, -, rfl⟩ | ⟨e, -, -, -, he, -⟩ | ⟨hs, rfl, -, w, ha, hg''⟩
  · have hs : (t.mirrorFor l b).isStale l = false := hs
    exact ⟨b, by rw [layerCalls, hs]; rfl, ⟨_, hg', hkind, hs, rfl, by rw [hs]; rfl⟩, hothers⟩
  · cases he
  · have hs : (t.mirrorFor l b).isStale l = true := hs
    refine ⟨b, by rw [layerCalls, hs]; rfl,
      ⟨_, hg'', ha.kind.trans hkind, Mirror.not_isStale_written w l, ha.buffer, ?_⟩, hothers⟩
    rw [hs]
    exact congrArg DrawCall.ofSprites (ha.kept l)

/-! ## All layers -/

/-- The mirrors of layers were brought in line with them, one after the other. -/
def Synced : List Layer → MirrorTable → List Exchange → MirrorTable → Prop
  | [], t, h, t' => h = [] ∧ t' = t
  | l :: ls, t, h, t' =>
    ∃ h₁ h₂ r b, h = h₁ ++ h₂ ∧ LinedUp t l h₁ r b ∧ Synced ls r h₂ t'

theorem synced_of_sync (hk : t.Kept before) (hl : (sync layers).Leads t h (.ok ()) t') :
    Synced layers t h t' := by
  induction layers generalizing t before h with
  | nil =>
    obtain ⟨rfl, -, rfl⟩ := Action.leads_forM_nil.mp hl
    exact ⟨rfl, rfl⟩
  | cons l ls ih =>
    obtain ⟨h₁, h₂, r, rfl, hl, hrest⟩ := Action.leads_forM_cons_ok.mp hl
    obtain ⟨b, hb⟩ := linedUp_of_syncLayer hk hl
    exact ⟨h₁, h₂, r, b, rfl, hb, ih (kept_syncLayer hk hl).1 hrest⟩

/-- The mirror of a layer is left alone while layers with other identities are brought in line. -/
theorem Synced.get?_eq {id : LayerId} (hs : Synced layers t h t') (hid : ∀ l ∈ layers, l.id ≠ id) :
    t'.get? id = t.get? id := by
  induction layers generalizing t h with
  | nil =>
    obtain ⟨-, rfl⟩ := hs
    rfl
  | cons l ls ih =>
    obtain ⟨h₁, h₂, r, b, rfl, hl, hrest⟩ := hs
    have same := hl.others id (hid l List.mem_cons_self).symm
    exact (ih hrest fun l' hl' => hid l' (List.mem_cons_of_mem l hl')).trans same

/-- The last layer of an identity is up to date in the end. -/
theorem Synced.upToDate {earlier later : List Layer}
    (hs : Synced (earlier ++ l :: later) t h t') (hid : ∀ l' ∈ later, l'.id ≠ l.id) :
    t'.UpToDate l := by
  induction earlier generalizing t h with
  | nil =>
    obtain ⟨h₁, h₂, r, b, rfl, hl, hrest⟩ := hs
    obtain ⟨m, hm, hk, hst⟩ := hl.upToDate
    exact ⟨m, (hrest.get?_eq hid).trans hm, hk, hst⟩
  | cons l' earlier ih =>
    obtain ⟨h₁, h₂, r, b, rfl, -, hrest⟩ := hs
    exact ih hrest

/-! ## Collection -/

/-- The buffer that a collection gives back for a slot: that of a mirror which nothing refers to and
whose time is up. -/
def expired? (t : MirrorTable) (index : Nat) : Option BufferId :=
  t.slots[index]?.bind fun s => s.mirror.bind fun m =>
    if s.touched ∨ 0 < m.lifetime - 1 then none else some m.buffer

/-- The buffers that a collection gives back, in the order of the slots. -/
def evicted (t : MirrorTable) : List BufferId :=
  (List.range t.slots.length).filterMap t.expired?

theorem expired?_eq {slot : Slot} (hs : t.slots[i]? = some slot) (hm : slot.mirror = some m) :
    t.expired? i = if slot.touched ∨ 0 < m.lifetime - 1 then none else some m.buffer := by
  rw [expired?, hs, Option.bind_some, hm, Option.bind_some]

/-- A slot gives its buffer back or keeps it; its mirror is at most older afterwards, and other
slots are as they were. -/
theorem leads_collectSlot (hl : (collectSlot i).Leads t h x t') :
    h = (t.expired? i).toList.map .freed ∧ x = .ok () ∧
      (∀ j, j ≠ i → t'.slots[j]? = t.slots[j]?) ∧
      ∀ m', t'.mirrorAt i = some m' → ∃ m, t.mirrorAt i = some m ∧ m'.Resembles m := by
  -- other slots are not looked at, and the mark is not part of a mirror
  have elsewhere : ∀ (u : MirrorTable) (f : Slot → Slot) j, j ≠ i →
      (u.modifySlot i f).slots[j]? = u.slots[j]? := by
    intro u f j hj
    simp only [modifySlot, List.getElem?_modify, if_neg hj.symm, id_map']
  have unmarked : ∀ m', (t.unmark i).mirrorAt i = some m' → ∃ m, t.mirrorAt i = some m ∧
      m'.Resembles m :=
    fun m' hm' => ⟨m', mirrorAt_unmark t i i ▸ hm', .refl m'⟩
  obtain ⟨rfl, collects⟩ := collects_of_leads hl
  cases collects with
  | missing hs =>
    exact ⟨by rw [expired?, hs]; rfl, rfl, fun _ _ => rfl, fun m' hm' => ⟨m', hm', .refl m'⟩⟩
  | vacant hs hm =>
    exact ⟨by rw [expired?, hs, Option.bind_some, hm]; rfl, rfl, elsewhere _ _, unmarked⟩
  | spared hs hm ht =>
    exact ⟨by rw [expired?_eq hs hm, if_pos (.inl ht)]; rfl, rfl, elsewhere _ _, unmarked⟩
  | @aged s m hs hm ht hlife =>
    have there := mirrorAt_eq_some_iff.mpr ⟨s, hs, hm⟩
    have spared := (expired?_eq hs hm).trans (if_pos (.inr hlife))
    refine ⟨by rw [spared]; rfl, rfl, fun j hj => ?_, fun m' hm' => ⟨m, there, ?_⟩⟩
    · exact (elsewhere _ _ j hj).trans (elsewhere _ _ j hj)
    · rw [mirrorAt_putMirror ((mirrorAt_unmark t i i).trans there), if_pos rfl] at hm'
      obtain rfl := Option.some.inj hm'
      exact resembles_aged m m.z (m.lifetime - 1)
  | evicted hs hm ht hlife =>
    have expired := (expired?_eq hs hm).trans (if_neg (not_or.mpr ⟨ht, hlife⟩))
    refine ⟨by rw [expired]; rfl, rfl, fun j hj => ?_, fun m' hm' => ?_⟩
    · exact (elsewhere _ _ j hj).trans (elsewhere _ _ j hj)
    · rw [mirrorAt_vacate, if_pos rfl] at hm'
      cases hm'

/-- Slots that are looked at once each. -/
theorem leads_collectSlots {is : List Nat} (hn : is.Nodup)
    (hl : (is.forM collectSlot).Leads t h x t') :
    h = (is.filterMap t.expired?).map .freed ∧ x = .ok () := by
  induction is generalizing t h with
  | nil =>
    obtain ⟨rfl, rfl, -⟩ := Action.leads_forM_nil.mp hl
    exact ⟨rfl, rfl⟩
  | cons i is ih =>
    obtain ⟨hi, hn⟩ := List.nodup_cons.mp hn
    have hl : (collectSlot i >>= fun _ => is.forM collectSlot).Leads t h x t' := hl
    rcases Action.leads_bind.mp hl with ⟨e, -, hl⟩ | ⟨_, h₁, h₂, r, rfl, hl, hrest⟩
    · obtain ⟨-, he, -⟩ := leads_collectSlot hl
      cases he
    obtain ⟨rfl, -, hothers, -⟩ := leads_collectSlot hl
    obtain ⟨rfl, rfl⟩ := ih hn hrest
    -- the slots to come are as they were
    have same : is.filterMap r.expired? = is.filterMap t.expired? := by
      refine List.filterMap_congr fun j hj => ?_
      have hne : j ≠ i := fun he => hi (he ▸ hj)
      rw [expired?, hothers j hne, expired?]
    rw [same]
    cases he : t.expired? i with
    | none => simp [he]
    | some b => simp [he]

/-- A collection gives back the buffers of the mirrors whose time is up, and cannot fail. -/
theorem leads_collect (hl : collect.Leads t h x t') :
    h = t.evicted.map .freed ∧ x = .ok () :=
  leads_collectSlots List.nodup_range (Action.leads_get_bind.mp hl)

/-! ## Whatever is answered -/

theorem meets_upload (source : Layer) : (Mirror.upload source).Meets (.upkeep Mirror) := by
  have warn : (Mirror.warn source).Meets (.upkeep Mirror) := by
    refine Action.meets_get_bind fun m _ => ?_
    by_cases hw : m.capacity < source.sprites.length ∧ ¬ m.warned
    · rw [if_pos hw]
      exact (Action.meets_say _ _ _).bind fun _ => Action.meets_set trivial
    · rw [if_neg hw]
      exact Action.meets_pure _
  refine warn.bind fun _ => ?_
  refine Action.meets_get_bind fun m _ => ?_
  refine (Action.meets_issue (by trivial)).bind fun _ => ?_
  exact (Action.meets_modify fun _ _ => trivial).bind fun _ => Action.meets_say _ _ _

theorem meets_remove (id : LayerId) : (remove id).Meets (.upkeep MirrorTable) := by
  refine Action.meets_get_bind fun t _ => ?_
  cases t.find? id with
  | none => exact Action.meets_modify fun _ _ => trivial
  | some im =>
    refine (Action.meets_modify fun _ _ => trivial).bind fun _ => ?_
    refine (Action.meets_freeBuffer (by trivial)).bind fun _ => ?_
    exact Action.meets_modify fun _ _ => trivial

theorem meets_create (source : Layer) : (create source).Meets (.upkeep MirrorTable) := by
  refine Action.meets_get_bind fun t _ => ?_
  refine (Action.meets_createBuffer (by trivial)).bind fun b => ?_
  exact (Action.meets_modify fun _ _ => trivial).bind fun _ => Action.meets_say _ _ _

theorem meets_syncLayer (source : Layer) : (syncLayer source).Meets (.upkeep MirrorTable) := by
  have drop : (dropOther source).Meets (.upkeep MirrorTable) := by
    refine Action.meets_get_bind fun t _ => ?_
    cases t.get? source.id with
    | none => exact Action.meets_pure ()
    | some m =>
      by_cases hk : m.kind ≠ source.kind
      · simp only [if_pos hk]
        exact (Action.meets_say _ _ _).bind fun _ => meets_remove source.id
      · simp only [if_neg hk]
        exact Action.meets_pure ()
  have ensured : (ensure source).Meets (.upkeep MirrorTable) := by
    refine Action.meets_get_bind fun t _ => ?_
    by_cases hn : (t.get? source.id).isNone = true
    · rw [if_pos hn]
      exact meets_create source
    · rw [if_neg hn]
      exact Action.meets_pure _
  have updated : (update source).Meets (.upkeep MirrorTable) := by
    refine Action.meets_get_bind fun t _ => ?_
    cases t.find? source.id with
    | none => exact Action.meets_pure ()
    | some im =>
      obtain ⟨i, m⟩ := im
      by_cases hst : m.isStale source = true
      · simp only [if_pos hst]
        exact (meets_upload source).within (fun _ _ => trivial) (fun _ _ _ _ => trivial)
          (fun _ hc => hc) fun _ he => he
      · simp only [if_neg hst]
        exact Action.meets_pure ()
  -- touching makes no call, and an upkeep has nothing to keep
  refine drop.bind fun _ => ?_
  refine ensured.bind fun _ => ?_
  exact (Action.meets_modify fun _ _ => trivial).bind fun _ => updated

/-- A `sync` does upkeep only, and fails only if a call of it fails. -/
theorem meets_sync (layers : List Layer) : (sync layers).Meets (.upkeep MirrorTable) :=
  .forM fun l _ => meets_syncLayer l

theorem meets_collect : collect.Meets (.upkeep MirrorTable) := by
  intro t h x t' _ hl
  obtain ⟨rfl, rfl⟩ := leads_collect hl
  have freed : ∀ e ∈ (t.evicted.map Exchange.freed), ∃ b, e = .freed b := by
    intro e he
    obtain ⟨b, -, rfl⟩ := List.mem_map.mp he
    exact ⟨b, rfl⟩
  refine ⟨trivial, fun e he => ?_, Granted.halted fun e he => ?_, fun err he => by cases he⟩
  · obtain ⟨b, rfl⟩ := freed e he
    trivial
  · obtain ⟨b, rfl⟩ := freed e he
    rfl

end MirrorTable

end LitTiles
