import LitTiles.Proofs.Batch.Detours
import LitTiles.Proofs.Batch.Edits
import LitTiles.Proofs.Batch.UploadPolicy
import Mathlib.Order.Bounds.Basic

/-!
# Keys and slots

Keys, slots and the free list of a table fit together (`Tidy`), whatever is done with the table and
whatever of it fails; and it never has more slots than it needed at some time
(`keys_and_slots_agree`).

The invariant is `Housed`. Beside soundness it has one equation, that vacant slots and live layers
add up to all slots, from which it follows that a slot is added only when more layers are live than
ever before. Each edit keeps it (`Housed.step`), and hence everything that is done with a table does
(`Edits.housed`).
-/

namespace LitTiles

/-! ## Live layers -/

/-- How many layers are live after a history. A layer lives from the answer that hands its buffer
out to the call that gives the buffer back. -/
def population (h : List Exchange) : Int := h.foldl (fun n e => n + e.gain) 0

/-- How many layers were live, at one time or another. -/
def populations (h : List Exchange) : Set Int := {n | ∃ p, p <+: h ∧ population p = n}

variable {h : List Exchange} {e : Exchange} {n : Int}

/-- A call at the end of a history changes the population by what it gains: one more for a buffer
that was made, one less for one that was freed. -/
theorem population_concat (h : List Exchange) (e : Exchange) :
    population (h ++ [e]) = population h + e.gain := by
  simp [population]

theorem populations_nil : populations [] = {0} := by
  ext n
  simp [populations, population, eq_comm]

/-- A history has the populations of its beginning, and the one at its end. -/
theorem populations_concat (h : List Exchange) (e : Exchange) :
    populations (h ++ [e]) = insert (population (h ++ [e])) (populations h) := by
  ext n
  simp only [populations, Set.mem_ofPred_eq, Set.mem_insert_iff, List.prefix_concat_iff]
  grind

/-- A call that lets no more layers live than ever before. -/
theorem peak_concat (hp : IsGreatest (populations h) n) (hle : population h + e.gain ≤ n) :
    IsGreatest (populations (h ++ [e])) n := by
  have := hp.insert (population (h ++ [e]))
  rwa [← populations_concat, population_concat, max_eq_right hle] at this

/-- A call that lets one more layer live than ever before. -/
theorem peak_raise (hp : IsGreatest (populations h) n) (hn : population h + e.gain = n + 1) :
    IsGreatest (populations (h ++ [e])) (n + 1) := by
  have := hp.insert (population (h ++ [e]))
  rwa [← populations_concat, population_concat, hn, max_eq_left (by omega)] at this

namespace MirrorTable

variable {t t' : MirrorTable} {limits : MirrorLimits} {h' : List Exchange} {i : Nat}
  {m : Mirror} {id : LayerId} {layers : List Layer}

/-! ## Tidy tables -/

/-- Keys, slots and the free list fit together. -/
structure Tidy (t : MirrorTable) : Prop where
  /-- No layer has two keys. -/
  keyed : Keyed t.keys
  /-- A key leads to a slot of its generation, and the mirror of its layer is there. -/
  leads : ∀ id k, (id, k) ∈ t.keys →
    ∃ s m, t.slots[k.index]? = some s ∧ s.generation = k.generation ∧ s.mirror = some m ∧ m.id = id
  /-- To a slot with a mirror there leads exactly one key. -/
  led : ∀ i m, t.mirrorAt i = some m → ∃! e, e ∈ t.keys ∧ e.2.index = i
  /-- The free list holds each empty slot once, and nothing else. -/
  free : ∀ i, t.free.count i = if t.slots[i]?.any (·.mirror.isNone) then 1 else 0

/-- A key is in the table exactly if it leads to a slot of its generation with the mirror of its
layer. -/
theorem Sound.mem_keys_iff (hs : t.Sound) (hk : Keyed t.keys) {k : SlotKey} : (id, k) ∈ t.keys ↔
    ∃ s m, t.slots[k.index]? = some s ∧ s.generation = k.generation ∧
    s.mirror = some m ∧ m.id = id :=
  hk.mem_iff.trans (hs.key_iff id k)

/-- A sound table whose keys are distinct is tidy. What soundness says of looking up carries over to
what is in the lists. -/
theorem Sound.tidy (hs : t.Sound) (hk : Keyed t.keys) : t.Tidy where
  keyed := hk
  leads id k he := (hs.mem_keys_iff hk).mp he
  led i m hm := by
    obtain ⟨s, hslot, hsm⟩ := mirrorAt_eq_some_iff.mp hm
    refine ⟨(m.id, ⟨i, s.generation⟩),
      ⟨(hs.mem_keys_iff hk).mpr ⟨s, m, hslot, rfl, hsm, rfl⟩, rfl⟩, ?_⟩
    rintro ⟨id, ⟨j, g⟩⟩ ⟨he, rfl⟩
    obtain ⟨s', m', hslot', hg, hm', rfl⟩ := (hs.mem_keys_iff hk).mp he
    obtain rfl := Option.some.inj (hslot.symm.trans hslot')
    obtain rfl := Option.some.inj (hsm.symm.trans hm')
    obtain rfl : s.generation = g := hg
    rfl
  free i := by
    rw [hs.free_nodup.count]
    refine if_congr ((hs.mem_free i).trans ?_) rfl rfl
    simp [Option.any_eq_true]

/-- The free list has the empty slots. That it has each of them once is in `Tidy.nodup`. -/
theorem Tidy.mem_free (ht : t.Tidy) : i ∈ t.free ↔ ∃ s, t.slots[i]? = some s ∧ s.mirror = none := by
  rw [← List.one_le_count_iff, ht.free]
  cases hs : t.slots[i]? with
  | none => simp
  | some s => cases hm : s.mirror <;> simp [hm]

/-- A key leads to a mirror. -/
theorem Tidy.exists_mirrorAt (ht : t.Tidy) {e : LayerId × SlotKey} (he : e ∈ t.keys) :
    ∃ m, t.mirrorAt e.2.index = some m := by
  obtain ⟨s, m, hs, -, hm, -⟩ := ht.leads e.1 e.2 he
  exact ⟨m, mirrorAt_eq_some_iff.mpr ⟨s, hs, hm⟩⟩

/-- No slot is both keyed and free, and none is so twice. -/
theorem Tidy.nodup (ht : t.Tidy) : (t.keys.map (·.2.index) ++ t.free).Nodup := by
  have keys : (t.keys.map (·.2.index)).Nodup := by
    refine List.Nodup.map_on (fun e he e' he' hi => ?_) (List.Nodup.of_map _ ht.keyed)
    obtain ⟨m, hm⟩ := ht.exists_mirrorAt he
    exact (ht.led _ m hm).unique ⟨he, rfl⟩ ⟨he', hi.symm⟩
  have free : t.free.Nodup := by
    refine List.nodup_iff_count_le_one.mpr fun i => ?_
    rw [ht.free]
    split <;> decide
  refine List.nodup_append.mpr ⟨keys, free, fun i hi j hj hij => ?_⟩
  obtain ⟨e, he, rfl⟩ := List.mem_map.mp hi
  obtain ⟨m, hm⟩ := ht.exists_mirrorAt he
  obtain ⟨s, hs, hn⟩ := ht.mem_free.mp (hij ▸ hj)
  rw [mirrorAt, hs, Option.bind_some, hn] at hm
  cases hm

/-- Each slot is the one that a key leads to, or is in the free list once. -/
theorem Tidy.perm (ht : t.Tidy) :
    (t.keys.map (·.2.index) ++ t.free).Perm (List.range t.slots.length) := by
  refine (List.perm_ext_iff_of_nodup ht.nodup List.nodup_range).mpr fun i => ?_
  rw [List.mem_append, List.mem_map, List.mem_range, ht.mem_free]
  constructor
  · rintro (⟨e, he, rfl⟩ | ⟨s, hs, -⟩)
    · obtain ⟨s, m, hs, -⟩ := ht.leads e.1 e.2 he
      exact (List.getElem?_eq_some_iff.mp hs).1
    · exact (List.getElem?_eq_some_iff.mp hs).1
  · intro hi
    have hs := List.getElem?_eq_getElem hi
    cases hm : t.slots[i].mirror with
    | none => exact .inr ⟨_, hs, hm⟩
    | some m =>
      obtain ⟨e, he, -⟩ := ht.led i m (mirrorAt_eq_some_iff.mpr ⟨_, hs, hm⟩)
      exact .inl ⟨e, he⟩

/-- Keys and free slots add up to all slots, by `Tidy.perm`. In `Housed.room` the live layers stand
in place of the keys. -/
theorem Tidy.size_add (ht : t.Tidy) : t.size + t.free.length = t.slots.length := by
  simpa [size] using ht.perm.length_eq

/-! ## The invariant -/

/-- The capacity of each mirror is that of its upload policy. -/
def Fitted (t : MirrorTable) : Prop :=
  ∀ i m, t.mirrorAt i = some m → m.capacity = t.limits.capacity m.kind

/-- What holds of a table at any time, with what was called so far. -/
structure Housed (h : List Exchange) (t : MirrorTable) : Prop where
  /-- Keys and the free list tell the truth. -/
  sound : t.Sound
  /-- No layer has two keys. -/
  keyed : Keyed t.keys
  /-- Mirrors have the capacity they ought to have. -/
  fitted : t.Fitted
  /-- A slot is empty, or it is that of a live layer. -/
  room : population h + t.free.length = t.slots.length
  /-- There are as many slots as layers were live at one time, and no more than that. -/
  peak : IsGreatest (populations h) t.slots.length

theorem housed_empty (limits : MirrorLimits) : Housed [] { limits := limits } where
  sound := sound_empty limits
  keyed := List.nodup_nil
  fitted i m hm := by simp [mirrorAt] at hm
  room := rfl
  peak := populations_nil ▸ isGreatest_singleton

/-- As many layers have a key as are live, by the two ways of counting the slots. -/
theorem Housed.size_eq (hh : Housed h t) : (t.size : Int) = population h := by
  have := (hh.sound.tidy hh.keyed).size_add
  have := hh.room
  omega

/-- A vacant slot is taken if there is one, and otherwise there is a slot more. -/
theorem length_occupy (t : MirrorTable) (m : Mirror) :
    (t.free.length = (t.occupy m).free.length + 1 ∧ (t.occupy m).slots.length = t.slots.length) ∨
    (t.free.length = 0 ∧ (t.occupy m).free.length = 0 ∧
      (t.occupy m).slots.length = t.slots.length + 1) := by
  unfold occupy
  cases hf : t.free with
  | nil => simp [insertKey]
  | cons i free => simp [insertKey, modifySlot]

/-- An edit never gives a layer a second key: a mirror is only made for a layer that has none. -/
theorem Edit.keyed (he : Edit t h t') (hk : Keyed t.keys) : Keyed t'.keys := by
  cases he with
  | call => exact hk
  | change => exact hk
  | evict => exact hk.filter _
  | occupy =>
    unfold MirrorTable.occupy
    cases t.free <;> exact hk.insert _ _

/-- No edit moves the ceilings. -/
theorem Edit.limits_eq (he : Edit t h t') : t'.limits = t.limits := by
  cases he with
  | occupy =>
    unfold MirrorTable.occupy
    cases t.free <;> rfl
  | _ => rfl

/-- Where a slot changes in its place, a mirror is of the nature of the one that was there. -/
theorem exists_nature_of_modifySlot {f : Slot → Slot} {j : Nat}
    (hf : ∀ s, t.slots[i]? = some s → (f s).mirror.map Mirror.nature = s.mirror.map Mirror.nature)
    (hm : (t.modifySlot i f).mirrorAt j = some m) : ∃ m', t.mirrorAt j = some m' ∧
    m'.nature = m.nature := by
  rw [mirrorAt_modifySlot] at hm
  by_cases hij : i = j
  · subst hij
    rw [if_pos rfl] at hm
    obtain ⟨s, hslot, hsm⟩ := Option.bind_eq_some_iff.mp hm
    have nature := hf s hslot
    rw [hsm, Option.map_some, eq_comm, Option.map_eq_some_iff] at nature
    obtain ⟨m', hm', hnature⟩ := nature
    exact ⟨m', mirrorAt_eq_some_iff.mpr ⟨s, hslot, hm'⟩, hnature⟩
  · rw [if_neg hij] at hm
    exact ⟨m, hm, rfl⟩

/-- A mirror that an edit makes has the capacity of its kind, and one that is replaced is so by a
mirror of the same kind and capacity. -/
theorem Edit.fitted (hs : t.Sound) (he : Edit t h t') (hf : t.Fitted) : t'.Fitted := by
  intro j m hm
  rw [he.limits_eq]
  cases he with
  | call => exact hf j m hm
  -- a mirror that is replaced had the kind and the capacity of the new one
  | change hg hn =>
    obtain ⟨m', hm', hnature⟩ := exists_nature_of_modifySlot hn hm
    simp only [Mirror.nature, Prod.mk.injEq] at hnature
    obtain ⟨-, hkind, hcapacity⟩ := hnature
    rw [← hkind, ← hcapacity]
    exact hf j m' hm'
  | evict =>
    rw [mirrorAt_vacate] at hm
    split at hm
    · cases hm
    · exact hf j m hm
  | occupy hn hc =>
    rw [hs.mirrorAt_occupy] at hm
    split at hm
    · obtain rfl := Option.some.inj hm
      exact hc
    · exact hf j m hm

/-- A slot more is made only when all slots are taken. -/
theorem Edit.room (he : Edit t h' t') (room : population h + t.free.length = t.slots.length)
    (peak : IsGreatest (populations h) t.slots.length) :
    population (h ++ h') + t'.free.length = t'.slots.length ∧
      IsGreatest (populations (h ++ h')) t'.slots.length := by
  cases he with
  | call hg =>
    rw [population_concat, hg]
    exact ⟨by omega, peak_concat peak (by omega)⟩
  | change =>
    rw [List.append_nil]
    simpa [MirrorTable.modifySlot] using ⟨room, peak⟩
  | @evict i m _ =>
    have gain : (Exchange.freed m.buffer).gain = -1 := rfl
    have hfree : ((t.eraseKey m.id).vacate i).free.length = t.free.length + 1 := rfl
    have hslots : ((t.eraseKey m.id).vacate i).slots.length = t.slots.length :=
      List.length_modify ..
    rw [population_concat, gain, hfree, hslots]
    exact ⟨by omega, peak_concat peak (by omega)⟩
  | @occupy m _ _ =>
    have gain : (Exchange.made m.capacity m.buffer).gain = 1 := rfl
    rw [population_concat, gain]
    -- a mirror takes a free slot, or there is none and the peak goes up with the slots
    rcases length_occupy t m with ⟨hfree, hslots⟩ | ⟨hfull, hfree, hslots⟩
    · rw [hslots]
      exact ⟨by omega, peak_concat peak (by omega)⟩
    · rw [hslots, hfree]
      exact ⟨by omega, peak_raise peak (by omega)⟩

/-- **Each edit keeps the invariant.** -/
theorem Housed.step (hh : Housed h t) (he : Edit t h' t') : Housed (h ++ h') t' where
  sound := he.sound hh.sound
  keyed := he.keyed hh.keyed
  fitted := he.fitted hh.sound hh.fitted
  room := (he.room hh.room hh.peak).1
  peak := (he.room hh.room hh.peak).2

/-- A sequence of edits keeps the invariant, with the calls of all of them behind those before. By
induction on the sequence. -/
theorem Edits.housed (he : Edits t h' t') (hh : Housed h t) : Housed (h ++ h') t' :=
  he.keeps Housed (fun _ _ _ _ hh he => hh.step he) hh

theorem Edits.limits_eq (he : Edits t h t') : t'.limits = t.limits := by
  induction he with
  | refl => rfl
  | step _ last ih => exact last.limits_eq.trans ih

/-! ## Runs -/

/-- What may be done with a table, to clear it included. -/
inductive Work where
  /-- What is done before it is cleared. -/
  | op (o : Op)
  /-- Gives every buffer back. -/
  | clear

namespace Work

/-- What a table does. -/
def action : Work → Action MirrorTable Unit
  | op o => o.action
  | clear => MirrorTable.clear

/-- What a table does with the branches for keys that lead astray open. -/
def actionBy (detour : Detour) : Work → Action MirrorTable Unit
  | op (.sync layers) => syncBy detour layers
  | op (.invalidate id) => invalidateBy detour id
  | op .collect => MirrorTable.collect
  | clear => MirrorTable.clear

/-- What a table does, with the layers for which calls are made. -/
def trail : Work → Trail MirrorTable Unit
  | op o => o.trail
  | clear => Trail.of none MirrorTable.clear

/-- Without a detour the branches are those of the table. -/
theorem actionBy_straight (w : Work) : w.actionBy .straight = w.action := by
  cases w with
  | op o =>
    cases o with
    | sync layers => exact syncBy_straight layers
    | invalidate id => exact invalidateBy_straight id
    | collect => rfl
  | clear => rfl

/-- The trail of a work is its action, with a layer noted for each call. -/
theorem trail_erases (w : Work) : w.trail.Erases w.action := by
  cases w with
  | op o => exact o.trail_erases
  | clear => exact Trail.erases_of _ _

/-- Everything that is done with a table comes down to edits, so that what is proved of one edit
holds of all works. -/
theorem byEdits_action (w : Work) : ByEdits w.action := by
  cases w with
  | op o =>
    cases o with
    | sync layers => exact byEdits_sync layers
    | invalidate id => exact byEdits_invalidate id
    | collect => exact byEdits_collect
  | clear => exact byEdits_clear

/-- Every work keeps the invariant that ties the mirrors to what was called. For a clearing there is
nothing left that could be tied. -/
theorem keeps_trail (w : Work) : w.trail.Keeps Kept := by
  cases w with
  | op o => exact o.keeps_trail
  | clear =>
    rintro t before es x t' hk ⟨h, rfl, hl⟩
    obtain ⟨-, vacant, -⟩ := leads_clear hl
    refine ⟨(leases_clear hk.toLeases hl).1, (byEdits_clear hk.sound hl).sound hk.sound,
      fun i m hm => ?_⟩
    rw [vacant] at hm
    cases hm

/-- With any detour a table does what it does without one. -/
theorem sameFrom_actionBy (detour : Detour) {before : List Entry} (hk : t.Kept before) (w : Work) :
    Action.SameFrom t (w.actionBy detour) w.action := by
  cases w with
  | op o =>
    cases o with
    | sync layers => exact sameFrom_syncBy detour hk layers
    | invalidate id => exact sameFrom_invalidateBy detour hk.sound id
    | collect => exact .refl _
  | clear => exact .refl _

end Work

variable {works : List Work} {before : List Entry}

/-- A run of works is a sequence of edits, whatever fails in between. Soundness is carried along,
since it is what makes each work consist of edits. -/
theorem edits_of_attempts (hs : t.Sound) (ha : Action.Attempts (works.map Work.action) t h t') :
    Edits t h t' := by
  induction works generalizing t h with
  | nil =>
    obtain ⟨rfl, rfl⟩ := ha
    exact .refl _
  | cons w works ih =>
    obtain ⟨h₁, h₂, x, r, rfl, hfirst, hrest⟩ := ha
    have first := w.byEdits_action hs hfirst
    exact first.trans (ih (first.sound hs) hrest)

/-- A table is kept after a run of works. The layers that the calls were made for are recovered from
the trail; which they are does not matter here. -/
theorem exists_kept_of_attempts (hk : t.Kept before)
    (ha : Action.Attempts (works.map Work.action) t h t') :
    ∃ before', t'.Kept before' := by
  obtain ⟨es, -, ha⟩ := (Trail.attempts_erases Work.trail_erases).mp ha
  exact ⟨before ++ es, Trail.Keeps.attempts (List.forall_mem_map.mpr fun w _ =>
    w.keeps_trail) hk ha⟩

/-- A run takes the same course with any detour. -/
theorem attempts_actionBy (detour : Detour) (hk : t.Kept before)
    (ha : Action.Attempts (works.map Work.action) t h t') :
    Action.Attempts (works.map (Work.actionBy detour)) t h t' := by
  induction works generalizing t before h with
  | nil => exact ha
  | cons w works ih =>
    obtain ⟨h₁, h₂, x, r, rfl, hfirst, hrest⟩ := ha
    -- only a table that keeps the invariant takes no notice of the detour
    obtain ⟨es, -, htrail⟩ := (w.trail_erases t h₁ x r).mp hfirst
    have hk' := w.keeps_trail t before es x r hk htrail
    exact ⟨h₁, h₂, x, r, rfl, (w.sameFrom_actionBy detour hk).leads.mpr hfirst, ih hk' hrest⟩

/-! ## After a `sync` -/

/-- A layer of a scene behind which there is none of its identity. -/
def IsLast (layers : List Layer) (last : Layer) : Prop :=
  ∃ earlier later, layers = earlier ++ last :: later ∧ ∀ l ∈ later, l.id ≠ last.id

/-- Among the layers of one identity there is a last one. By induction from the front: the last one
is in the rest, if there is any in the rest. -/
theorem exists_isLast (hl : ∃ l ∈ layers, l.id = id) : ∃ last, IsLast layers last ∧
    last.id = id := by
  induction layers with
  | nil =>
    obtain ⟨l, hl, -⟩ := hl
    cases hl
  | cons l₁ ls ih =>
    by_cases hrest : ∃ l ∈ ls, l.id = id
    · obtain ⟨last, ⟨earlier, later, rfl, hlater⟩, hid⟩ := ih hrest
      exact ⟨last, ⟨l₁ :: earlier, later, rfl, hlater⟩, hid⟩
    · obtain ⟨l, hl, rfl⟩ := hl
      rcases List.mem_cons.mp hl with rfl | hl
      · exact ⟨l, ⟨[], ls, rfl, fun l' hl' hid => hrest ⟨l', hl', hid⟩⟩, rfl⟩
      · exact absurd ⟨l, hl, rfl⟩ hrest

/-- A layer has a mirror of the upload policy, and of its capacity, that the last layer of the
identity asks for. -/
theorem exists_mirror_of_sync (hk : t.Kept before) (hh : Housed h t)
    (hl : (sync layers).Leads t h' (.ok ()) t') {last : Layer} (hlast : IsLast layers last) :
    ∃ m, t'.get? last.id = some m ∧ m.kind = last.kind ∧
    m.capacity = t.limits.capacity last.kind := by
  have edits := byEdits_sync layers hk.sound hl
  obtain ⟨earlier, later, rfl, hlater⟩ := hlast
  obtain ⟨m, hm, hkind, -⟩ := (synced_of_sync hk hl).upToDate hlater
  obtain ⟨i, hi, -⟩ := (edits.sound hk.sound).get?_eq_some_iff.mp hm
  have fitted := (edits.housed hh).fitted i m hi
  rw [edits.limits_eq, hkind] at fitted
  exact ⟨m, hm, hkind, fitted⟩

/-! ## The main result -/

/-- All is well with a table after a run. -/
structure InOrder (limits : MirrorLimits) (works : List Work) (h : List Exchange)
    (t : MirrorTable) : Prop where
  /-- Keys, slots and the free list fit together. -/
  tidy : t.Tidy
  /-- As many layers have a key as are live. -/
  size : (t.size : Int) = population h
  /-- There are as many slots as layers were live at the same time, when most of them were. -/
  slots : IsGreatest (populations h) t.slots.length
  /-- No key leads astray. -/
  found : ∀ id, ¬ (t.search id).Astray
  /-- Nor did one ever do so. With the branches for that case open the run takes the same course,
  whatever is done in them. -/
  straight : (∀ w ∈ works, w.actionBy .straight = w.action) ∧
    ∀ detour, Action.Attempts (works.map (Work.actionBy detour)) { limits := limits } h t
  /-- After a `sync` that succeeds each layer of the scene has a mirror. Its upload policy is that
  of the last layer of the identity, and its capacity that of the policy. -/
  served : ∀ layers h' t', (sync layers).Leads t h' (.ok ()) t' → ∀ l ∈ layers, ∃ last m,
    IsLast layers last ∧ last.id = l.id ∧ t'.get? l.id = some m ∧
      m.kind = last.kind ∧ m.capacity = limits.capacity last.kind

variable {limits : MirrorLimits}

/-- **Keys and slots agree.** Whatever is done with a table, and whatever of it fails, all is well
with it. -/
theorem keys_and_slots_agree (ha : Action.Attempts (works.map Work.action)
    { limits := limits } h t) :
    InOrder limits works h t := by
  have edits := edits_of_attempts (sound_empty limits) ha
  have housed := edits.housed (housed_empty limits)
  obtain ⟨before, hk⟩ := exists_kept_of_attempts (kept_empty limits) ha
  refine {
    tidy := housed.sound.tidy housed.keyed
    size := housed.size_eq
    slots := housed.peak
    found := housed.sound.not_astray
    straight :=
      ⟨fun w _ => w.actionBy_straight, fun detour =>
        attempts_actionBy detour (kept_empty limits) ha⟩
    served := fun layers h' t' hl l hmem => ?_ }
  obtain ⟨last, hlast, hid⟩ := exists_isLast ⟨l, hmem, rfl⟩
  obtain ⟨m, hm, hkind, hcapacity⟩ := exists_mirror_of_sync hk housed hl hlast
  rw [hid] at hm
  rw [edits.limits_eq] at hcapacity
  exact ⟨last, m, hlast, hid, hm, hkind, hcapacity⟩

/-- A `sync` stops at a write, another one meets a layer twice, and slots are used again after an
eviction and after the end. -/
def mixed : List Work :=
  [.op (.sync [still, pushed "a"]),
    .op (.sync [still, pushed "a", { still with kind := .dynamic }]), .op (.invalidate still.id),
    .op .collect, .op .collect, .op (.sync [pushed "b"]), .clear,
    .op (.sync [still])]

/-- At most two layers were live at the same time, so there are two slots. A last `sync`
succeeds. -/
theorem keys_and_slots_agree_mixed :
    let run := Action.playAll faltering (mixed.map Work.action) { limits := ⟨8, 4, 1⟩ } 0
    run.1.map (fun e => CallKind.of e.call) =
      [.createBuffer, .writeInstances, .writeInstances, .createBuffer, .writeInstances, .freeBuffer,
        .createBuffer, .writeInstances, .freeBuffer, .freeBuffer, .createBuffer,
        .writeInstances, .freeBuffer,
        .createBuffer, .writeInstances] ∧
    run.2.1.slots.length = 2 ∧ InOrder ⟨8, 4, 1⟩ mixed run.1 run.2.1 ∧
    ∃ h' t', (sync [still, { still with kind := .dynamic }]).Leads run.2.1 h' (.ok ()) t' := by
  refine ⟨by decide +kernel, by decide +kernel,
    keys_and_slots_agree (Action.attempts_playAll faltering (mixed.map Work.action) _ 0), ?_⟩
  exact Action.exists_leads_of_play faltering _ _
    (Action.playAll faltering (mixed.map Work.action) { limits := ⟨8, 4, 1⟩ } 0).2.2
      (by decide +kernel)

end MirrorTable

end LitTiles
