import LitTiles.Proofs.Batch.Visiting

/-!
# What a revision tells

Whether a dynamic layer is uploaded again is decided by its revision, unless somebody asks for it or
its mirror is a new one. So after a `sync` the mirror of a dynamic layer shows a layer of the same
identity, policy and revision (`dynamic_layers_current`), and one that was brought in line since the
mirror was last asked for, or came: a mirror that needs no upload was written since then
(`WrittenSince`).

That is the layer itself, as long as it is kept and edited in place: a revision counts edits, so it
comes round after 2 ^ 64 of them and not before (`Layer.Edited.eq_of_revision`). Another layer under
the same identity may have the same revision by chance, and is not uploaded then
(`replaced_layer_shows_old_sprites`).
-/

namespace LitTiles

/-! ## Edits in place -/

namespace Layer

/-- One layer is another one after a number of edits. -/
inductive Edited : Layer → Nat → Layer → Prop
  /-- No edit. -/
  | refl (l : Layer) : Edited l 0 l
  /-- One more edit. -/
  | edit {l l' : Layer} {n : Nat} (f : List Sprite → List Sprite) (h : Edited l n l') :
    Edited l (n + 1) (l'.edit f)

/-- A revision counts edits, modulo 2 ^ 64. -/
theorem Edited.revision {l l' : Layer} {n : Nat} (h : Edited l n l') :
    l'.revision = l.revision + UInt64.ofNat n := by
  induction h with
  | refl => simp
  | edit f h ih =>
    rw [UInt64.ofNat_add, ← UInt64.add_assoc, ← ih]
    rfl

/-- A layer that was edited fewer than 2 ^ 64 times, and has the revision it had, was not edited at
all. -/
theorem Edited.eq_of_revision {l l' : Layer} {n : Nat} (h : Edited l n l') (hn : n < UInt64.size)
    (hr : l'.revision = l.revision) : l' = l := by
  have hz : UInt64.ofNat n = 0 := by
    have := h.revision.symm.trans hr
    simpa using this
  have hz : n = 0 := by
    have hzero : n % UInt64.size = 0 := congrArg UInt64.toNat hz
    rwa [Nat.mod_eq_of_lt hn] at hzero
  subst hz
  cases h
  rfl

end Layer

namespace MirrorTable

variable {limits : MirrorLimits} {ops : List Op} {layers : List Layer}
  {t t' : MirrorTable} {l : Layer} {id : LayerId} {before since es es' : List Entry}
    {h : List Exchange} {x : Except RenderError Unit}

/-! ## Writes since a table -/

/-- If a layer has a dynamic mirror that needs no upload, then some write for the layer has
succeeded since. -/
def WrittenSince (id : LayerId) (t : MirrorTable) (since : List Entry) : Prop :=
  ∀ m, t.get? id = some m → m.kind = .dynamic → m.needsUpdate = false →
    ∃ e ∈ since, e.writesFor id = true

/-- More calls are no harm where a mirror is as it was, but for a request. -/
theorem WrittenSince.alike (hw : t.WrittenSince id since)
    (hm : ∀ m', t'.get? id = some m' → m'.needsUpdate = false →
      ∃ m, t.get? id = some m ∧ m'.kind = m.kind ∧ m.needsUpdate = false) (more : List Entry) :
    t'.WrittenSince id (since ++ more) := by
  intro m' hg hd hn
  obtain ⟨m, hg₀, hkind, hn₀⟩ := hm m' hg hn
  obtain ⟨e, he, hwrites⟩ := hw m hg₀ (hkind.symm.trans hd) hn₀
  exact ⟨e, List.mem_append_left _ he, hwrites⟩

/-- A visit leaves a request pending, or it has written, or there was none. -/
theorem WrittenSince.syncLayer (hw : t.WrittenSince id since) (hk : t.Kept before)
    (hl : (syncLayer l).Leads t h x t') : t'.WrittenSince id (since ++ entries (some l) h) := by
  by_cases hid : l.id = id
  swap
  · have same : t'.get? id = t.get? id := (kept_syncLayer hk hl).2.1 id (Ne.symm hid)
    exact hw.alike (fun m' hg hn => ⟨m', same ▸ hg, rfl, hn⟩) _
  subst hid
  -- a mirror that came with the visit has a request of its own
  have there : ∀ b (w : Mirror), w.Resembles (t.mirrorFor l b) → w.needsUpdate = false →
      ∃ m, t.get? l.id = some m ∧ w.kind = m.kind ∧ m.needsUpdate = false := by
    intro b w hr hn
    have settled : (t.mirrorFor l b).needsUpdate = false := hr.sameRequest.symm.trans hn
    by_cases hm : ∃ m, t.get? l.id = some m ∧ m.kind = l.kind
    · obtain ⟨m, hg, hkind⟩ := hm
      obtain ⟨found, -⟩ := mirrorFor_of_get? hg hkind b
      rw [found] at hr settled
      exact ⟨m, hg, hr.kind, settled⟩
    · rw [mirrorFor_of_fresh (fun m hg hkind => hm ⟨m, hg, hkind⟩) b] at settled
      cases settled
  rcases leads_syncLayer hk hl with ⟨-, hnone, -⟩ | ⟨b, w, -, hr, ⟨-, rfl, -, hg⟩ | ⟨-, hg, rfl⟩⟩
  · intro m' hg'
    rw [hnone] at hg'
    cases hg'
  · refine hw.alike (fun m' hg' hn => ?_) _
    obtain rfl := Option.some.inj (hg.symm.trans hg')
    exact there b w hr hn
  cases x with
  | error e =>
    refine hw.alike (fun m' hg' hn => ?_) _
    obtain rfl := Option.some.inj (hg.symm.trans hg')
    exact there b w hr hn
  | ok v =>
    rw [entries_append, ← List.append_assoc]
    refine fun _ _ _ _ => ⟨_, List.mem_append_right _ List.mem_cons_self, ?_⟩
    simp [Entry.writesFor]

/-- Whatever is done with a table, a mirror without a request was written since the table was as it
is now. -/
theorem keeps_writtenSince (id : LayerId) (before : List Entry) (o : Op) :
    o.trail.Keeps fun t es => t.Kept es ∧ ∃ since, es = before ++ since ∧
    t.WrittenSince id since := by
  cases o with
  | sync layers =>
    refine Trail.Keeps.forEach fun l _ => ?_
    rintro t _ es x t' ⟨hk, since, rfl, hw⟩ ⟨h, rfl, hl⟩
    exact ⟨(kept_syncLayer hk hl).1, _, List.append_assoc .., hw.syncLayer hk hl⟩
  | invalidate id' =>
    rintro t _ es x t' ⟨hk, since, rfl, hw⟩ hl
    refine ⟨(Op.invalidate id').keeps_trail t _ es x t' hk hl, since ++ es,
      List.append_assoc .., ?_⟩
    obtain ⟨h, rfl, hl⟩ := hl
    obtain ⟨rfl, -, rfl⟩ := Action.leads_modify.mp hl
    refine hw.alike (fun m' hg hn => ?_) _
    obtain ⟨m, hm, ha, hr⟩ := get?_of_invalidate hk hg
    -- a request either is for this layer, and then a write is due, or it leaves the mirror as it
    -- was
    rw [hn] at hr
    split at hr
    · cases hr
    · exact ⟨m, hm, ha.kind, hr.symm⟩
  | collect =>
    rintro t _ es x t' ⟨hk, since, rfl, hw⟩ hl
    refine ⟨Op.collect.keeps_trail t _ es x t' hk hl, since ++ es, List.append_assoc .., ?_⟩
    obtain ⟨h, rfl, hl⟩ := hl
    refine hw.alike (fun m' hg hn => ?_) _
    obtain ⟨m, hm, hr⟩ := get?_of_collectSlots hk (Action.leads_get_bind.mp hl) hg
    exact ⟨m, hm, hr.kind, hr.sameRequest.symm.trans hn⟩

/-- If a layer was just asked for, or has no dynamic mirror, then nothing was written yet that
counts. -/
theorem writtenSince_nil (hk : t.Kept before)
    (hr : (∃ r : MirrorTable, t = r.invalidate id ∧ r.Kept before) ∨
      ∀ m, t.get? id = some m → m.kind = .static) :
    t.WrittenSince id [] := by
  intro m hg hd hn
  rcases hr with ⟨r, rfl, hk'⟩ | hs
  · obtain ⟨_, _, _, asked⟩ := get?_of_invalidate hk' hg
    rw [if_pos rfl, hn] at asked
    cases asked
  · cases (hs m hg).symm.trans hd

/-! ## Dynamic layers -/

/-- An up-to-date mirror of a dynamic layer shows a layer of the same identity, policy and revision:
the one that was last written for the identity. -/
theorem Kept.exists_source (hk : t.Kept es) (hu : t.UpToDate l) (hd : l.kind = .dynamic) :
    ∃ m source, t.get? l.id = some m ∧ m.kind = .dynamic ∧ m.needsUpdate = false ∧
      source.id = l.id ∧ source.kind = .dynamic ∧ source.revision = l.revision ∧
      m.drawCalls = DrawCall.ofSprites (m.kept source) ∧
      lastWrite es l.id = some (m.writing source) := by
  obtain ⟨m, hm, hkind, hs⟩ := hu
  obtain ⟨i, hi, hid⟩ := hk.sound.get?_eq_some_iff.mp hm
  have hdyn : m.kind = .dynamic := hkind.trans hd
  obtain ⟨settled, hup⟩ : m.needsUpdate = false ∧ m.uploaded = some l.revision := by
    rw [Mirror.isStale, hdyn] at hs
    simpa using hs
  rcases hk.backed i m hi with hn | ⟨source, hr, hw, -⟩
  · cases hn.needsUpdate.symm.trans settled
  · have revision : source.revision = l.revision := Option.some.inj (hr.revision.symm.trans hup)
    exact ⟨m, source, hm, hdyn, settled, hr.id.trans hid, hr.kind.trans hdyn, revision,
      hr.drawCalls, hid ▸ hw⟩

/-- The last operations of a run, before which a dynamic mirror of a layer had to be written anew:
somebody asked for the layer, or the layer had no such mirror. -/
inductive SinceRenewal (limits : MirrorLimits) (ops : List Op) (es : List Entry)
    (t : MirrorTable) (id : LayerId) : List Op → Prop
  /-- Somebody asked for the layer. -/
  | asked (earlier later : List Op) (split : ops = earlier ++ .invalidate id :: later) :
    SinceRenewal limits ops es t id later
  /-- The layer had no mirror, since it was never seen or its mirror was evicted, or had one of the
  other policy. -/
  | without (earlier later : List Op) (es₁ es₂ : List Entry) (r : MirrorTable)
    (split : ops = earlier ++ later) (calls : es = es₁ ++ es₂)
    (before : Trail.Attempts (earlier.map Op.trail) { limits := limits } es₁ r)
    (after : Trail.Attempts (later.map Op.trail) r es₂ t)
    (missing : ∀ m, r.get? id = some m → m.kind = .static) :
    SinceRenewal limits ops es t id later

theorem kept_of_attempts (ha : Trail.Attempts (ops.map Op.trail) { limits := limits } es t) :
    t.Kept es := by
  refine Trail.Keeps.attempts (fun m hm => ?_) (kept_empty limits) ha
  obtain ⟨o, -, rfl⟩ := List.mem_map.mp hm
  exact o.keeps_trail

/-- After a renewal nothing that was written before counts any more. -/
theorem SinceRenewal.split {later : List Op}
    (ha : Trail.Attempts (ops.map Op.trail) { limits := limits } es t)
    (hr : SinceRenewal limits ops es t id later) :
    ∃ es₁ es₂ r, es = es₁ ++ es₂ ∧ r.Kept es₁ ∧ r.WrittenSince id [] ∧
      Trail.Attempts (later.map Op.trail) r es₂ t := by
  cases hr with
  | asked earlier _ split =>
    subst split
    rw [List.map_append] at ha
    obtain ⟨es₁, _, r, rfl, first, _, es₂, x, r', rfl, ⟨h, rfl, asks⟩, rest⟩ := ha.split
    obtain ⟨rfl, -, rfl⟩ := Action.leads_modify.mp asks
    have kept := kept_of_attempts first
    exact ⟨es₁, es₂, _, rfl, kept.invalidate id,
      writtenSince_nil (kept.invalidate id) (.inl ⟨r, rfl, kept⟩), rest⟩
  | without earlier _ es₁ es₂ r split calls first rest missing =>
    have kept := kept_of_attempts first
    exact ⟨es₁, es₂, r, calls, kept, writtenSince_nil kept (.inr missing), rest⟩

/-- So a mirror that needs no upload in the end was written since. -/
theorem WrittenSince.run {later : List Op} {r : MirrorTable} {es₁ es₂ : List Entry}
    (hk : r.Kept es₁) (hw : r.WrittenSince id []) (ha : Trail.Attempts (later.map Op.trail) r es₂ t)
    (hs : syncTrail layers t es' x t') : t'.WrittenSince id (es₂ ++ es') := by
  have keeps : ∀ m ∈ later.map Op.trail, m.Keeps fun t es =>
      t.Kept es ∧ ∃ since, es = es₁ ++ since ∧ t.WrittenSince id since := by
    intro m hm
    obtain ⟨o, -, rfl⟩ := List.mem_map.mp hm
    exact keeps_writtenSince id es₁ o
  have start : r.Kept es₁ ∧ ∃ since, es₁ = es₁ ++ since ∧ r.WrittenSince id since :=
    ⟨hk, [], (List.append_nil _).symm, hw⟩
  have ran := Trail.Keeps.attempts keeps start ha
  obtain ⟨-, since, grown, written⟩ := keeps_writtenSince id es₁ (.sync layers) t _ es' x t' ran hs
  rw [List.append_assoc] at grown
  rwa [List.append_cancel_left grown]

/-- What was written since a renewal comes from a layer that was brought in line since then. -/
theorem mem_of_sinceRenewal {later : List Op} {m : Mirror} {source : Layer}
    (ha : Trail.Attempts (ops.map Op.trail) { limits := limits } es t)
    (hs : syncTrail layers t es' x t') (hr : SinceRenewal limits ops es t id later)
    (hg : t'.get? id = some m) (hd : m.kind = .dynamic) (hn : m.needsUpdate = false)
    (hw : lastWrite (es ++ es') id = some (m.writing source)) :
    source ∈ later.flatMap Op.layers ++ layers := by
  obtain ⟨es₁, es₂, r, rfl, kept, none_yet, rest⟩ := hr.split ha
  have written := WrittenSince.run kept none_yet rest hs m hg hd hn
  rw [List.append_assoc, lastWrite_append_of_mem written] at hw
  have hin : m.writing source ∈ es₂ ++ es' := List.mem_reverse.mp (List.mem_of_find?_eq_some hw)
  rw [List.mem_append]
  rcases List.mem_append.mp hin with hin | hin
  · exact .inl (source_mem_of_attempts rest _ hin source rfl)
  · obtain ⟨l', hl', he⟩ := source_mem_of_sync hs _ hin
    obtain rfl := Option.some.inj he
    exact .inr hl'

/-- **What the mirror of a dynamic layer shows.** After a `sync` that succeeds, of layers with
distinct identities, every dynamic layer among them has a mirror whose last write and draw calls are
those of the sprites, as far as they fit, of a dynamic layer with the same identity and the same
revision. That layer was brought in line since the mirror had to be written anew the last time, be
it that somebody asked for it or that it came. It is the layer itself if all dynamic layers that
were brought in line under the identity since then are the one layer, kept and edited in place,
fewer than 2 ^ 64 times. -/
theorem dynamic_layers_current
    (ha : Trail.Attempts (ops.map Op.trail) { limits := limits } es t)
    (hs : syncTrail layers t es' (.ok ()) t') (hd : layers.Pairwise fun l l' => l.id ≠ l'.id) :
    ∀ l ∈ layers, l.kind = .dynamic → ∃ m source,
      t'.get? l.id = some m ∧ source.id = l.id ∧ source.kind = .dynamic ∧
      source.revision = l.revision ∧
      lastWrite (es ++ es') l.id =
        some ⟨some source, .issue (.writeInstances m.buffer
          ((source.sprites.take m.capacity).map .ofSprite)), .ok ()⟩ ∧
      m.drawCalls = DrawCall.ofSprites (source.sprites.take m.capacity) ∧
      ∀ later, SinceRenewal limits ops es t l.id later →
        source ∈ later.flatMap Op.layers ++ layers ∧
        ((∀ l' ∈ later.flatMap Op.layers ++ layers, l'.id = l.id → l'.kind = .dynamic →
          ∃ n < UInt64.size, l'.Edited n l) → source = l) := by
  intro l hl hdyn
  have hk : t.Kept es := kept_of_attempts ha
  have hk' : t'.Kept (es ++ es') := keeps_sync layers t es es' _ t' hk hs
  obtain ⟨m, source, hm, hmdyn, settled, hid, hkind, hrev, hcalls, hw⟩ :=
    hk'.exists_source (upToDate_sync hk hd hs l hl) hdyn
  refine ⟨m, source, hm, hid, hkind, hrev, hw, hcalls, fun later hr => ?_⟩
  -- the last write is no older than the renewal, so what it wrote is one of the layers since then
  have hmem := mem_of_sinceRenewal ha hs hr hm hmdyn settled hw
  refine ⟨hmem, fun edited => ?_⟩
  obtain ⟨n, hn, edits⟩ := edited source hmem hid hkind
  exact (edits.eq_of_revision hn hrev.symm).symm

/-- A layer that is edited in its place between one `sync` and the next. -/
theorem dynamic_layers_current_of_push :
    let ops : List Op := [.sync [pushed "a"], .collect]
    let layers := [(pushed "a").push (tile "b")]
    ∃ es t es' t', Trail.Attempts (ops.map Op.trail) { limits := ⟨8, 4, 3⟩ } es t ∧
      syncTrail layers t es' (.ok ()) t' ∧
      ∀ l ∈ layers, l.kind = .dynamic → ∃ m source,
        t'.get? l.id = some m ∧ source.id = l.id ∧ source.kind = .dynamic ∧
        source.revision = l.revision ∧
        lastWrite (es ++ es') l.id =
          some ⟨some source, .issue (.writeInstances m.buffer
            ((source.sprites.take m.capacity).map .ofSprite)), .ok ()⟩ ∧
        m.drawCalls = DrawCall.ofSprites (source.sprites.take m.capacity) ∧
        ∀ later, SinceRenewal ⟨8, 4, 3⟩ ops es t l.id later →
          source ∈ later.flatMap Op.layers ++ layers ∧
          ((∀ l' ∈ later.flatMap Op.layers ++ layers, l'.id = l.id → l'.kind = .dynamic →
            ∃ n < UInt64.size, l'.Edited n l) → source = l) := by
  intro ops layers
  obtain ⟨es, t, es', t', ha, hs⟩ := exists_run numbering 0 ⟨8, 4, 3⟩ ops layers (by decide +kernel)
  exact ⟨es, t, es', t', ha, hs, dynamic_layers_current ha hs (List.pairwise_singleton _ _)⟩

/-- A first `sync` of a table, and then one of another layer under the same identity. -/
def replacement : (Except RenderError Unit × MirrorTable × Nat) × Except RenderError Unit ×
    MirrorTable × Nat :=
  let first := (sync [pushed "a"]).play numbering { limits := ⟨8, 4, 3⟩ } 0
  (first, (sync [pushed "b"]).play numbering first.2.1 first.2.2)

/-- A layer takes the place of another one, with the same identity and as many edits. Both times the
`sync` succeeds, but what is drawn for the second layer is not what it holds. -/
theorem replaced_layer_shows_old_sprites :
    replacement.1.1 = .ok () ∧ replacement.2.1 = .ok () ∧ (pushed "b").kind = .dynamic ∧
      ∃ m, replacement.2.2.1.get? (pushed "b").id = some m ∧
        m.drawCalls ≠ DrawCall.ofSprites ((pushed "b").sprites.take m.capacity) := by
  have hne : (replacement.2.2.1.get? (pushed "b").id).any (fun m => decide
      (m.drawCalls ≠ DrawCall.ofSprites ((pushed "b").sprites.take m.capacity))) = true := by
    decide +kernel
  obtain ⟨m, hm, hd⟩ := (Option.any_eq_true _ _).mp hne
  exact ⟨by decide +kernel, by decide +kernel, rfl, m, hm, of_decide_eq_true hd⟩

end MirrorTable

end LitTiles
