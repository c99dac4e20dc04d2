import LitTiles.Proofs.Batch.Repair

/-!
# What is done with a mirror

A visit of a layer by a `sync` makes room for its mirror, if it has none of its upload policy, and
writes the mirror if it is stale. This is all that it calls for (`leads_syncLayer`); so it calls for
nothing if the layer is up to date. Requests and collections change a mirror in its place
(`get?_of_invalidate`, `get?_of_collectSlots`).
-/

namespace LitTiles.MirrorTable

variable {t t' : MirrorTable} {l : Layer} {m m' : Mirror} {id : LayerId} {before : List Entry}
  {h : List Exchange} {x : Except RenderError Unit}

/-! ## A visit -/

/-- No write to a buffer is among some calls. -/
def Spared (b : BufferId) (h : List Exchange) : Prop :=
  ∀ instances a, (⟨.issue (.writeInstances b instances), a⟩ : Exchange) ∉ h

theorem mirrorFor_of_get? (hg : t.get? l.id = some m) (hkind : m.kind = l.kind) (b : BufferId) :
    t.mirrorFor l b = m ∧ t.roomCalls l b = [] := by
  simp only [mirrorFor, roomCalls, hg, if_pos hkind, and_self]

theorem mirrorFor_of_fresh (hn : ∀ m, t.get? l.id = some m → m.kind ≠ l.kind) (b : BufferId) :
    t.mirrorFor l b = t.newMirror l b := by
  cases hg : t.get? l.id with
  | none => simp only [mirrorFor, hg]
  | some m => simp only [mirrorFor, hg, if_neg (hn m hg)]

theorem spared_roomCalls (t : MirrorTable) (l : Layer) (b b' : BufferId) :
    Spared b' (t.roomCalls l b) := by
  intro instances a hmem
  cases hg : t.get? l.id with
  | none => simp [roomCalls, hg, Exchange.made] at hmem
  | some m =>
    simp only [roomCalls, hg] at hmem
    split_ifs at hmem
    · cases hmem
    · simp [Exchange.freed, Exchange.made] at hmem

/-- If no buffer is made there is no mirror, not even one that was there before. -/
theorem leads_room_error {r : MirrorTable} {h₁ h₂ : List Exchange} {e : RenderError}
    (hk : t.Kept before) (hd : (dropOther l).Leads t h₁ (.ok ()) r)
    (he : (ensure l).Leads r h₂ (.error e) t') :
    (∀ m, t.get? l.id = some m → m.kind ≠ l.kind) ∧ t'.get? l.id = none ∧ ∀ b,
    Spared b (h₁ ++ h₂) := by
  obtain ⟨-, hk₁, -⟩ := kept_dropOther hk hd
  rcases leads_ensure hk₁ he with ⟨-, -, hx, -⟩ | ⟨rfl, hn, e, -, rfl⟩ | ⟨b, -, -, hx, -⟩
  · cases hx
  · rcases leads_dropOther hk hd with ⟨rfl, rfl, -⟩ | ⟨m, hg, hkind, rfl, -⟩
    · refine ⟨fun m hg => ?_, hn, fun b instances a hmem => by simp at hmem⟩
      rw [hn] at hg
      cases hg
    · refine ⟨fun m' hg' => ?_, hn, fun b instances a hmem => by simp [Exchange.freed] at hmem⟩
      obtain rfl := Option.some.inj (hg.symm.trans hg')
      exact hkind
  · cases hx

/-- A mirror after the answer to its write. -/
def answered (w : Mirror) (l : Layer) : Except RenderError Unit → Mirror
  | .ok () => w.written l
  | .error _ => w

/-- **What a visit does.** It may fail to make room; then the layer has no mirror. Otherwise the
mirror is written if it is stale, and not if it is not. -/
theorem leads_syncLayer (hk : t.Kept before) (hl : (syncLayer l).Leads t h x t') :
    ((∀ m, t.get? l.id = some m → m.kind ≠ l.kind) ∧ t'.get? l.id = none ∧ ∀ b, Spared b h) ∨
    ∃ b w, (t.mirrorFor l b).kind = l.kind ∧ w.Resembles (t.mirrorFor l b) ∧
      (((t.mirrorFor l b).isStale l = false ∧ h = t.roomCalls l b ∧ x = .ok () ∧
        t'.get? l.id = some w) ∨
        ((t.mirrorFor l b).isStale l = true ∧ t'.get? l.id = some (answered w l x) ∧
          h = t.roomCalls l b ++ [⟨.issue (.writeInstances (t.mirrorFor l b).buffer
            (((t.mirrorFor l b).kept l).map .ofSprite)), x⟩])) := by
  cases steps_of_leads hk.sound hl with
  | stopped hd he => exact .inl (leads_room_error hk hd he)
  | @arrived h₁ h₂ h₃ x r₁ r₂ r₃ t' hd he ht hu =>
    right
    obtain ⟨-, hk₁, hf₁, -⟩ := kept_dropOther hk hd
    obtain ⟨hk₂, hf₂, -⟩ := kept_ensure hk₁ hf₁ he
    obtain ⟨-, -, hk₃, -⟩ := kept_touch hk₂ hf₂ ht
    obtain ⟨b, hroom, hg⟩ := leads_room_ok hk hd he
    obtain ⟨-, hg'⟩ := get?_of_touch hk₂ hg ht
    -- touching raises the lifetime only, so the mirror is as stale as before
    have aged := resembles_aged (t.mirrorFor l b) l.z r₂.limits.lifetime
    have stale := aged.isStale l
    rw [hroom]
    rcases leads_update hk₃ hg' hu with ⟨hs, rfl, rfl, rfl⟩ | ⟨e, w, hs, rfl, rfl, hw, hg''⟩ |
      ⟨hs, rfl, rfl, w, hw, hg''⟩
    · rw [stale] at hs
      exact ⟨b, _, hf₂ _ hg, aged, .inl ⟨hs, List.append_nil _, rfl, hg'⟩⟩
    · rw [stale] at hs
      exact ⟨b, w, hf₂ _ hg, hw.trans aged, .inr ⟨hs, hg'', rfl⟩⟩
    · rw [stale] at hs
      exact ⟨b, w, hf₂ _ hg, hw.trans aged, .inr ⟨hs, hg'', rfl⟩⟩

theorem kind_of_syncLayer (hk : t.Kept before) (hl : (syncLayer l).Leads t h x t')
    (hg : t'.get? l.id = some m) : m.kind = l.kind := by
  rcases leads_syncLayer hk hl with ⟨-, hn, -⟩ | ⟨b, w, hkind, hw, ⟨-, -, -, hg'⟩ | ⟨-, hg', -⟩⟩
  · rw [hn] at hg
    cases hg
  · obtain rfl := Option.some.inj (hg'.symm.trans hg)
    exact hw.kind.trans hkind
  · obtain rfl := Option.some.inj (hg'.symm.trans hg)
    cases x <;> exact hw.kind.trans hkind

/-! ## Visits of up-to-date layers -/

/-- A layer that is up to date is left alone. -/
theorem leads_syncLayer_of_upToDate (hk : t.Kept before) (hu : t.UpToDate l)
    (hl : (syncLayer l).Leads t h x t') : h = [] ∧ x = .ok () ∧ t'.UpToDate l := by
  obtain ⟨m, hg, hkind, hs⟩ := hu
  rcases leads_syncLayer hk hl with ⟨hn, -⟩ | ⟨b, w, -, hw, hcase⟩
  · exact absurd hkind (hn m hg)
  obtain ⟨hm, hroom⟩ := mirrorFor_of_get? hg hkind b
  rw [hm, hroom] at hcase
  rw [hm] at hw
  rcases hcase with ⟨-, rfl, rfl, hg'⟩ | ⟨hstale, -⟩
  · exact ⟨rfl, rfl, w, hg', hw.kind.trans hkind, (hw.isStale l).trans hs⟩
  · rw [hs] at hstale
    cases hstale

/-- After a `sync` of layers with distinct identities there is nothing to do for them. -/
theorem leads_sync_again {layers : List Layer} (hk : t.Kept before)
    (hd : layers.Pairwise fun l l' => l.id ≠ l'.id) (hu : ∀ l ∈ layers, t.UpToDate l)
    (hl : (sync layers).Leads t h x t') : h = [] ∧ x = .ok () := by
  induction layers generalizing t before h with
  | nil =>
    obtain ⟨rfl, rfl, -⟩ := Action.leads_forM_nil.mp hl
    exact ⟨rfl, rfl⟩
  | cons l layers ih =>
    obtain ⟨hne, hd⟩ := List.pairwise_cons.mp hd
    obtain ⟨hfirst, hothers⟩ := List.forall_mem_cons.mp hu
    rcases Action.leads_bind.mp hl with ⟨e, rfl, hvisit⟩ | ⟨_, h₁, h₂, r, rfl, hvisit, hrest⟩
    · obtain ⟨-, hx, -⟩ := leads_syncLayer_of_upToDate hk hfirst hvisit
      cases hx
    obtain ⟨rfl, -, -⟩ := leads_syncLayer_of_upToDate hk hfirst hvisit
    obtain ⟨hk', hsame, -⟩ := kept_syncLayer hk hvisit
    have still : ∀ l' ∈ layers, r.UpToDate l' := fun l' hl' =>
      (hothers l' hl').of_sameBut hsame (hne l' hl').symm
    exact ih hk' hd still hrest

/-! ## Requests and collections -/

theorem get?_of_invalidate {id' : LayerId} (hk : t.Kept before)
    (hg : (t.invalidate id').get? id = some m') :
    ∃ m, t.get? id = some m ∧ m'.Alike m ∧ m'.needsUpdate = if id' = id then true
    else m.needsUpdate := by
  have hs' := (hk.invalidate id').sound
  unfold invalidate at hg hs'
  cases hf : t.find? id' with
  | none =>
    simp only [hf] at hg
    -- a layer without a mirror is asked for; if one is found for `id`, it is another layer's
    have other : id' ≠ id := by
      rintro rfl
      rw [get?_eq_map_find?, hf] at hg
      cases hg
    exact ⟨m', hg, .refl m', (if_neg other).symm⟩
  | some p =>
    obtain ⟨i, m⟩ := p
    obtain ⟨hm, hid⟩ := hk.sound.find?_eq_some_iff.mp hf
    simp only [hf] at hg hs'
    obtain ⟨j, hj, hid'⟩ := hs'.get?_eq_some_iff.mp hg
    rw [mirrorAt_putMirror hm] at hj
    -- only the mirror in its slot is marked, and no two slots have mirrors of one layer
    by_cases hij : i = j
    · rw [if_pos hij] at hj
      obtain rfl := Option.some.inj hj
      have same : id' = id := hid.symm.trans hid'
      refine ⟨m, hk.sound.get?_eq_some_iff.mpr ⟨i, hm, hid.trans same⟩, ?_, (if_pos same).symm⟩
      exact ⟨rfl, rfl, rfl, rfl, rfl, rfl, fun _ => rfl⟩
    · rw [if_neg hij] at hj
      have other : id' ≠ id := by
        rintro rfl
        have found := hk.sound.find?_eq_some_iff.mpr ⟨hj, hid'⟩
        rw [hf] at found
        exact hij (Prod.mk.inj (Option.some.inj found)).1
      exact ⟨m', hk.sound.get?_eq_some_iff.mpr ⟨j, hj, hid'⟩, .refl m', (if_neg other).symm⟩

/-- A mirror that a collection leaves is at most older. -/
theorem get?_of_collectSlot {i : Nat} (hk : t.Kept before) (hl : (collectSlot i).Leads t h x t')
    (hg : t'.get? id = some m') : ∃ m, t.get? id = some m ∧ m'.Resembles m := by
  have hs := (keeps_collectSlot i t before _ x t' hk ⟨h, rfl, hl⟩).sound
  obtain ⟨-, -, hothers, haged⟩ := leads_collectSlot hl
  obtain ⟨j, hj, hid⟩ := hs.get?_eq_some_iff.mp hg
  by_cases hij : j = i
  · subst hij
    obtain ⟨m, hm, hr⟩ := haged m' hj
    exact ⟨m, hk.sound.get?_eq_some_iff.mpr ⟨j, hm, hr.id.symm.trans hid⟩, hr⟩
  · rw [mirrorAt, hothers j hij] at hj
    exact ⟨m', hk.sound.get?_eq_some_iff.mpr ⟨j, hj, hid⟩, .refl m'⟩

theorem get?_of_collectSlots {is : List Nat} (hk : t.Kept before)
    (hl : (is.forM collectSlot).Leads t h x t') (hg : t'.get? id = some m') :
    ∃ m, t.get? id = some m ∧ m'.Resembles m := by
  induction is generalizing t before h with
  | nil =>
    obtain ⟨-, -, rfl⟩ := Action.leads_forM_nil.mp hl
    exact ⟨m', hg, .refl m'⟩
  | cons i is ih =>
    rcases Action.leads_bind.mp hl with ⟨e, rfl, hslot⟩ | ⟨_, h₁, h₂, r, rfl, hslot, hrest⟩
    · exact get?_of_collectSlot hk hslot hg
    · obtain ⟨m, hm, hr⟩ := ih (keeps_collectSlot i t before _ _ r hk ⟨h₁, rfl, hslot⟩) hrest
      obtain ⟨m₀, hm₀, hr₀⟩ := get?_of_collectSlot hk hslot hm
      exact ⟨m₀, hm₀, hr.trans hr₀⟩

end LitTiles.MirrorTable
