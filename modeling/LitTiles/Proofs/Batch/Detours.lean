import LitTiles.Proofs.Batch.Upkeep

/-!
# Branches that are never taken

To look for a mirror is to follow a key, and a key may lead astray: to no slot at all, to a slot of
another generation, or to an empty one (`Search`). Each operation has a branch for that, in which it
passes over the layer in silence. Here these branches stand open. A `Detour` says what is done in
place of what an operation does there; with the `straight` one the operations are those of the table
(`syncBy_straight`, `invalidateBy_straight`).

A table that keeps the invariant never comes to such a branch: whatever the detour is, a `sync` and
a request are the same scripts as without one, call by call and notice by notice (`sameFrom_syncBy`,
`sameFrom_invalidateBy`).
-/

namespace LitTiles

/-! ## The same scripts -/

/-- What follows a script need only be the same for its results. -/
theorem Script.bind_congr {α β : Type} {m : Script α} {f g : α → Script β}
    (hfg : ∀ h a, m.Ends h a → f a = g a) : (m >>= f) = (m >>= g) := by
  induction m with
  | done a => exact hfg [] a ⟨rfl, rfl⟩
  | call c k ih =>
    exact congrArg (Script.call c) (funext fun o => ih o fun h a he => hfg _ a ⟨o, h, rfl, he⟩)
  | note n s ih => exact congrArg (Script.note n) (ih hfg)

namespace Action

variable {σ α β : Type} {s : σ}

/-- From a state on two actions are the same script. -/
def SameFrom (s : σ) (a b : Action σ α) : Prop := a.run.run s = b.run.run s

theorem SameFrom.refl (a : Action σ α) : SameFrom s a a := rfl

/-- Actions that are the same from a state lead to the same from there, for all answers. -/
theorem SameFrom.leads {a b : Action σ α} (hab : SameFrom s a b) {h : List Exchange}
    {x : Except RenderError α} {t : σ} : a.Leads s h x t ↔ b.Leads s h x t := by
  rw [Leads, hab, Leads]

/-- Actions that are the same from every state are equal. -/
theorem eq_of_sameFrom {a b : Action σ α} (hab : ∀ s, SameFrom s a b) : a = b := funext hab

/-- Two changes of the state are the same from where they agree. -/
theorem sameFrom_modify {f g : σ → σ} (hfg : f s = g s) :
    SameFrom s (modify f : Action σ PUnit) (modify g) := by
  change Script.done ((.ok ⟨⟩ : Except RenderError PUnit), f s) = .done (.ok ⟨⟩, g s)
  rw [hfg]

/-- A change of the state that changes nothing there is the same as doing nothing. -/
theorem sameFrom_pure {g : σ → σ} (hg : g s = s) :
    SameFrom s (pure ⟨⟩ : Action σ PUnit) (modify g) := by
  change Script.done ((.ok ⟨⟩ : Except RenderError PUnit), s) = .done (.ok ⟨⟩, g s)
  rw [hg]

/-- A state that is read is known. -/
theorem SameFrom.get_bind {a : Action σ α} {f : σ → Action σ α} (hf : SameFrom s a (f s)) :
    SameFrom s a ((get : Action σ σ) >>= f) := hf

/-- The rule of sequencing. What follows is compared only in states that the first part can lead to,
which is how the invariant comes in. -/
theorem SameFrom.bind {a b : Action σ α} {f g : α → Action σ β} (hab : SameFrom s a b)
    (hfg : ∀ v h t, b.Leads s h (.ok v) t → SameFrom t (f v) (g v)) :
    SameFrom s (a >>= f) (b >>= g) := by
  have first : (a >>= f).run.run s =
      (a.run.run s >>= fun p => (ExceptT.bindCont f p.1 : StateT σ Script _).run p.2) := rfl
  have second : (b >>= g).run.run s =
      (b.run.run s >>= fun p => (ExceptT.bindCont g p.1 : StateT σ Script _).run p.2) := rfl
  rw [SameFrom, first, second, hab]
  refine Script.bind_congr fun h p hp => ?_
  obtain ⟨e | v, t⟩ := p
  · rfl
  · exact hfg v h t hp

end Action

open LitTiles.Action (SameFrom)

namespace MirrorTable

/-! ## Looking for a mirror -/

/-- What comes of looking for the mirror of a layer. -/
inductive Search where
  /-- The layer has no key. -/
  | unknown
  /-- The key leads to no slot. -/
  | missing
  /-- The slot is of another generation. -/
  | stale
  /-- The slot is empty. -/
  | vacant
  /-- The slot holds a mirror. -/
  | found (index : Nat) (m : Mirror)

/-- The key leads astray. -/
def Search.Astray : Search → Prop
  | missing | stale | vacant => True
  | _ => False

/-- Looks for the mirror of a layer. -/
def search (t : MirrorTable) (id : LayerId) : Search :=
  match t.key? id with
  | none => .unknown
  | some k =>
    match t.slots[k.index]? with
    | none => .missing
    | some s =>
      if s.generation ≠ k.generation then .stale
      else match s.mirror with
        | none => .vacant
        | some m => .found k.index m

variable {t t' : MirrorTable} {i : Nat} {m : Mirror} {l : Layer} {id : LayerId}
  {before : List Entry}

/-- A mirror is found if the search finds it, and no difference is made between the ways to miss
it. -/
theorem find?_eq_search (t : MirrorTable) (id : LayerId) :
    t.find? id = match t.search id with
      | .found i m => some (i, m)
      | _ => none := by
  simp only [find?, search, slot?]
  cases t.key? id with
  | none => rfl
  | some k =>
    simp only [Option.bind_some]
    cases t.slots[k.index]? with
    | none => rfl
    | some s =>
      by_cases hg : s.generation = k.generation
      · cases hm : s.mirror <;> simp [Option.filter, hg, hm]
      · simp [Option.filter, hg]

/-- In a sound table a layer has no key, or its mirror is found. -/
theorem Sound.search_eq (hs : t.Sound) (id : LayerId) :
    t.search id = match t.find? id with
      | some (i, m) => .found i m
      | none => .unknown := by
  cases hk : t.key? id with
  | none => simp [search, find?, hk]
  | some k =>
    obtain ⟨s, m, hslot, hg, hm, -⟩ := (hs.key_iff id k).mp hk
    have hsearch : t.search id = .found k.index m := by simp [search, hk, hslot, hg, hm]
    rw [find?_eq_search, hsearch]

/-- In a sound table no search goes astray: a key that is found leads to the mirror of its layer. -/
theorem Sound.not_astray (hs : t.Sound) (id : LayerId) : ¬ (t.search id).Astray := by
  rw [hs.search_eq]
  cases t.find? id <;> exact fun ha => ha

/-! ## Operations with their branches open -/

/-- What is done, where a key leads astray, in place of what the table does there. -/
def Detour := Action MirrorTable Unit → Action MirrorTable Unit

/-- No detour. -/
def Detour.straight : Detour := fun own => own

/-- Looks for the mirror of a layer and goes on with it. -/
def follow (id : LayerId) (unknown astray : Action MirrorTable Unit)
    (found : Nat → Mirror → Action MirrorTable Unit) : Action MirrorTable Unit := do
  match (← get).search id with
  | .unknown => unknown
  | .found i m => found i m
  | _ => astray

/-- Drops the mirror of a layer. It is called for layers with a mirror only. -/
def removeBy (detour : Detour) (id : LayerId) : Action MirrorTable Unit :=
  let astray := detour (modify (·.eraseKey id))
  follow id astray astray fun i m => do
    modify (·.eraseKey id)
    Action.freeBuffer m.buffer
    modify (·.vacate i)

/-- Drops the mirror of a layer whose upload policy is another one by now. -/
def dropOtherBy (detour : Detour) (source : Layer) : Action MirrorTable Unit :=
  follow source.id (pure ()) (detour (pure ())) fun _ m => do
    if m.kind ≠ source.kind then
      Action.say .debug .mirrorTable ("layer " ++ source.id.describe ++ " changed kind to " ++
        source.kind.describe)
      removeBy detour source.id

/-- Makes a mirror for a layer that has none. -/
def ensureBy (detour : Detour) (source : Layer) : Action MirrorTable Unit :=
  follow source.id (create source) (detour (create source)) fun _ _ => pure ()

/-- Marks the mirror of a layer, which is there by now. -/
def touchBy (detour : Detour) (source : Layer) : Action MirrorTable Unit :=
  let astray := detour (pure ())
  follow source.id astray astray fun i m => modify (·.refresh i m source)

/-- Uploads a layer if its mirror, which is there by now, is stale. -/
def updateBy (detour : Detour) (source : Layer) : Action MirrorTable Unit :=
  let astray := detour (pure ())
  follow source.id astray astray fun i m => do
    if m.isStale source then onMirror i m (Mirror.upload source)

/-- Brings the mirror of one layer in line with it. -/
def syncLayerBy (detour : Detour) (source : Layer) : Action MirrorTable Unit := do
  dropOtherBy detour source
  ensureBy detour source
  touchBy detour source
  updateBy detour source

/-- Brings the table in line with the layers of a scene, in order. -/
def syncBy (detour : Detour) (layers : List Layer) : Action MirrorTable Unit :=
  layers.forM (syncLayerBy detour)

/-- Forces the next `sync` to upload a layer again. -/
def invalidateBy (detour : Detour) (id : LayerId) : Action MirrorTable Unit :=
  follow id (pure ()) (detour (pure ())) fun i m =>
    modify (·.putMirror i { m with needsUpdate := true })

/-- Following a key is going by the result of the search. -/
theorem sameFrom_follow {unknown astray : Action MirrorTable Unit}
    {found : Nat → Mirror → Action MirrorTable Unit} :
    SameFrom t (follow id unknown astray found) (match t.search id with
      | .unknown => unknown
      | .found i m => found i m
      | _ => astray) := rfl

/-! ### Without a detour -/

/-- Where astray is as good as unknown, to follow a key is to find a mirror or not. -/
theorem sameFrom_follow_self {unknown a : Action MirrorTable Unit}
    {found : Nat → Mirror → Action MirrorTable Unit}
    (hn : t.find? id = none → SameFrom t unknown a)
    (hf : ∀ i m, t.find? id = some (i, m) → SameFrom t (found i m) a) :
    SameFrom t (follow id unknown unknown found) a := by
  rw [find?_eq_search] at hn hf
  refine sameFrom_follow.trans ?_
  cases hsearch : t.search id with
  | found i m =>
    rw [hsearch] at hf
    exact hf i m rfl
  | _ =>
    rw [hsearch] at hn
    exact hn rfl

/-- Each operation with the straight detour is the operation of the table. Removing erases the key
also where it leads astray. -/
theorem removeBy_straight (id : LayerId) : removeBy .straight id = remove id := by
  refine Action.eq_of_sameFrom fun t => sameFrom_follow_self (fun hn => .get_bind ?_) fun i m hf =>
    .get_bind ?_
  · simp only [hn]
    rfl
  · simp only [hf]
    rfl

theorem dropOtherBy_straight (l : Layer) : dropOtherBy .straight l = dropOther l := by
  refine Action.eq_of_sameFrom fun t => sameFrom_follow_self (fun hn => .get_bind ?_) fun i m hf =>
    .get_bind ?_
  · simp only [get?_eq_map_find?, hn]
    rfl
  · simp only [get?_eq_map_find?, hf, removeBy_straight]
    rfl

theorem ensureBy_straight (l : Layer) : ensureBy .straight l = ensure l := by
  refine Action.eq_of_sameFrom fun t => sameFrom_follow_self (fun hn => .get_bind ?_) fun i m hf =>
    .get_bind ?_
  · simp only [get?_eq_map_find?, hn]
    rfl
  · simp only [get?_eq_map_find?, hf]
    rfl

theorem touchBy_straight (l : Layer) : touchBy .straight l = touch l := by
  refine Action.eq_of_sameFrom fun t =>
    sameFrom_follow_self (fun hn => Action.sameFrom_pure ?_) fun i m hf =>
    Action.sameFrom_modify ?_
  · rw [hn]
  · rw [hf]

theorem updateBy_straight (l : Layer) : updateBy .straight l = update l := by
  refine Action.eq_of_sameFrom fun t => sameFrom_follow_self (fun hn => .get_bind ?_) fun i m hf =>
    .get_bind ?_
  · simp only [hn]
    rfl
  · simp only [hf]
    rfl

/-- The operations that a `sync` is made of are all straight, and with them the loop over the
layers. -/
theorem syncBy_straight (layers : List Layer) : syncBy .straight layers = sync layers := by
  have visit : syncLayerBy .straight = syncLayer := by
    funext l
    rw [syncLayerBy, dropOtherBy_straight, ensureBy_straight, touchBy_straight,
      updateBy_straight, syncLayer]
  rw [syncBy, visit, sync]

/-- A request with the straight detour changes what the request of the table changes. -/
theorem invalidateBy_straight (id : LayerId) :
    invalidateBy .straight id = modify (·.invalidate id) := by
  refine Action.eq_of_sameFrom fun t =>
    sameFrom_follow_self (fun hn => Action.sameFrom_pure ?_) fun i m hf =>
    Action.sameFrom_modify ?_
  · rw [invalidate, hn]
  · rw [invalidate, hf]

/-! ### With any detour -/

/-- In a sound table no key leads astray. -/
theorem Sound.sameFrom_follow (hs : t.Sound) {unknown astray a : Action MirrorTable Unit}
    {found : Nat → Mirror → Action MirrorTable Unit} (hn : t.find? id = none → SameFrom t unknown a)
    (hf : ∀ i m, t.find? id = some (i, m) → SameFrom t (found i m) a) :
    SameFrom t (follow id unknown astray found) a := by
  refine MirrorTable.sameFrom_follow.trans ?_
  rw [hs.search_eq]
  cases h : t.find? id with
  | none => exact hn h
  | some p => exact hf p.1 p.2 h

/-- If it is known that there is a mirror there is one way to go on. -/
theorem Sound.sameFrom_follow_found (hs : t.Sound) (hg : (t.get? id).isSome)
    {unknown astray a : Action MirrorTable Unit} {found : Nat → Mirror → Action MirrorTable Unit}
    (hf : ∀ i m, t.find? id = some (i, m) → SameFrom t (found i m) a) :
    SameFrom t (follow id unknown astray found) a := by
  refine hs.sameFrom_follow (fun hn => ?_) hf
  rw [get?_eq_map_find?, hn] at hg
  cases hg

variable (detour : Detour)

/-- A mirror that is there is removed in the same way with any detour. -/
theorem sameFrom_removeBy (hs : t.Sound) (hg : (t.get? id).isSome) :
    SameFrom t (removeBy detour id) (remove id) := by
  refine hs.sameFrom_follow_found hg fun i m hf => .get_bind ?_
  simp only [hf]
  rfl

/-- A mirror of another kind is dropped in the same way. If there is none, no branch is taken at
all. -/
theorem sameFrom_dropOtherBy (hs : t.Sound) (l : Layer) : SameFrom t (dropOtherBy detour l)
    (dropOther l) := by
  refine hs.sameFrom_follow (fun hn => .get_bind ?_) fun i m hf => .get_bind ?_
  · simp only [get?_eq_map_find?, hn]
    rfl
  · have hg : t.get? l.id = some m := by rw [get?_eq_map_find?, hf, Option.map_some]
    simp only [hg]
    split
    · refine SameFrom.bind (.refl _) fun _ h r hr => ?_
      obtain ⟨-, -, rfl⟩ := Action.leads_say.mp hr
      exact sameFrom_removeBy detour hs (Option.isSome_of_eq_some hg)
    · rfl

/-- A mirror is made sure of in the same way: the key is either not there, or it leads to a
mirror. -/
theorem sameFrom_ensureBy (hs : t.Sound) (l : Layer) :
    SameFrom t (ensureBy detour l) (ensure l) := by
  refine hs.sameFrom_follow (fun hn => .get_bind ?_) fun i m hf => .get_bind ?_
  · simp only [get?_eq_map_find?, hn]
    rfl
  · simp only [get?_eq_map_find?, hf]
    rfl

/-- Touching needs a mirror. At this point of a visit there always is one. -/
theorem sameFrom_touchBy (hs : t.Sound) (hg : (t.get? l.id).isSome) :
    SameFrom t (touchBy detour l) (touch l) := by
  refine hs.sameFrom_follow_found hg fun i m hf => Action.sameFrom_modify ?_
  rw [hf]

/-- So does updating. -/
theorem sameFrom_updateBy (hs : t.Sound) (hg : (t.get? l.id).isSome) :
    SameFrom t (updateBy detour l) (update l) := by
  refine hs.sameFrom_follow_found hg fun i m hf => .get_bind ?_
  simp only [hf]
  rfl

/-- A visit takes no detour: as soon as there has to be a mirror there is one. -/
theorem sameFrom_syncLayerBy (hk : t.Kept before) (l : Layer) :
    SameFrom t (syncLayerBy detour l) (syncLayer l) := by
  refine (sameFrom_dropOtherBy detour hk.sound l).bind fun _ h₁ r₁ hd => ?_
  obtain ⟨-, hk₁, hf₁, -⟩ := kept_dropOther hk hd
  refine (sameFrom_ensureBy detour hk₁.sound l).bind fun _ h₂ r₂ he => ?_
  obtain ⟨hk₂, hf₂, -, there⟩ := kept_ensure hk₁ hf₁ he
  have there := there rfl
  refine (sameFrom_touchBy detour hk₂.sound there).bind fun _ h₃ r₃ ht => ?_
  obtain ⟨-, -, hk₃, -, -, still⟩ := kept_touch hk₂ hf₂ ht
  exact sameFrom_updateBy detour hk₃.sound (still there)

/-- So the table never passes over a layer in silence. -/
theorem sameFrom_syncBy (hk : t.Kept before) (layers : List Layer) :
    SameFrom t (syncBy detour layers) (sync layers) := by
  induction layers generalizing t before with
  | nil => rfl
  | cons l layers ih =>
    exact (sameFrom_syncLayerBy detour hk l).bind fun _ h r hl => ih (kept_syncLayer hk hl).1

/-- A request for a layer without a mirror does nothing, by either. -/
theorem sameFrom_invalidateBy (hs : t.Sound) (id : LayerId) :
    SameFrom t (invalidateBy detour id) (modify (·.invalidate id)) := by
  refine hs.sameFrom_follow (fun hn => Action.sameFrom_pure ?_) fun i m hf =>
    Action.sameFrom_modify ?_
  · rw [invalidate, hn]
  · rw [invalidate, hf]

end MirrorTable

end LitTiles
