import LitTiles.Proofs.Batch.Deeds
import LitTiles.Proofs.Batch.Visiting
import LitTiles.Record.Recorder

/-!
# When mirrors are written

A mirror comes with a request to be written, and `invalidate` makes another one, of which a second
`invalidate` makes no more. A request is pending until a visit of the layer succeeds (`requested`).
The upload policy says that a visit writes a static mirror if and only if a request is pending, and
a dynamic one also if the revision of the layer is not that of the last visit that succeeded
(`due`). Neither edits of a static layer nor the frames in which it is absent make a difference.

`Expects` ties a mirror to its past: the flag it carries is `requested`, and its revision is
`lastRevision`. Each deed keeps it so (`policy_first`, `policy_step`), and hence a whole life does
(`policy_life`).
-/

namespace LitTiles.MirrorTable

/-! ## What is pending -/

/-- Whether a request to upload a layer is pending after a deed: one that somebody asks for is until
a visit of the layer succeeds. -/
def Deed.request (id : LayerId) (pending : Bool) : Deed → Bool
  | asked id' => if id' = id then true else pending
  | visited l _ (.ok ()) => if l.id = id then false else pending
  | _ => pending

/-- The revision of a layer at its last visit that succeeded. -/
def Deed.revision (id : LayerId) (last : Option UInt64) : Deed → Option UInt64
  | visited l _ (.ok ()) => if l.id = id then some l.revision else last
  | _ => last

/-- Whether a request is pending after the past of a mirror. It comes with one. -/
def requested (id : LayerId) (past : List Moment) : Bool :=
  past.foldl (fun b μ => μ.deed.request id b) true

/-- The revision at the last visit that succeeded in the past of a mirror. -/
def lastRevision (id : LayerId) (past : List Moment) : Option UInt64 :=
  past.foldl (fun r μ => μ.deed.revision id r) none

/-- Whether a visit of a layer is to write its mirror. -/
def due (past : List Moment) (l : Layer) : Bool :=
  match l.kind with
  | .static => requested l.id past
  | .dynamic => requested l.id past || lastRevision l.id past != some l.revision

variable {t t' : MirrorTable} {l : Layer} {m m' : Mirror} {b : BufferId} {id : LayerId}
  {before : List Entry} {h : List Exchange} {x : Except RenderError Unit} {past ms : List Moment}
    {μ : Moment} {kind : LayerKind}

theorem requested_concat (id : LayerId) (past : List Moment) (μ : Moment) :
    requested id (past ++ [μ]) = μ.deed.request id (requested id past) := by
  rw [requested, List.foldl_append]
  rfl

theorem lastRevision_concat (id : LayerId) (past : List Moment) (μ : Moment) :
    lastRevision id (past ++ [μ]) = μ.deed.revision id (lastRevision id past) := by
  rw [lastRevision, List.foldl_append]
  rfl

/-! ## Other deeds than visits -/

/-- A deed is no visit of a layer. -/
def Deed.PassesBy (id : LayerId) (d : Deed) : Prop := ∀ l h x, d = .visited l h x → l.id ≠ id

theorem Deed.exists_of_not_passesBy {d : Deed} (hn : ¬ d.PassesBy id) :
    ∃ l h x, d = .visited l h x ∧ l.id = id := by
  simpa only [PassesBy, not_forall, not_not, exists_prop] using hn

/-- Other deeds than visits leave a mirror as it is, but for its age and for what somebody asks
for. -/
theorem Deed.Leads.get?_of_passesBy {d : Deed} (hd : d.Leads t t') (hk : t.Kept before)
    (hpass : d.PassesBy id) (hg : t'.get? id = some m') :
    ∃ m, t.get? id = some m ∧ m'.Alike m ∧ m'.needsUpdate = d.request id m.needsUpdate := by
  cases d with
  | asked id' =>
    obtain rfl : t' = t.invalidate id' := hd
    exact get?_of_invalidate hk hg
  | visited l h x =>
    have other : l.id ≠ id := hpass l h x rfl
    rw [(kept_syncLayer hk hd).2.1 id other.symm] at hg
    refine ⟨m', hg, .refl m', ?_⟩
    cases x with
    | error e => rfl
    | ok v => exact (if_neg other).symm
  | collected h =>
    obtain ⟨m, hm, hr⟩ := get?_of_collectSlots hk (Action.leads_get_bind.mp hd) hg
    exact ⟨m, hm, hr.toAlike, hr.sameRequest⟩

theorem Deed.PassesBy.revision {d : Deed} (hpass : d.PassesBy id) (r : Option UInt64) :
    d.revision id r = r := by
  cases d with
  | visited l h x =>
    cases x with
    | error e => rfl
    | ok v => exact if_neg (hpass l h _ rfl)
  | _ => rfl

/-- If the backend hands out new buffers only, they do not write to the mirror either. -/
theorem Deed.Leads.spared_of_passesBy {d : Deed} (hd : d.Leads t t') (hk : t.Kept before)
    (hpass : d.PassesBy id) (hg : t'.get? id = some m')
    (hf : Fresh (exchanges (before ++ entries d.source d.calls))) :
    Spared m'.buffer d.calls := by
  cases d with
  | asked id' => exact fun instances a hmem => by cases hmem
  | collected h =>
    obtain ⟨rfl, -⟩ := leads_collect hd
    intro instances a hmem
    obtain ⟨b, -, he⟩ := List.mem_map.mp hmem
    cases he
  | visited l h x =>
    have hk' := hd.kept hk
    rcases leads_syncLayer hk hd with ⟨-, -, hspared⟩ | ⟨b, w, -, hw, hcase⟩
    · exact hspared _
    have room := spared_roomCalls t l b m'.buffer
    rcases hcase with ⟨-, rfl, -, -⟩ | ⟨-, hg', hcalls⟩
    · exact room
    intro instances a hmem
    obtain hmem : _ ∈ h := hmem
    rw [hcalls] at hmem
    rcases List.mem_append.mp hmem with hmem | hmem
    · exact room instances a hmem
    · -- two mirrors would share the buffer
      have same : m'.buffer = (t.mirrorFor l b).buffer := by
        simp only [List.mem_singleton, Exchange.mk.injEq, Call.issue.injEq,
          Command.writeInstances.injEq] at hmem
        exact hmem.1.1
      obtain ⟨i, hi, hid⟩ := hk'.sound.get?_eq_some_iff.mp hg
      obtain ⟨j, hj, hid'⟩ := hk'.sound.get?_eq_some_iff.mp hg'
      have buffer : (answered w l x).buffer = (t.mirrorFor l b).buffer := by
        cases x <;> exact hw.buffer
      have ho := hk'.owned m'.buffer (hf.freshFor _)
      obtain rfl := ho.apart i j _ _ hi hj rfl (buffer.trans same.symm)
      obtain rfl := Option.some.inj (hi.symm.trans hj)
      exact hpass l h x rfl (hid'.symm.trans hid)

/-! ## The life of a mirror -/

/-- A mirror has the request and the revision that come of its past. -/
structure Expects (past : List Moment) (id : LayerId) (m : Mirror) : Prop where
  /-- An upload is due whatever the revision if a request is pending. -/
  request : m.needsUpdate = requested id past
  /-- The revision of a dynamic mirror is that of the last visit. -/
  revision : m.kind = .dynamic → m.uploaded = lastRevision id past

theorem Expects.newMirror (t : MirrorTable) (l : Layer) (b : BufferId) :
    Expects [] l.id (t.newMirror l b) :=
  ⟨rfl, fun _ => rfl⟩

theorem Expects.resembles (he : Expects past id m) (hr : m'.Resembles m) : Expects past id m' :=
  ⟨hr.sameRequest.trans he.request, fun hd =>
    hr.uploaded.trans (he.revision (hr.kind.symm.trans hd))⟩

/-- So it is stale when a visit is due. -/
theorem Expects.isStale (he : Expects past l.id m) (hkind : m.kind = l.kind) :
    m.isStale l = due past l := by
  cases hl : l.kind with
  | static => simp [Mirror.isStale, due, hkind, hl, he.request]
  | dynamic => simp [Mirror.isStale, due, hkind, hl, he.request, he.revision (hkind.trans hl)]

theorem Expects.passedBy (he : Expects past id m) (hpass : μ.deed.PassesBy id) (ha : m'.Alike m)
    (hr : m'.needsUpdate = μ.deed.request id m.needsUpdate) : Expects (past ++ [μ]) id m' where
  request := by rw [requested_concat, hr, he.request]
  revision hd := by
    rw [lastRevision_concat, hpass.revision, ha.uploaded]
    exact he.revision (ha.kind.symm.trans hd)

/-- A visit that fails changes nothing of that: what was pending is so still. -/
theorem Expects.failed (he : Expects past l.id m) (h : List Exchange) (e : RenderError)
    (t' : MirrorTable) :
    Expects (past ++ [⟨.visited l h (.error e), t'⟩]) l.id m where
  request := by
    rw [requested_concat]
    exact he.request
  revision hd := by
    rw [lastRevision_concat]
    exact he.revision hd

theorem requested_visited (past : List Moment) (l : Layer) (h : List Exchange) (t' : MirrorTable) :
    requested l.id (past ++ [⟨.visited l h (.ok ()), t'⟩]) = false ∧
    lastRevision l.id (past ++ [⟨.visited l h (.ok ()), t'⟩]) = some l.revision := by
  rw [requested_concat, lastRevision_concat]
  exact ⟨if_pos rfl, if_pos rfl⟩

/-- After a write nothing is pending. -/
theorem Expects.written (past : List Moment) (w : Mirror) (l : Layer) (h : List Exchange)
    (t' : MirrorTable) :
    Expects (past ++ [⟨.visited l h (.ok ()), t'⟩]) l.id (w.written l) := by
  obtain ⟨request, revision⟩ := requested_visited past l h t'
  exact ⟨request.symm, fun _ => revision.symm⟩

/-- Where nothing was due, a mirror is as if it had been written. -/
theorem Expects.current (he : Expects past l.id m) (hkind : m.kind = l.kind)
    (hs : due past l = false) (h : List Exchange) (t' : MirrorTable) :
    Expects (past ++ [⟨.visited l h (.ok ()), t'⟩]) l.id m := by
  obtain ⟨request, revision⟩ := requested_visited past l h t'
  have fresh := (he.isStale hkind).trans hs
  simp only [Mirror.isStale, Bool.or_eq_false_iff] at fresh
  refine ⟨fresh.1.trans request.symm, fun hd => ?_⟩
  rw [revision]
  simpa [hd] using fresh.2

/-- What a visit calls for a mirror with a past: a write if it is due. -/
def dueCalls (b : BufferId) (capacity : Nat) (past : List Moment) (l : Layer)
    (x : Except RenderError Unit) : List Exchange :=
  if due past l then [⟨.issue (.writeInstances b ((l.sprites.take capacity).map .ofSprite)), x⟩]
  else []

/-- What a visit does with a mirror that has a past, behind the calls that make room for it. -/
theorem expects_of_visit (hk : t.Kept before) (hl : (syncLayer l).Leads t h x t')
    (hg : t'.get? l.id = some m') (he : ∀ b, Expects past l.id (t.mirrorFor l b)) :
    ∃ b, m'.buffer = (t.mirrorFor l b).buffer ∧ m'.capacity = (t.mirrorFor l b).capacity ∧
      h = t.roomCalls l b ++ dueCalls m'.buffer m'.capacity past l x ∧
      (due past l = false → x = .ok ()) ∧
      Expects (past ++ [⟨.visited l h x, t'⟩]) l.id m' := by
  rcases leads_syncLayer hk hl with ⟨-, hn, -⟩ | ⟨b, w, hkind, hw, hcase⟩
  · rw [hn] at hg
    cases hg
  have expects := (he b).resembles hw
  have stale := (he b).isStale hkind
  refine ⟨b, ?_⟩
  -- by the past the mirror is stale exactly if a write is due
  rcases hcase with ⟨hs, rfl, rfl, hg'⟩ | ⟨hs, hg', rfl⟩
  · obtain rfl := Option.some.inj (hg.symm.trans hg')
    rw [stale] at hs
    refine ⟨hw.buffer, hw.capacity, ?_, fun _ => rfl, ?_⟩
    · rw [dueCalls, hs, if_neg Bool.false_ne_true, List.append_nil]
    · exact expects.current (hw.kind.trans hkind) hs _ _
  · rw [stale] at hs
    have write : dueCalls (t.mirrorFor l b).buffer (t.mirrorFor l b).capacity past l x =
        [⟨.issue (.writeInstances (t.mirrorFor l b).buffer
          (((t.mirrorFor l b).kept l).map .ofSprite)), x⟩] :=
      if_pos hs
    have notDue : due past l = false → x = .ok () := fun hn => absurd (hs.symm.trans hn) nofun
    obtain rfl := Option.some.inj (hg'.symm.trans hg)
    cases x with
    | error e =>
      refine ⟨hw.buffer, hw.capacity, ?_, notDue, expects.failed _ e t'⟩
      rw [answered, hw.buffer, hw.capacity, write]
    | ok v =>
      refine ⟨hw.buffer, hw.capacity, ?_, notDue, .written past w l _ t'⟩
      have buffer : (answered w l (.ok v)).buffer = (t.mirrorFor l b).buffer := hw.buffer
      have capacity : (answered w l (.ok v)).capacity = (t.mirrorFor l b).capacity := hw.capacity
      rw [buffer, capacity, write]

/-- A table has the mirror of a layer, with a buffer of its own and a past. -/
def Stands (id : LayerId) (kind : LayerKind) (b : BufferId) (capacity : Nat) (past : List Moment)
    (t : MirrorTable) : Prop :=
  ∃ m, t.get? id = some m ∧ m.kind = kind ∧ m.buffer = b ∧ m.capacity = capacity ∧ Expects past id m

/-- What the upload policy demands of a moment in the life of a mirror, whose past is known. All
calls of the run tell whether the backend handed out new buffers only. -/
structure Policy (id : LayerId) (kind : LayerKind) (b : BufferId) (capacity : Nat)
    (all : List Exchange) (past : List Moment) (μ : Moment) : Prop where
  /-- The layer has the mirror. -/
  mirror : ∃ m, μ.table.get? id = some m ∧ m.kind = kind ∧ m.buffer = b ∧ m.capacity = capacity
  /-- A visit of the layer writes if it is due, and then does as the write does; otherwise it
  succeeds. At the start of the life there are calls in front that make room for the mirror. -/
  visit : ∀ l h x, μ.deed = .visited l h x → l.id = id →
    l.kind = kind ∧ (due past l = false → x = .ok ()) ∧
      ∃ room, h = room ++ dueCalls b capacity past l x ∧ (∀ b', Spared b' room) ∧
      (past ≠ [] → room = [])
  /-- Nothing else writes to the buffer. -/
  others : Fresh all → μ.deed.PassesBy id → Spared b μ.deed.calls

theorem Policy.of_visit {all room : List Exchange} (hg : t'.get? l.id = some m)
    (hkind : m.kind = l.kind) (hok : due past l = false → x = .ok ()) (hspared : ∀ b, Spared b room)
    (hnil : past ≠ [] → room = []) :
    Policy l.id l.kind m.buffer m.capacity all past
      ⟨.visited l (room ++ dueCalls m.buffer m.capacity past l x) x, t'⟩ where
  mirror := ⟨m, hg, hkind, rfl, rfl⟩
  visit l' h' x' hdeed _ := by
    obtain ⟨rfl, rfl, rfl⟩ := Deed.visited.inj hdeed
    exact ⟨rfl, hok, room, rfl, hspared, hnil⟩
  others _ hpass := absurd rfl (hpass l _ x rfl)

/-- The mirror of a layer comes with a visit of the layer. -/
theorem policy_first (all : List Exchange) (hk : t.Kept before) (hd : μ.deed.Leads t μ.table)
    (hfresh : ∀ m, t.get? id = some m → m.kind ≠ kind) (hg : μ.table.get? id = some m)
    (hkind : m.kind = kind) :
    Policy id kind m.buffer m.capacity all [] μ ∧
    Stands id kind m.buffer m.capacity [μ] μ.table := by
  have visited : ¬ μ.deed.PassesBy id := by
    intro hpass
    obtain ⟨m₀, hg₀, ha, -⟩ := hd.get?_of_passesBy hk hpass hg
    exact hfresh m₀ hg₀ (ha.kind.symm.trans hkind)
  obtain ⟨d, t'⟩ := μ
  obtain ⟨l, h, x, rfl, rfl⟩ := Deed.exists_of_not_passesBy visited
  obtain rfl := hkind
  have same := kind_of_syncLayer hk hd hg
  have new : ∀ b, Expects [] l.id (t.mirrorFor l b) := fun b => by
    rw [mirrorFor_of_fresh fun m₀ hg₀ hkind₀ => hfresh m₀ hg₀ (hkind₀.trans same.symm)]
    exact .newMirror t l b
  obtain ⟨b, -, -, rfl, hok, expects⟩ := expects_of_visit hk hd hg new
  refine ⟨?_, m, hg, rfl, rfl, rfl, expects⟩
  rw [same]
  exact .of_visit hg same hok (spared_roomCalls t l b) fun hn => absurd rfl hn

/-- **A moment in the life of a mirror.** -/
theorem policy_step {all : List Exchange} {capacity : Nat} (hk : t.Kept before)
    (hd : μ.deed.Leads t μ.table) (hs : Stands id kind b capacity past t)
    (hall : exchanges (before ++ entries μ.deed.source μ.deed.calls) <+: all)
    (halive : ∃ m, μ.table.get? id = some m ∧ m.kind = kind) :
    Policy id kind b capacity all past μ ∧ Stands id kind b capacity (past ++ [μ]) μ.table := by
  obtain ⟨m, hg, hkind, rfl, rfl, expects⟩ := hs
  obtain ⟨m', hg', hkind'⟩ := halive
  -- either the deed passes by the layer, and nothing is expected of it, or it is a visit
  by_cases hpass : μ.deed.PassesBy id
  · obtain ⟨m₀, hg₀, ha, hr⟩ := hd.get?_of_passesBy hk hpass hg'
    obtain rfl := Option.some.inj (hg.symm.trans hg₀)
    refine ⟨⟨⟨m', hg', hkind', ha.buffer, ha.capacity⟩, ?_, ?_⟩,
      m', hg', hkind', ha.buffer, ha.capacity, expects.passedBy hpass ha hr⟩
    · intro l h x hdeed hid
      exact absurd hid (hpass l h x hdeed)
    · rintro hf -
      obtain ⟨rest, rfl⟩ := hall
      exact ha.buffer ▸ hd.spared_of_passesBy hk hpass hg' hf.of_append
  · obtain ⟨d, t'⟩ := μ
    obtain ⟨l, h, x, rfl, rfl⟩ := Deed.exists_of_not_passesBy hpass
    have same := kind_of_syncLayer hk hd hg'
    have kept := mirrorFor_of_get? hg (hkind.trans (hkind'.symm.trans same))
    obtain ⟨b, hbuffer, hcapacity, rfl, hok, expects'⟩ := expects_of_visit hk hd hg' fun b =>
      (kept b).1 ▸ expects
    obtain ⟨hm, hroom⟩ := kept b
    rw [hm] at hbuffer hcapacity
    rw [hroom] at expects' ⊢
    refine ⟨?_, m', hg', hkind', hbuffer, hcapacity, expects'⟩
    rw [← hkind', same, ← hbuffer, ← hcapacity]
    exact .of_visit hg' same hok (fun _ _ _ => List.not_mem_nil) fun _ => rfl

/-- The life of a mirror in a table, from the moment that it comes: its layer has it in every
table. -/
structure Life (id : LayerId) (kind : LayerKind) (t : MirrorTable) (life : List Moment) : Prop where
  /-- The layer did not have it before. -/
  fresh : ∀ m, t.get? id = some m → m.kind ≠ kind
  /-- It has it from then on. -/
  alive : ∀ μ ∈ life, ∃ m, μ.table.get? id = some m ∧ m.kind = kind

/-- The policy holds for as long as the mirror stands. -/
theorem policy_run {all : List Exchange} {capacity : Nat} (hk : t.Kept before) (hf : Follows t ms)
    (hs : Stands id kind b capacity past t)
    (halive : ∀ μ ∈ ms, ∃ m, μ.table.get? id = some m ∧ m.kind = kind)
    (hall : exchanges (before ++ trailOf ms) <+: all) :
    ∀ p μ f, ms = p ++ μ :: f → Policy id kind b capacity all (past ++ p) μ := by
  induction ms generalizing t past before with
  | nil => simp
  | cons ν ms ih =>
    obtain ⟨hd, hrest⟩ := hf
    obtain ⟨hν, halive⟩ := List.forall_mem_cons.mp halive
    rw [← append_trailOf_cons] at hall
    have prior : exchanges (before ++ entries ν.deed.source ν.deed.calls) <+: all := by
      rw [exchanges_append] at hall
      exact (List.prefix_append _ _).trans hall
    obtain ⟨policy, stands⟩ := policy_step hk hd hs prior hν
    intro p μ f hp
    cases p with
    | nil =>
      obtain ⟨rfl, -⟩ := List.cons.inj hp
      rwa [List.append_nil]
    | cons ν' p =>
      obtain ⟨rfl, rfl⟩ := List.cons.inj hp
      have later := ih (hd.kept hk) hrest stands halive hall p μ f rfl
      rwa [List.append_assoc] at later

/-- **The policy holds for the life of a mirror.** -/
theorem policy_life {all : List Exchange} (hk : t.Kept before) (hf : Follows t ms)
    (hl : Life id kind t ms) (hall : exchanges (before ++ trailOf ms) <+: all) :
    ∃ b capacity, ∀ past μ future, ms = past ++ μ :: future →
    Policy id kind b capacity all past μ := by
  cases ms with
  | nil => exact ⟨⟨0⟩, 0, by simp⟩
  | cons ν ms =>
    obtain ⟨hd, hrest⟩ := hf
    obtain ⟨⟨m, hg, hkind⟩, halive⟩ := List.forall_mem_cons.mp hl.alive
    obtain ⟨policy, stands⟩ := policy_first all hk hd hl.fresh hg hkind
    rw [← append_trailOf_cons] at hall
    refine ⟨m.buffer, m.capacity, fun past μ future hp => ?_⟩
    cases past with
    | nil =>
      obtain ⟨rfl, -⟩ := List.cons.inj hp
      exact policy
    | cons ν' past =>
      obtain ⟨rfl, rfl⟩ := List.cons.inj hp
      exact policy_run (hd.kept hk) hrest stands halive hall past μ future rfl

/-- A mirror in a table of a log that starts with none has a life up to there. -/
theorem exists_life {p : List Moment} (hn : t.get? id = none) (hg : μ.table.get? id = some m) :
    ∃ earlier past, p = earlier ++ past ∧ Life id m.kind (tableAfter t earlier) (past ++ [μ]) := by
  induction p using List.reverseRecOn generalizing μ m with
  | nil => exact ⟨[], [], rfl, by simp [tableAfter, hn], by simp [hg]⟩
  | append_singleton p ν ih =>
    by_cases hν : ∃ m', ν.table.get? id = some m' ∧ m'.kind = m.kind
    · obtain ⟨m', hg', hkind⟩ := hν
      obtain ⟨earlier, past, rfl, hlife⟩ := ih hg'
      rw [hkind] at hlife
      refine ⟨earlier, past ++ [ν], List.append_assoc .., hlife.fresh, ?_⟩
      exact List.forall_mem_append.mpr ⟨hlife.alive, List.forall_mem_singleton.mpr ⟨m, hg, rfl⟩⟩
    · refine ⟨p ++ [ν], [], (List.append_nil _).symm, fun m' hg' hkind => hν ⟨m', ?_, hkind⟩, ?_⟩
      · rwa [tableAfter_append] at hg'
      · exact List.forall_mem_singleton.mpr ⟨m, hg, rfl⟩

/-- A log obeys the upload policy. -/
structure ObeysPolicy (t : MirrorTable) (ms : List Moment) (all : List Exchange) : Prop where
  /-- A mirror in one of the tables has a life up to there. -/
  born : ∀ p μ f id m, ms = p ++ μ :: f → μ.table.get? id = some m →
    ∃ earlier past, p = earlier ++ past ∧ Life id m.kind (tableAfter t earlier) (past ++ [μ])
  /-- The policy holds at each moment of a life, for the buffer that the mirror has throughout. -/
  lives : ∀ earlier life later id kind, ms = earlier ++ life ++ later →
    Life id kind (tableAfter t earlier) life →
    ∃ b capacity, ∀ past μ future, life = past ++ μ :: future → Policy id kind b capacity all past μ

theorem obeysPolicy (hk : t.Kept []) (hn : ∀ id, t.get? id = none) (hf : Follows t ms) :
    ObeysPolicy t ms (ms.flatMap (·.deed.calls)) where
  born p μ f id m _ hg := exists_life (hn id) hg
  lives earlier life later id kind hms hlife := by
    subst hms
    obtain ⟨hpast, -⟩ := follows_append.mp hf
    obtain ⟨hearlier, hlived⟩ := follows_append.mp hpast
    refine policy_life (hearlier.kept hk) hlived hlife ?_
    rw [List.nil_append, exchanges_append, exchanges_trailOf, exchanges_trailOf,
      List.flatMap_append, List.flatMap_append]
    exact List.prefix_append _ _

variable {limits : MirrorLimits} {ops : List Op}

/-- **When mirrors are written.** Whatever is done with a table, and whatever of it fails, can be
logged, and every log obeys the upload policy. A visit of a layer writes its mirror if a request is
pending; of the layers whose revision counts also if that is another one than at the last visit.
There is a request from the start and from each time that somebody asks until a visit succeeds
(`requested`), so that a write that fails leaves it pending. A second `sync` of the same layers
calls for nothing. -/
theorem upload_policy (ha : Action.Attempts (ops.map Op.action) { limits := limits } h t) :
    (∃ ms, IsLog ops { limits := limits } ms h t) ∧
    (∀ ms, IsLog ops { limits := limits } ms h t → ObeysPolicy { limits := limits } ms h) ∧
    ∀ layers h₁ t₁ h₂ x t₂, layers.Pairwise (fun l l' => l.id ≠ l'.id) →
      (sync layers).Leads t h₁ (.ok ()) t₁ → (sync layers).Leads t₁ h₂ x t₂ →
      h₂ = [] ∧ x = .ok () := by
  have hk₀ := kept_empty limits
  obtain ⟨ms, hlog⟩ := exists_log ha
  refine ⟨⟨ms, hlog⟩, fun ms hlog => ?_, fun layers h₁ t₁ h₂ x t₂ hd hfirst hagain => ?_⟩
  · have obeys := obeysPolicy hk₀ (fun _ => rfl) hlog.follows
    rwa [hlog.calls] at obeys
  · have hk : t.Kept (trailOf ms) := hlog.last ▸ hlog.follows.kept hk₀
    obtain ⟨es, -, htrail⟩ := (syncTrail_erases layers _ _ _ _).mp hfirst
    exact leads_sync_again (keeps_sync layers t _ es _ t₁ hk htrail) hd
      (upToDate_sync hk hd htrail) hagain

/-- A backend that numbers its calls and refuses the second one. -/
def faltering : Backend Nat where
  perform
    | .createBuffer _, n => (.ok ⟨.ofNat n⟩, n + 1)
    | .freeBuffer _, n => ((), n + 1)
    | .issue _, n => (if n = 1 then .error (.surface "lost") else .ok (), n + 1)
  notice _ n := n

/-- A layer that is written once. -/
def still : Layer where
  id := ⟨2⟩
  z := ⟨0⟩
  kind := .static
  sprites := [tile "a"]

/-- A layer is edited, asked for and not seen for a while. -/
def asking : List Op :=
  [.sync [still], .sync [still], .sync [still.push (tile "b")], .invalidate still.id,
    .invalidate still.id, .sync [], .collect, .sync [still.push (tile "b")], .sync [still]]

/-- The first write is refused and made good. An edit goes unseen until somebody asks, and asking
twice makes for one write. -/
theorem upload_policy_asking :
    let run := Action.playAll faltering (asking.map Op.action) { limits := ⟨8, 4, 3⟩ } 0
    run.1.map (fun e => CallKind.of e.call) =
      [.createBuffer, .writeInstances, .writeInstances, .writeInstances] ∧
    (∃ ms, IsLog asking { limits := ⟨8, 4, 3⟩ } ms run.1 run.2.1) ∧
    (∀ ms, IsLog asking { limits := ⟨8, 4, 3⟩ } ms run.1 run.2.1 →
      ObeysPolicy { limits := ⟨8, 4, 3⟩ } ms run.1) ∧
    ∀ layers h₁ t₁ h₂ x t₂, layers.Pairwise (fun l l' => l.id ≠ l'.id) →
      (sync layers).Leads run.2.1 h₁ (.ok ()) t₁ → (sync layers).Leads t₁ h₂ x t₂ →
      h₂ = [] ∧ x = .ok () :=
  ⟨by decide +kernel, upload_policy (Action.attempts_playAll faltering (asking.map Op.action) _ 0)⟩

end LitTiles.MirrorTable
