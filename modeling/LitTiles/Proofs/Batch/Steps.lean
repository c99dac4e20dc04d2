import LitTiles.Proofs.Backend.Contract
import LitTiles.Proofs.Batch.Ownership

/-!
# The steps of an operation

A visit of a layer has four steps: a mirror of another upload policy is dropped, one is made if
there is none, it is marked as referred to, and it is written if it is stale. For each of them an
inductive tells all that it may do with a sound table: what was found, what is called, and what
becomes of the table. So it is for what a collection does with a slot. What operations keep is shown
by cases on these, and no step is opened again.

A step that touches a mirror names the slot that it found it in, and leaves the others alone.
-/

namespace LitTiles

/-! ## Uploads -/

namespace Mirror

variable {m m' : Mirror} {l : Layer} {h : List Exchange} {x : Except RenderError Unit}

/-- A report changes no more than the note that there was one. -/
theorem leads_warn (hl : (warn l).Leads m h x m') : h = [] ∧ x = .ok () ∧ ∃ b,
    m' = { m with warned := b } := by
  simp only [warn, Action.leads_get_bind] at hl
  split at hl
  · rw [Action.leads_say_bind, Action.leads_set] at hl
    obtain ⟨rfl, rfl, rfl⟩ := hl
    exact ⟨rfl, rfl, true, rfl⟩
  · obtain ⟨rfl, rfl, rfl⟩ := Action.leads_pure.mp hl
    exact ⟨rfl, rfl, m'.warned, rfl⟩

/-- Having warned is no part of what a mirror holds. -/
theorem resembles_warned (m : Mirror) (b : Bool) : Mirror.Resembles { m with warned := b } m :=
  ⟨⟨rfl, rfl, rfl, rfl, rfl, rfl, fun hn => hn⟩, rfl⟩

/-- An upload is one write, and only a write that succeeds is noted. -/
theorem leads_upload (hl : (upload l).Leads m h x m') :
    ∃ b, (∃ e, h = [⟨.issue (.writeInstances m.buffer ((m.kept l).map .ofSprite)), .error e⟩] ∧
        x = .error e ∧ m' = { m with warned := b }) ∨
      (h = [(m.writing l).exchange] ∧ x = .ok () ∧ m' = written { m with warned := b } l) := by
  rcases Action.leads_bind.mp hl with ⟨e, rfl, hw⟩ | ⟨_, h₁, h₂, w, rfl, hw, hu⟩
  · obtain ⟨-, he, -⟩ := leads_warn hw
    cases he
  obtain ⟨rfl, -, b, rfl⟩ := leads_warn hw
  refine ⟨b, ?_⟩
  rw [List.nil_append]
  simp only [Action.leads_get_bind, Action.leads_issue_bind, Action.leads_modify_bind,
    Action.leads_say] at hu
  rcases hu with ⟨e, rfl, rfl, rfl⟩ | ⟨rest, rfl, rfl, rfl, rfl⟩
  · exact .inl ⟨e, rfl, rfl, rfl⟩
  · exact .inr ⟨rfl, rfl, rfl⟩

end Mirror

namespace MirrorTable

variable {t t' : MirrorTable} {i : Nat} {m : Mirror} {l : Layer} {h : List Exchange}
  {x : Except RenderError Unit}

/-! ## The steps of a visit -/

/-- All that the first step of a visit may do. It does not fail. -/
inductive Drops (t : MirrorTable) (l : Layer) : List Exchange → MirrorTable → Prop
  /-- The layer has no mirror of another upload policy. -/
  | fits (hf : ∀ m, t.get? l.id = some m → m.kind = l.kind) : Drops t l [] t
  /-- It has one, which goes. -/
  | other {i : Nat} {m : Mirror} (hm : t.mirrorAt i = some m) (hid : m.id = l.id)
    (hkind : m.kind ≠ l.kind) :
    Drops t l [.freed m.buffer] ((t.eraseKey m.id).vacate i)

/-- All that the second step may do. -/
inductive Ensures (t : MirrorTable) (l : Layer) : List Exchange → Except RenderError Unit →
    MirrorTable → Prop
  /-- The layer has a mirror. -/
  | there {m : Mirror} (hg : t.get? l.id = some m) : Ensures t l [] (.ok ()) t
  /-- It has none, and there is no buffer for one. -/
  | refused (hn : t.get? l.id = none) (e : RenderError) :
    Ensures t l [⟨.createBuffer (t.limits.capacity l.kind), .error e⟩] (.error e) t
  /-- It has none, and gets one with a new buffer. -/
  | made (hn : t.get? l.id = none) (b : BufferId) :
    Ensures t l [.made (t.limits.capacity l.kind) b] (.ok ())
      (t.occupy (.ofLayer l b (t.limits.capacity l.kind) t.limits.lifetime))

/-- All that the third step may do. It calls nothing. -/
inductive Touches (t : MirrorTable) (l : Layer) : MirrorTable → Prop
  /-- The layer has no mirror. -/
  | missing (hn : t.get? l.id = none) : Touches t l t
  /-- It has one, which is marked. -/
  | marked {i : Nat} {m : Mirror} (hm : t.mirrorAt i = some m) (hid : m.id = l.id) :
    Touches t l (t.refresh i m l)

/-- All that the last step may do. -/
inductive Updates (t : MirrorTable) (l : Layer) : List Exchange → Except RenderError Unit →
    MirrorTable → Prop
  /-- The layer has no mirror. -/
  | missing (hn : t.get? l.id = none) : Updates t l [] (.ok ()) t
  /-- Its mirror is not stale. -/
  | current {i : Nat} {m : Mirror} (hm : t.mirrorAt i = some m) (hid : m.id = l.id)
    (hs : m.isStale l = false) :
    Updates t l [] (.ok ()) t
  /-- The write of its mirror is refused. Dropped sprites may have been reported. -/
  | refused {i : Nat} {m : Mirror} (hm : t.mirrorAt i = some m) (hid : m.id = l.id)
    (hs : m.isStale l = true) (e : RenderError) (warned : Bool) :
    Updates t l [⟨.issue (.writeInstances m.buffer ((m.kept l).map .ofSprite)), .error e⟩]
      (.error e) (t.putMirror i { m with warned := warned })
  /-- Its mirror is written. -/
  | granted {i : Nat} {m : Mirror} (hm : t.mirrorAt i = some m) (hid : m.id = l.id)
    (hs : m.isStale l = true) (warned : Bool) :
    Updates t l [(m.writing l).exchange] (.ok ())
    (t.putMirror i (Mirror.written { m with warned := warned } l))

/-- A mirror that is removed loses its key, gives its buffer back and leaves its slot, in this order
and without a failure. -/
theorem leads_remove (hf : t.find? l.id = some (i, m)) (hl : (remove l.id).Leads t h x t') :
    h = [⟨.freeBuffer m.buffer, ()⟩] ∧ x = .ok () ∧ t' = (t.eraseKey l.id).vacate i := by
  simp only [remove, hf, Action.leads_get_bind, Action.leads_modify_bind,
    Action.leads_freeBuffer_bind, Action.leads_modify] at hl
  obtain ⟨rest, rfl, rfl, rfl, rfl⟩ := hl
  exact ⟨rfl, rfl, rfl⟩

/-- A run of `dropOther` is one of the cases of `Drops`. From here on the text of the operation is
not looked at any more; the same goes for the four theorems like this one below. -/
theorem drops_of_leads (hs : t.Sound) (hl : (dropOther l).Leads t h x t') :
    x = .ok () ∧ t.Drops l h t' := by
  simp only [dropOther, Action.leads_get_bind] at hl
  cases hg : t.get? l.id with
  | none =>
    rw [hg] at hl
    obtain ⟨rfl, rfl, rfl⟩ := Action.leads_pure.mp hl
    refine ⟨rfl, .fits fun m hm => ?_⟩
    rw [hg] at hm
    cases hm
  | some m =>
    simp only [hg] at hl
    by_cases hkind : m.kind = l.kind
    · rw [if_neg (fun hn => hn hkind)] at hl
      obtain ⟨rfl, rfl, rfl⟩ := Action.leads_pure.mp hl
      refine ⟨rfl, .fits fun m' hm' => ?_⟩
      obtain rfl := Option.some.inj (hg.symm.trans hm')
      exact hkind
    -- the mirror is of another kind; a record is made, and then it is removed by its key
    · rw [if_pos hkind, Action.leads_say_bind] at hl
      obtain ⟨i, hm, hid⟩ := hs.get?_eq_some_iff.mp hg
      obtain ⟨rfl, rfl, rfl⟩ := leads_remove (hs.find?_eq_some_iff.mpr ⟨hm, hid⟩) hl
      rw [← hid]
      exact ⟨rfl, .other hm hid hkind⟩

theorem ensures_of_leads (hl : (ensure l).Leads t h x t') : t.Ensures l h x t' := by
  simp only [ensure, Action.leads_get_bind] at hl
  cases hg : t.get? l.id with
  | some m =>
    rw [hg, Option.isNone_some, if_neg Bool.false_ne_true] at hl
    obtain ⟨rfl, rfl, rfl⟩ := Action.leads_pure.mp hl
    exact .there hg
  | none =>
    simp only [hg, Option.isNone_none, if_true, create, Action.leads_get_bind,
      Action.leads_createBuffer_bind, Action.leads_modify_bind, Action.leads_say] at hl
    rcases hl with ⟨e, rfl, rfl, rfl⟩ | ⟨b, rest, rfl, rfl, rfl, rfl⟩
    · exact .refused hg e
    · exact .made hg b

theorem touches_of_leads (hs : t.Sound) (hl : (touch l).Leads t h x t') :
    h = [] ∧ x = .ok () ∧ t.Touches l t' := by
  obtain ⟨rfl, rfl, rfl⟩ := Action.leads_modify.mp hl
  refine ⟨rfl, rfl, ?_⟩
  cases hf : t.find? l.id with
  | none => exact .missing (by rw [get?_eq_map_find?, hf, Option.map_none])
  | some p =>
    obtain ⟨hm, hid⟩ := hs.find?_eq_some_iff.mp hf
    exact .marked hm hid

theorem updates_of_leads (hs : t.Sound) (hl : (update l).Leads t h x t') : t.Updates l h x t' := by
  simp only [update, Action.leads_get_bind] at hl
  cases hf : t.find? l.id with
  | none =>
    rw [hf] at hl
    obtain ⟨rfl, rfl, rfl⟩ := Action.leads_pure.mp hl
    exact .missing (by rw [get?_eq_map_find?, hf, Option.map_none])
  | some p =>
    obtain ⟨i, m⟩ := p
    obtain ⟨hm, hid⟩ := hs.find?_eq_some_iff.mp hf
    simp only [hf] at hl
    -- a stale mirror is written, and it depends on the answer whether it remembers that
    cases hstale : m.isStale l with
    | false =>
      rw [hstale, if_neg Bool.false_ne_true] at hl
      obtain ⟨rfl, rfl, rfl⟩ := Action.leads_pure.mp hl
      exact .current hm hid hstale
    | true =>
      rw [hstale, if_pos rfl, onMirror, Action.leads_within] at hl
      obtain ⟨m', hu, rfl⟩ := hl
      obtain ⟨b, ⟨e, rfl, rfl, rfl⟩ | ⟨rfl, rfl, rfl⟩⟩ := Mirror.leads_upload hu
      · exact .refused hm hid hstale e b
      · exact .granted hm hid hstale b

/-! ## A visit -/

/-- The steps of a visit, as far as it gets. -/
inductive Steps (t : MirrorTable) (l : Layer) : List Exchange → Except RenderError Unit →
    MirrorTable → Prop
  /-- It stops where there is no buffer for a mirror. -/
  | stopped {h₁ h₂ : List Exchange} {e : RenderError} {r t' : MirrorTable}
    (dropped : (dropOther l).Leads t h₁ (.ok ()) r)
    (ensured : (ensure l).Leads r h₂ (.error e) t') :
    Steps t l (h₁ ++ h₂) (.error e) t'
  /-- It gets to its last step. -/
  | arrived {h₁ h₂ h₃ : List Exchange} {x : Except RenderError Unit} {r₁ r₂ r₃ t' : MirrorTable}
    (dropped : (dropOther l).Leads t h₁ (.ok ()) r₁) (ensured : (ensure l).Leads r₁ h₂ (.ok ()) r₂)
    (touched : (touch l).Leads r₂ [] (.ok ()) r₃) (updated : (update l).Leads r₃ h₃ x t') :
    Steps t l (h₁ ++ h₂ ++ h₃) x t'

/-- A visit is made of its four steps, and it stops at the first that fails. -/
theorem steps_of_leads (hs : t.Sound) (hl : (syncLayer l).Leads t h x t') : t.Steps l h x t' := by
  rcases Action.leads_bind.mp hl with ⟨e, rfl, hd⟩ | ⟨_, h₁, _, r₁, rfl, hd, hl⟩
  · obtain ⟨he, -⟩ := drops_of_leads hs hd
    cases he
  rcases Action.leads_bind.mp hl with ⟨e, rfl, he⟩ | ⟨_, h₂, _, r₂, rfl, he, hl⟩
  · exact .stopped hd he
  rcases Action.leads_bind.mp hl with ⟨e, rfl, ht⟩ | ⟨_, h₃, h₄, r₃, rfl, ht, hu⟩
  · obtain ⟨-, hx, -⟩ := Action.leads_modify.mp ht
    cases hx
  obtain ⟨rfl, -⟩ := Action.leads_modify.mp ht
  rw [List.nil_append, ← List.append_assoc]
  exact .arrived hd he ht hu

/-! ## A collection -/

/-- A slot is marked as one that nothing referred to. -/
def unmark (t : MirrorTable) (index : Nat) : MirrorTable :=
  t.modifySlot index fun s => { s with touched := false }

@[simp] theorem mirrorAt_unmark (t : MirrorTable) (i j : Nat) :
    (t.unmark i).mirrorAt j = t.mirrorAt j :=
  mirrorAt_mark _ fun _ => rfl

/-- All that a collection may do with a slot. It does not fail. -/
inductive Collects (t : MirrorTable) (i : Nat) : List Exchange → MirrorTable → Prop
  /-- There is no such slot. -/
  | missing (hs : t.slots[i]? = none) : Collects t i [] t
  /-- There is no mirror in it. -/
  | vacant {s : Slot} (hs : t.slots[i]? = some s) (hm : s.mirror = none) :
    Collects t i [] (t.unmark i)
  /-- Its mirror was referred to. -/
  | spared {s : Slot} {m : Mirror} (hs : t.slots[i]? = some s) (hm : s.mirror = some m)
    (ht : s.touched = true) :
    Collects t i [] (t.unmark i)
  /-- Its mirror has some time left. -/
  | aged {s : Slot} {m : Mirror} (hs : t.slots[i]? = some s) (hm : s.mirror = some m)
    (ht : ¬ s.touched = true)
    (hlife : 0 < m.lifetime - 1) :
      Collects t i [] ((t.unmark i).putMirror i { m with lifetime := m.lifetime - 1 })
  /-- The time of its mirror is up. -/
  | evicted {s : Slot} {m : Mirror} (hs : t.slots[i]? = some s) (hm : s.mirror = some m)
    (ht : ¬ s.touched = true)
    (hlife : ¬ 0 < m.lifetime - 1) :
      Collects t i [⟨.freeBuffer m.buffer, ()⟩] (((t.unmark i).eraseKey m.id).vacate i)

/-- Collecting a slot never fails, for freeing a buffer has no answer. -/
theorem collects_of_leads (hl : (collectSlot i).Leads t h x t') :
    x = .ok () ∧ t.Collects i h t' := by
  simp only [collectSlot, Action.leads_get_bind] at hl
  cases hs : t.slots[i]? with
  | none =>
    rw [hs] at hl
    obtain ⟨rfl, rfl, rfl⟩ := Action.leads_pure.mp hl
    exact ⟨rfl, .missing hs⟩
  | some s =>
    simp only [hs, Action.leads_modify_bind] at hl
    cases hm : s.mirror with
    | none =>
      rw [hm] at hl
      obtain ⟨rfl, rfl, rfl⟩ := Action.leads_pure.mp hl
      exact ⟨rfl, .vacant hs hm⟩
    | some m =>
      simp only [hm] at hl
      -- what was touched is spared, whatever its lifetime
      by_cases ht : s.touched = true
      · rw [if_pos ht] at hl
        obtain ⟨rfl, rfl, rfl⟩ := Action.leads_pure.mp hl
        exact ⟨rfl, .spared hs hm ht⟩
      rw [if_neg ht] at hl
      by_cases hlife : 0 < m.lifetime - 1
      · rw [if_pos hlife] at hl
        obtain ⟨rfl, rfl, rfl⟩ := Action.leads_modify.mp hl
        exact ⟨rfl, .aged hs hm ht hlife⟩
      · simp only [if_neg hlife, Action.leads_freeBuffer_bind, Action.leads_modify_bind,
          Action.leads_say] at hl
        obtain ⟨rest, rfl, rfl, rfl, rfl⟩ := hl
        exact ⟨rfl, .evicted hs hm ht hlife⟩

end MirrorTable

end LitTiles
