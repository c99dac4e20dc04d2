import LitTiles.Proofs.Batch.Repair

/-!
# A table, one deed after the other

A `sync` stops at the first call that fails, so of some of its layers nothing can be said but that
they were not reached. A log takes it apart: it is a list of deeds, one of which is the visit of one
layer, with the table that each of them left (`Moment`). All that operations do can be logged
(`exists_log`), and each table of a log keeps the invariant of mirrors (`Follows.kept`).
-/

namespace LitTiles.MirrorTable

/-- One thing that is done with a table. -/
inductive Deed where
  /-- A layer was asked to be uploaded again. -/
  | asked (id : LayerId)
  /-- A layer was reached by a `sync`, which called the backend for it. An error ended the
  `sync`. -/
  | visited (source : Layer) (calls : List Exchange) (answer : Except RenderError Unit)
  /-- Mirrors were aged. -/
  | collected (calls : List Exchange)

namespace Deed

/-- What was called. -/
def calls : Deed → List Exchange
  | asked _ => []
  | visited _ h _ => h
  | collected h => h

/-- The layer for which it was called. -/
def source : Deed → Option Layer
  | visited l _ _ => some l
  | _ => none

/-- The deed leads from a table to another one. -/
def Leads : Deed → MirrorTable → MirrorTable → Prop
  | asked id, t, t' => t' = t.invalidate id
  | visited l h x, t, t' => (syncLayer l).Leads t h x t'
  | collected h, t, t' => collect.Leads t h (.ok ()) t'

end Deed

/-- A deed, and the table it left. -/
structure Moment where
  /-- The deed. -/
  deed : Deed
  /-- The table. -/
  table : MirrorTable

/-- The calls of some moments, each with the layer it was made for. -/
def trailOf (ms : List Moment) : List Entry :=
  ms.flatMap fun μ => entries μ.deed.source μ.deed.calls

/-- The table after some moments, from the table before. -/
def tableAfter (t : MirrorTable) (ms : List Moment) : MirrorTable := ms.foldl (fun _ μ => μ.table) t

/-- Each moment leads on from the one before. -/
def Follows : MirrorTable → List Moment → Prop
  | _, [] => True
  | t, μ :: ms => μ.deed.Leads t μ.table ∧ Follows μ.table ms

/-- The visits of a `sync`: one layer after the other, up to the first one that fails. -/
inductive Visits : List Layer → List Deed → Except RenderError Unit → Prop
  /-- All layers were reached. -/
  | done : Visits [] [] (.ok ())
  /-- One layer is in line. -/
  | next {l : Layer} {ls : List Layer} {ds : List Deed} {x : Except RenderError Unit}
    (h : List Exchange)
    (rest : Visits ls ds x) : Visits (l :: ls) (.visited l h (.ok ()) :: ds) x
  /-- A call failed. -/
  | stopped {l : Layer} {ls : List Layer} (h : List Exchange) (e : RenderError) :
    Visits (l :: ls) [.visited l h (.error e)] (.error e)

/-- The deeds of an operation. -/
def Op.Does : Op → List Deed → Prop
  | sync layers, ds => ∃ x, Visits layers ds x
  | invalidate id, ds => ds = [.asked id]
  | collect, ds => ∃ h, ds = [.collected h]

/-- The deeds of operations, one after the other. -/
def DoAll : List Op → List Deed → Prop
  | [], ds => ds = []
  | o :: ops, ds => ∃ first rest, ds = first ++ rest ∧ o.Does first ∧ DoAll ops rest

/-- A log of operations that start with a table: their deeds, with what was called and the table
that they end with. -/
structure IsLog (ops : List Op) (t : MirrorTable) (ms : List Moment) (h : List Exchange)
    (t' : MirrorTable) :
    Prop where
  /-- Each moment leads on from the one before. -/
  follows : Follows t ms
  /-- The deeds are those of the operations. -/
  deeds : DoAll ops (ms.map (·.deed))
  /-- The calls are those of the deeds. -/
  calls : ms.flatMap (·.deed.calls) = h
  /-- The last table is the one that is left. -/
  last : tableAfter t ms = t'

variable {t t' : MirrorTable} {ms ns : List Moment} {μ : Moment} {before : List Entry}
  {h : List Exchange} {x : Except RenderError Unit} {ops : List Op} {layers : List Layer}

theorem tableAfter_append (t : MirrorTable) (ms ns : List Moment) :
    tableAfter t (ms ++ ns) = tableAfter (tableAfter t ms) ns :=
  List.foldl_append ..

/-- A log follows in two parts if the second follows from where the first has led. -/
theorem follows_append : Follows t (ms ++ ns) ↔ Follows t ms ∧ Follows (tableAfter t ms) ns := by
  induction ms generalizing t with
  | nil => exact (true_and _).to_iff.symm
  | cons μ ms ih =>
    change _ ∧ Follows μ.table (ms ++ ns) ↔ (_ ∧ Follows μ.table ms) ∧ _
    rw [ih, and_assoc]
    rfl

/-- What a log calls is what its deeds call, in their order. -/
theorem exchanges_trailOf (ms : List Moment) :
    exchanges (trailOf ms) = ms.flatMap (·.deed.calls) := by
  induction ms with
  | nil => rfl
  | cons μ ms ih =>
    rw [trailOf, List.flatMap_cons, exchanges_append, exchanges_entries, List.flatMap_cons]
    exact congrArg _ ih

theorem append_trailOf_cons (before : List Entry) (μ : Moment) (ms : List Moment) :
    before ++ entries μ.deed.source μ.deed.calls ++ trailOf ms = before ++ trailOf (μ :: ms) :=
  List.append_assoc ..

/-! ## The invariant -/

/-- A deed keeps the invariant of the table, with its calls behind those before. -/
theorem Deed.Leads.kept {d : Deed} (hd : d.Leads t t') (hk : t.Kept before) :
    t'.Kept (before ++ entries d.source d.calls) := by
  cases d with
  | asked id =>
    obtain rfl : t' = t.invalidate id := hd
    rw [Deed.calls, entries_nil, List.append_nil]
    exact hk.invalidate id
  | visited l h x => exact (kept_syncLayer hk hd).1
  | collected h => exact keeps_collect t before _ (.ok ()) t' hk ⟨h, rfl, hd⟩

/-- Every table of a log keeps the invariant. -/
theorem Follows.kept (hf : Follows t ms) (hk : t.Kept before) :
    (tableAfter t ms).Kept (before ++ trailOf ms) := by
  induction ms generalizing t before with
  | nil => rwa [trailOf, List.flatMap_nil, List.append_nil]
  | cons μ ms ih =>
    obtain ⟨hfirst, hrest⟩ := hf
    have rest := ih hrest (hfirst.kept hk)
    rwa [append_trailOf_cons] at rest

/-! ## All operations can be logged -/

/-- A `sync` can be logged as visits of its layers, up to the first that fails. By induction on the
layers. -/
theorem exists_visits (hl : (sync layers).Leads t h x t') :
    ∃ ms, Follows t ms ∧ Visits layers (ms.map (·.deed)) x ∧ ms.flatMap (·.deed.calls) = h ∧
      tableAfter t ms = t' := by
  induction layers generalizing t h with
  | nil =>
    obtain ⟨rfl, rfl, rfl⟩ := Action.leads_forM_nil.mp hl
    exact ⟨[], trivial, .done, rfl, rfl⟩
  | cons l layers ih =>
    rcases Action.leads_bind.mp hl with ⟨e, rfl, hfails⟩ | ⟨_, h₁, h₂, r, rfl, hfirst, hrest⟩
    · exact ⟨[⟨.visited l h (.error e), t'⟩], ⟨hfails, trivial⟩, .stopped h e,
        List.append_nil h, rfl⟩
    · obtain ⟨ms, hfollows, hvisits, rfl, hlast⟩ := ih hrest
      exact ⟨⟨.visited l h₁ (.ok ()), r⟩ :: ms, ⟨hfirst, hfollows⟩, .next h₁ hvisits, rfl, hlast⟩

/-- Every operation can be logged as deeds with the same calls and the same table in the end. -/
theorem exists_deeds {o : Op} (hl : o.action.Leads t h x t') :
    ∃ ms, Follows t ms ∧ o.Does (ms.map (·.deed)) ∧ ms.flatMap (·.deed.calls) = h ∧
    tableAfter t ms = t' := by
  cases o with
  | sync layers =>
    obtain ⟨ms, hfollows, hvisits, hcalls, hlast⟩ := exists_visits hl
    exact ⟨ms, hfollows, ⟨x, hvisits⟩, hcalls, hlast⟩
  | invalidate id =>
    obtain ⟨rfl, -, rfl⟩ := Action.leads_modify.mp hl
    exact ⟨[⟨.asked id, t.invalidate id⟩], ⟨rfl, trivial⟩, rfl, rfl, rfl⟩
  | collect =>
    have ok : x = .ok () := (leads_collect hl).2
    subst ok
    exact ⟨[⟨.collected h, t'⟩], ⟨hl, trivial⟩, ⟨h, rfl⟩, List.append_nil h, rfl⟩

/-- **Operations have a log**, whatever fails. -/
theorem exists_log (ha : Action.Attempts (ops.map Op.action) t h t') :
    ∃ ms, IsLog ops t ms h t' := by
  induction ops generalizing t h with
  | nil =>
    obtain ⟨rfl, rfl⟩ := ha
    exact ⟨[], trivial, rfl, rfl, rfl⟩
  | cons o ops ih =>
    obtain ⟨h₁, h₂, x, r, rfl, hfirst, hrest⟩ := ha
    obtain ⟨first, hfollows, hdoes, rfl, rfl⟩ := exists_deeds hfirst
    obtain ⟨rest, hlog⟩ := ih hrest
    refine ⟨first ++ rest, ?_, ?_, ?_, ?_⟩
    · exact follows_append.mpr ⟨hfollows, hlog.follows⟩
    · exact ⟨_, _, List.map_append, hdoes, hlog.deeds⟩
    · rw [List.flatMap_append, hlog.calls]
    · rw [tableAfter_append, hlog.last]

end LitTiles.MirrorTable
