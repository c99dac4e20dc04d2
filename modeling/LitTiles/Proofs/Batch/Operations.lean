import LitTiles.Proofs.Batch.Upkeep

/-!
# Runs of a table

What may be done with a table of mirrors before it is cleared is a list of operations (`Op`), each
of them from where the one before it stopped, with an error or without. Calls are made for none but
the layers that some `sync` brings in line (`source_mem_of_attempts`).
-/

namespace LitTiles.MirrorTable

/-- What may be done with a table before it is cleared. -/
inductive Op where
  /-- Brings the table in line with the layers of a scene. -/
  | sync (layers : List Layer)
  /-- Asks for a layer to be uploaded again. -/
  | invalidate (id : LayerId)
  /-- Ages mirrors. -/
  | collect

namespace Op

/-- What a table does. -/
def action : Op → Action MirrorTable Unit
  | sync layers => MirrorTable.sync layers
  | invalidate id => modify (·.invalidate id)
  | collect => MirrorTable.collect

/-- The same with the layers for which calls are made. -/
def trail : Op → Trail MirrorTable Unit
  | sync layers => syncTrail layers
  | o => Trail.of none o.action

/-- The layers that are brought in line. -/
def layers : Op → List Layer
  | sync layers => layers
  | _ => []

theorem trail_erases (o : Op) : o.trail.Erases o.action := by
  cases o with
  | sync layers => exact syncTrail_erases layers
  | _ => exact Trail.erases_of _ _

theorem keeps_trail (o : Op) : o.trail.Keeps Kept := by
  cases o with
  | sync layers => exact keeps_sync layers
  | collect => exact keeps_collect
  | invalidate id =>
    rintro t before es x t' hk ⟨h, rfl, hl⟩
    obtain ⟨rfl, -, rfl⟩ := Action.leads_modify.mp hl
    rw [entries_nil, List.append_nil]
    exact hk.invalidate id

/-- Calls are made for none but the layers of a `sync`. -/
theorem source_mem {o : Op} {t t' : MirrorTable} {es : List Entry} {x : Except RenderError Unit}
    (hl : o.trail t es x t') : ∀ e ∈ es, ∀ l, e.source = some l → l ∈ o.layers := by
  intro e he l hs
  cases o with
  | sync layers =>
    obtain ⟨l', hl', hs'⟩ := source_mem_of_sync hl e he
    obtain rfl := Option.some.inj (hs.symm.trans hs')
    exact hl'
  | _ =>
    obtain ⟨h, rfl, -⟩ := hl
    obtain ⟨ex, -, rfl⟩ := List.mem_map.mp he
    cases hs

end Op

variable {limits : MirrorLimits} {ops : List Op} {layers : List Layer} {t t' : MirrorTable}
  {es es' : List Entry}

theorem source_mem_of_attempts (ha : Trail.Attempts (ops.map Op.trail) t es t') :
    ∀ e ∈ es, ∀ l, e.source = some l → l ∈ ops.flatMap Op.layers := by
  induction ops generalizing t es with
  | nil =>
    obtain ⟨rfl, -⟩ := ha
    intro e he
    cases he
  | cons o ops ih =>
    obtain ⟨es₁, es₂, x, r, rfl, h₁, h₂⟩ := ha
    intro e he l hs
    rw [List.flatMap_cons, List.mem_append]
    rcases List.mem_append.mp he with he | he
    · exact .inl (Op.source_mem h₁ e he l hs)
    · exact .inr (ih h₂ e he l hs)

/-- On every backend a table has a run, and a last `sync` if it succeeds. -/
theorem exists_run {ρ : Type} (b : Backend ρ) (start : ρ) (limits : MirrorLimits) (ops : List Op)
    (layers : List Layer)
    (hok : ((sync layers).play b
      (Action.playAll b (ops.map Op.action) { limits := limits } start).2.1
      (Action.playAll b (ops.map Op.action) { limits := limits } start).2.2).1 = .ok ()) :
    ∃ es t es' t', Trail.Attempts (ops.map Op.trail) { limits := limits } es t ∧
      syncTrail layers t es' (.ok ()) t' := by
  obtain ⟨es, -, ha⟩ := (Trail.attempts_erases Op.trail_erases).mp <|
    Action.attempts_playAll b (ops.map Op.action) { limits := limits } start
  have hlead := Action.leads_heard b (sync layers)
    (Action.playAll b (ops.map Op.action) { limits := limits } start).2.1
    (Action.playAll b (ops.map Op.action) { limits := limits } start).2.2
  rw [hok] at hlead
  obtain ⟨es', -, hs⟩ := (syncTrail_erases layers _ _ _ _).mp hlead
  exact ⟨es, _, es', _, ha, hs⟩

/-- A sprite of a texture. -/
def tile (texture : String) : Sprite :=
  { texture := texture, position := ⟨0, 0⟩, size := ⟨1, 1⟩ }

/-- A dynamic layer with one sprite that was pushed to it. -/
def pushed (texture : String) : Layer :=
  Layer.push { id := ⟨1⟩, z := ⟨0⟩, kind := .dynamic } (tile texture)

end LitTiles.MirrorTable
