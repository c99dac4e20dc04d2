import LitTiles.Proofs.Backend.Contract
import LitTiles.Renderer
import Mathlib.Data.List.Sort

/-!
# Stacking order

Layers are drawn in stacking order, and layers with the same key in the order of the scene. The
order is `Stacked`: the layers are the same, the keys do not fall, and among the layers of one key
nothing is exchanged. That determines it. It is what sorting gives (`stacked_stacked`), a part of
the layers that is cut out by a test stays in order (`Stacked.filter`), and so do those that have
something to draw (`Stacked.drawn`).

If the layers up to a key come first and the others after them, the whole order is there again
(`filter_append_filter`): this is why the layers that are drawn lit and then unlit are drawn in the
same order as their masks.
-/

namespace LitTiles

namespace Renderer

variable {table : MirrorTable} {target : Target} {mode : SpriteMode} {layers : List Layer}
  {r t : Renderer} {h : List Exchange}

/-! ## Order -/

/-- Some things of a list, each of them with a layer, are in stacking order. -/
structure Stacked {α : Type} (layer : α → Layer) (source ordered : List α) : Prop where
  /-- They are the same things, each of them as often. -/
  perm : ordered.Perm source
  /-- Stacking keys do not fall. -/
  ascending : ordered.Pairwise fun a b => (layer a).z.val ≤ (layer b).z.val
  /-- Things with the same key are in the order of the list. -/
  stable : ∀ z : ZIndex, ordered.filter (fun a => (layer a).z = z) =
    source.filter fun a => (layer a).z = z

/-- Sorting puts layers into stacking order. -/
theorem stacked_stacked (layers : List Layer) : Stacked id layers (stacked layers) := by
  have trans : ∀ a b c : Layer, decide (a.z.val ≤ b.z.val) = true →
      decide (b.z.val ≤ c.z.val) = true →
      decide (a.z.val ≤ c.z.val) = true := by
    simp only [decide_eq_true_eq]
    omega
  have total : ∀ a b : Layer,
      (decide (a.z.val ≤ b.z.val) || decide (b.z.val ≤ a.z.val)) = true := by
    simp only [Bool.or_eq_true, decide_eq_true_eq]
    omega
  have perm : (stacked layers).Perm layers := List.mergeSort_perm layers _
  refine ⟨perm, ?_, fun z => ?_⟩
  · exact (List.pairwise_mergeSort trans total layers).imp of_decide_eq_true
  · -- layers of one key are sorted already, so sorting leaves them as they are
    let p : Layer → Bool := fun a => a.z = z
    have sorted : (layers.filter p).Pairwise fun a b => decide (a.z.val ≤ b.z.val) = true := by
      refine List.pairwise_of_forall_mem_list fun a ha b hb => ?_
      have ha : a.z = z := of_decide_eq_true (List.mem_filter.mp ha).2
      have hb : b.z = z := of_decide_eq_true (List.mem_filter.mp hb).2
      rw [ha, hb]
      simp
    have sub : (layers.filter p).Sublist (stacked layers) :=
      List.sublist_mergeSort trans total sorted List.filter_sublist
    have sub : (layers.filter p).Sublist ((stacked layers).filter p) := by
      have := sub.filter p
      rwa [List.filter_filter, funext fun a => Bool.and_self (p a)] at this
    exact (sub.eq_of_length (perm.filter p).length_eq.symm).symm

/-- What passes a test stays in order. -/
theorem Stacked.filter {α : Type} {layer : α → Layer} {source ordered : List α}
    (hs : Stacked layer source ordered) (p : α → Bool) :
    Stacked layer (source.filter p) (ordered.filter p) where
  perm := hs.perm.filter p
  ascending := hs.ascending.sublist List.filter_sublist
  stable z := by
    rw [List.filter_comm, hs.stable z, List.filter_comm]

/-- The things of a list up to a point and the others make up the list. -/
theorem filter_append_filter {α : Type} {p : α → Bool} {as : List α}
    (ha : as.Pairwise fun a b => p b = true → p a = true) :
    as.filter p ++ as.filter (fun a => !p a) = as := by
  induction as with
  | nil => rfl
  | cons a as ih =>
    obtain ⟨hfirst, hrest⟩ := List.pairwise_cons.mp ha
    cases hp : p a with
    | true => simp [hp, ih hrest]
    | false =>
      -- nothing that follows passes the test
      have none : as.filter p = [] := by
        refine List.filter_eq_nil_iff.mpr fun b hb hpb => ?_
        rw [hfirst b hb hpb] at hp
        cases hp
      have all : as.filter (fun a => !p a) = as := by
        have := ih hrest
        rwa [none, List.nil_append] at this
      simp [hp, none, all]

/-! ## Drawing -/

/-- What there is to draw of a layer: its mirror, if that has draw calls. -/
def drawn? (table : MirrorTable) (l : Layer) : Option (Layer × Mirror) :=
  (table.get? l.id).bind fun m => if m.drawCalls.isEmpty then none else some (l, m)

/-- What there is to draw of layers. -/
def drawn (table : MirrorTable) (layers : List Layer) : List (Layer × Mirror) :=
  layers.filterMap (drawn? table)

/-- The commands that draw mirrors of layers. -/
def draws (target : Target) (mode : SpriteMode) (ds : List (Layer × Mirror)) : List Command :=
  ds.map fun d => .drawSprites target mode d.2.buffer d.2.drawCalls

theorem fst_of_drawn? {l : Layer} {d : Layer × Mirror}
    (hd : drawn? table l = some d) : d.1 = l := by
  obtain ⟨m, -, hd⟩ := Option.bind_eq_some_iff.mp hd
  by_cases he : m.drawCalls.isEmpty = true
  · rw [if_pos he] at hd
    cases hd
  · rw [if_neg he] at hd
    exact (congrArg Prod.fst (Option.some.inj hd)).symm

/-- A test of layers may come before or after looking for their mirrors. -/
theorem filter_drawn (p : Layer → Bool) (layers : List Layer) :
    (drawn table layers).filter (fun d => p d.1) = drawn table (layers.filter p) := by
  induction layers with
  | nil => rfl
  | cons l layers ih =>
    unfold drawn at ih ⊢
    cases hd : drawn? table l with
    | none => cases hp : p l <;> simp [hd, hp, ih]
    | some d =>
      have hl := fst_of_drawn? hd
      cases hp : p l <;> simp [hd, hl, hp, ih]

/-- What there is to draw of layers in stacking order is in stacking order. -/
theorem Stacked.drawn {ordered : List Layer} (hs : Stacked id layers ordered)
    (table : MirrorTable) :
    Stacked Prod.fst (drawn table layers) (drawn table ordered) where
  perm := hs.perm.filterMap _
  ascending := by
    refine List.Pairwise.filterMap _ (fun a b hab d hd d' hd' => ?_) hs.ascending
    rw [fst_of_drawn? hd, fst_of_drawn? hd']
    exact hab
  stable z := by
    rw [filter_drawn (fun l => l.z = z), filter_drawn (fun l => l.z = z)]
    exact congrArg _ (hs.stable z)

/-- Layers are drawn with success by the commands for what there is to draw of them. -/
theorem leads_drawLayers_ok :
    (drawLayers table layers target mode).Leads r h (.ok ()) t ↔
      h = (draws target mode (drawn table layers)).map .done ∧ t = r := by
  have whole : draws target mode (drawn table layers) =
      layers.flatMap fun l => draws target mode (drawn? table l).toList := by
    rw [drawn, List.filterMap_eq_flatMap_toList, draws, List.map_flatMap]
    rfl
  rw [whole]
  refine Action.leads_forM_commands_ok fun l h t => ?_
  unfold drawn?
  cases table.get? l.id with
  | none => exact Action.leads_pure.trans (and_congr_right fun _ => and_iff_right rfl)
  | some m =>
    by_cases he : m.drawCalls.isEmpty = true
    · simp only [he, if_true, Option.bind_some]
      exact Action.leads_pure.trans (and_congr_right fun _ => and_iff_right rfl)
    · simp only [he, Option.bind_some]
      exact Action.leads_issue_ok

/-- Drawing layers fails only if a call fails. -/
theorem meets_drawLayers {c : Contract Renderer}
    (hc : ∀ b calls, c.calls (.issue (.drawSprites target mode b calls))) :
    (drawLayers table layers target mode).Meets c := by
  refine .forM fun l _ => ?_
  cases table.get? l.id with
  | none => exact Action.meets_pure ()
  | some m =>
    by_cases he : m.drawCalls.isEmpty = true
    · simp only [if_pos he]
      exact Action.meets_pure ()
    · simp only [if_neg he]
      exact Action.meets_issue (hc _ _)

end Renderer

end LitTiles
