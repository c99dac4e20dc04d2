import Mathlib.Data.List.Forall2

/-!
# Answers

An answer is a value or an error. What is done in two parts answers a value only if both do
(`bind_eq_ok_iff`), and a loop answers values only if it does so item by item (`mapM_eq_ok_iff`). A
loop that fails does so at one of the items (`exists_of_mapM_error`).
-/

namespace LitTiles

variable {α β ε : Type} {x : Except ε α} {f : α → Except ε β} {xs : List α} {ys : List β}

theorem bind_eq_ok_iff {v : β} : x >>= f = .ok v ↔ ∃ a, x = .ok a ∧ f a = .ok v := by
  cases x <;> simp [bind, Except.bind]

theorem bind_eq_error_iff {e : ε} : x >>= f = .error e ↔ x = .error e ∨ ∃ a, x = .ok a ∧
    f a = .error e := by
  cases x <;> simp [bind, Except.bind]

/-- A loop answers the answers for its items. -/
theorem mapM_eq_ok_iff : xs.mapM f = .ok ys ↔ List.Forall₂ (fun x y => f x = .ok y) xs ys := by
  induction xs generalizing ys with
  | nil =>
    rw [List.mapM_nil, List.forall₂_nil_left_iff]
    exact ⟨fun h => (Except.ok.inj h).symm, fun h => h ▸ rfl⟩
  | cons x xs ih =>
    rw [List.mapM_cons, bind_eq_ok_iff, List.forall₂_cons_left_iff]
    refine exists_congr fun y => ?_
    rw [bind_eq_ok_iff]
    constructor
    · rintro ⟨hx, ys', hxs, hys⟩
      exact ⟨ys', hx, ih.mp hxs, (Except.ok.inj hys).symm⟩
    · rintro ⟨ys', hx, hxs, rfl⟩
      exact ⟨hx, ys', ih.mpr hxs, rfl⟩

theorem length_of_mapM (h : xs.mapM f = .ok ys) : ys.length = xs.length :=
  (mapM_eq_ok_iff.mp h).length_eq.symm

/-- The answer for an item is found in its place. -/
theorem exists_of_mapM_getElem? (h : xs.mapM f = .ok ys) {i : Nat} {x : α} (hx : xs[i]? = some x) :
    ∃ y, ys[i]? = some y ∧ f x = .ok y := by
  obtain ⟨length, each⟩ := List.forall₂_iff_get.mp (mapM_eq_ok_iff.mp h)
  obtain ⟨hi, rfl⟩ := List.getElem?_eq_some_iff.mp hx
  have hi' : i < ys.length := length ▸ hi
  exact ⟨ys[i], List.getElem?_eq_getElem hi', each i hi hi'⟩

/-- What a loop answers came from one of the items. -/
theorem exists_of_mem_mapM (h : xs.mapM f = .ok ys) : ∀ y ∈ ys, ∃ x ∈ xs, f x = .ok y := by
  obtain ⟨length, each⟩ := List.forall₂_iff_get.mp (mapM_eq_ok_iff.mp h)
  intro y hy
  obtain ⟨i, hi, rfl⟩ := List.getElem_of_mem hy
  have hi' : i < xs.length := length ▸ hi
  exact ⟨xs[i], List.getElem_mem hi', each i hi' hi⟩

/-- A loop that fails does so at one of the items. -/
theorem exists_of_mapM_error {e : ε} (h : xs.mapM f = .error e) : ∃ x ∈ xs, f x = .error e := by
  induction xs with
  | nil => cases h
  | cons x xs ih =>
    rw [List.mapM_cons, bind_eq_error_iff] at h
    rcases h with hx | ⟨y, -, h⟩
    · exact ⟨x, List.mem_cons_self, hx⟩
    · rcases bind_eq_error_iff.mp h with hxs | ⟨ys, -, h⟩
      · obtain ⟨x', hm, hx'⟩ := ih hxs
        exact ⟨x', List.mem_cons_of_mem x hm, hx'⟩
      · cases h

end LitTiles
