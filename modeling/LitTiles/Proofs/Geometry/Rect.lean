import LitTiles.Geometry.Rect
import LitTiles.Proofs.Scalar.Order

/-!
# Normalized rectangles

A finite rectangle has a normalized form whose corners are numbers in order (`inOrder_x`,
`inOrder_y`), even where a sum of coordinates is beyond all floats, and to normalize it twice
changes nothing. That two rectangles overlap is a statement about the values of these corners then
(`overlaps_iff`).
-/

namespace LitTiles

namespace Scalar

theorem isNaN_zero : (0 : Scalar).isNaN = false := by decide

theorem value_zero : (0 : Scalar).value = 0 := by decide

/-- Two numbers in order. -/
structure InOrder (lo hi : Scalar) : Prop where
  /-- The lower one is a number. -/
  lower : lo.isNaN = false
  /-- The upper one is a number. -/
  upper : hi.isNaN = false
  /-- They are in order. -/
  le : lo.value ≤ hi.value

theorem lt_zero_iff {x : Scalar} (hx : x.isNaN = false) : x < 0 ↔ x.value < 0 := by
  rw [lt_iff hx isNaN_zero, value_zero]

theorem zero_lt_iff {x : Scalar} (hx : x.isNaN = false) : 0 < x ↔ 0 < x.value := by
  rw [lt_iff isNaN_zero hx, value_zero]

end Scalar

namespace Rect

open Scalar

variable {r s : Rect} {start extent : Scalar}

/-! ## One axis -/

/-- A flipped axis starts at a number and has a finite extent that is not negative. -/
theorem flipAxis_spec (hs : start.isFinite = true) (he : extent.isFinite = true) :
    (flipAxis start extent).1.isNaN = false ∧ (flipAxis start extent).2.isFinite = true ∧
      0 ≤ (flipAxis start extent).2.value := by
  have number := isNaN_of_isFinite he
  unfold flipAxis
  split
  · rename_i hlt
    rw [lt_zero_iff number] at hlt
    refine ⟨isNaN_add hs he, ?_, ?_⟩
    · rwa [isFinite_neg]
    · rw [value_neg]
      omega
  · rename_i hge
    rw [lt_zero_iff number] at hge
    exact ⟨isNaN_of_isFinite hs, he, not_lt.mp hge⟩

/-- The two ends of an axis are in order, also where their sum overflows. -/
theorem inOrder_flipAxis (hs : start.isFinite = true) (he : extent.isFinite = true) :
    InOrder (flipAxis start extent).1 ((flipAxis start extent).1 + (flipAxis start extent).2) := by
  obtain ⟨hlower, hfinite, hnonneg⟩ := flipAxis_spec hs he
  obtain ⟨hupper, hle⟩ := le_add hlower hfinite hnonneg
  exact ⟨hlower, hupper, hle⟩

theorem flipAxis_flipAxis (hs : start.isFinite = true) (he : extent.isFinite = true) :
    flipAxis (flipAxis start extent).1 (flipAxis start extent).2 = flipAxis start extent := by
  obtain ⟨-, hfinite, hnonneg⟩ := flipAxis_spec hs he
  have stay : ¬ (flipAxis start extent).2 < 0 := by
    rw [lt_zero_iff (isNaN_of_isFinite hfinite)]
    omega
  rw [flipAxis, if_neg stay]

/-! ## Both axes -/

theorem isFinite_iff :
    r.isFinite = true ↔ (r.origin.x.isFinite = true ∧ r.origin.y.isFinite = true) ∧
      r.size.x.isFinite = true ∧ r.size.y.isFinite = true := by
  simp only [isFinite, Vec2.isFinite, Bool.and_eq_true]

theorem inOrder_x (h : r.isFinite = true) : InOrder r.normalized.lower.x r.normalized.upper.x := by
  obtain ⟨⟨hx, -⟩, hw, -⟩ := isFinite_iff.mp h
  exact inOrder_flipAxis hx hw

theorem inOrder_y (h : r.isFinite = true) : InOrder r.normalized.lower.y r.normalized.upper.y := by
  obtain ⟨⟨-, hy⟩, -, hh⟩ := isFinite_iff.mp h
  exact inOrder_flipAxis hy hh

/-- To normalize a finite rectangle twice changes nothing. -/
theorem normalized_normalized (h : r.isFinite = true) : r.normalized.normalized = r.normalized := by
  obtain ⟨⟨hx, hy⟩, hw, hh⟩ := isFinite_iff.mp h
  simp only [normalized, flipAxis_flipAxis hx hw, flipAxis_flipAxis hy hh]

theorem overlaps_normalized (hr : r.isFinite = true) (hs : s.isFinite = true) :
    r.normalized.overlaps s.normalized = r.overlaps s := by
  simp only [overlaps, normalized_normalized hr, normalized_normalized hs]

/-- Finite rectangles overlap if their corners do on both axes, edges included. -/
theorem overlaps_iff (hr : r.isFinite = true) (hs : s.isFinite = true) :
    r.overlaps s = true ↔
      (r.normalized.lower.x.value ≤ s.normalized.upper.x.value ∧
        s.normalized.lower.x.value ≤ r.normalized.upper.x.value) ∧
      r.normalized.lower.y.value ≤ s.normalized.upper.y.value ∧
        s.normalized.lower.y.value ≤ r.normalized.upper.y.value := by
  have rx := inOrder_x hr
  have ry := inOrder_y hr
  have sx := inOrder_x hs
  have sy := inOrder_y hs
  rw [← le_iff rx.lower sx.upper, ← le_iff sx.lower rx.upper, ← le_iff ry.lower sy.upper,
    ← le_iff sy.lower ry.upper]
  simp only [overlaps, Bool.and_eq_true, decide_eq_true_eq, and_assoc]
  exact Iff.rfl

end Rect

end LitTiles
