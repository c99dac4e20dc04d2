import LitTiles.Scalar
import Mathlib

/-!
# Rounding

A float that an operation answers is the float nearest to the exact result. Of all that is known
about rounding this alone is needed here (`Nearest`), because order facts follow from it: what is
nearest to a larger number is not smaller (`Nearest.mono`), and what is nearest to a number is not
below a float that the number is not below (`Nearest.le_of_le`).

Rounding shifts a mantissa to the right and remembers what falls off in two bits. What mantissa and
bits say about the exact number is `Locates`; a shift keeps it (`Locates.shiftRight`), and rounding
the last place is then off by half of it at most (`Locates.abs_sub_le`). Floats are understood
without an upper bound on the exponent here; where the format ends is a matter of packing.
-/

namespace LitTiles.Rounding

open Float.Model Float.Model.UnpackedFloat

/-! ## Floats and what is nearest to a number -/

/-- A number with 24 significant bits that end at `2 ^ -149` at the latest. -/
def Representable (v : ℚ) : Prop := ∃ m e : ℤ, |m| < 2 ^ 24 ∧ -149 ≤ e ∧ v = m * 2 ^ e

/-- No float is nearer to a number than this one. -/
structure Nearest (q r : ℚ) : Prop where
  /-- It is a float. -/
  representable : Representable r
  /-- No float is nearer. -/
  abs_le : ∀ v, Representable v → |r - q| ≤ |v - q|

variable {q q' r r' v : ℚ}

theorem representable_zero : Representable 0 := ⟨0, 0, by norm_num⟩

theorem Representable.neg (h : Representable v) : Representable (-v) := by
  obtain ⟨m, e, hm, he, rfl⟩ := h
  exact ⟨-m, e, by rwa [abs_neg], he, by push_cast; ring⟩

theorem Nearest.neg (h : Nearest q r) : Nearest (-q) (-r) := by
  refine ⟨h.representable.neg, fun v hv => ?_⟩
  have flip : ∀ a b : ℚ, |a - -b| = |-a - b| := fun a b => by rw [← abs_neg]; ring_nf
  rw [flip, flip, neg_neg]
  exact h.abs_le (-v) hv.neg

/-- A float is its own nearest one. -/
theorem Representable.nearest (h : Representable v) : Nearest v v := by
  refine ⟨h, fun w _ => ?_⟩
  rw [sub_self, abs_zero]
  exact abs_nonneg _

/-- What is nearest to a larger number is not smaller. -/
theorem Nearest.mono (h : Nearest q r) (h' : Nearest q' r') (hq : q < q') : r ≤ r' := by
  by_contra hr
  rw [not_le] at hr
  -- otherwise the two would lie on the wrong sides of the middle between their floats
  have low : |r - q| ≤ |r' - q| := h.abs_le r' h'.representable
  have high : |r' - q'| ≤ |r - q'| := h'.abs_le r h.representable
  have above : r + r' ≤ 2 * q := by
    rcases abs_cases (r - q) with ⟨h₁, _⟩ | ⟨h₁, _⟩ <;>
      rcases abs_cases (r' - q) with ⟨h₂, _⟩ | ⟨h₂, _⟩ <;> linarith
  have below : 2 * q' ≤ r + r' := by
    rcases abs_cases (r - q') with ⟨h₁, _⟩ | ⟨h₁, _⟩ <;>
      rcases abs_cases (r' - q') with ⟨h₂, _⟩ | ⟨h₂, _⟩ <;> linarith
  linarith

theorem Nearest.le_of_le (h : Nearest q r) (hv : Representable v) (hq : v ≤ q) : v ≤ r := by
  rcases hq.lt_or_eq with hlt | rfl
  · exact hv.nearest.mono h hlt
  · have close : |r - v| ≤ |v - v| := h.abs_le v hv
    rw [sub_self, abs_zero] at close
    have : r - v = 0 := abs_eq_zero.mp (le_antisymm close (abs_nonneg _))
    linarith

/-- Only a float is nearest to itself. -/
theorem Nearest.eq_of_representable (h : Nearest q r) (hq : Representable q) : r = q := by
  apply le_antisymm
  · exact neg_le_neg_iff.mp (h.neg.le_of_le hq.neg le_rfl)
  · exact h.le_of_le hq le_rfl

/-! ## Mantissas and what fell off -/

variable {em : ExtendedMantissa} {z : ℚ}

/-- What a mantissa and the two bits behind it tell about a number. -/
def Locates (em : ExtendedMantissa) (z : ℚ) : Prop :=
  match em.roundBit, em.stickyBit with
  | false, false => z = em.mantissa
  | false, true => em.mantissa < z ∧ z < em.mantissa + 1 / 2
  | true, false => z = em.mantissa + 1 / 2
  | true, true => em.mantissa + 1 / 2 < z ∧ z < em.mantissa + 1

theorem Locates.mantissa_le (h : Locates em z) : em.mantissa ≤ z := by
  obtain ⟨m, r, s⟩ := em
  cases r <;> cases s <;> simp only [Locates] at h ⊢ <;> linarith

theorem Locates.lt_mantissa_add_one (h : Locates em z) : z < em.mantissa + 1 := by
  obtain ⟨m, r, s⟩ := em
  cases r <;> cases s <;> simp only [Locates] at h ⊢ <;> linarith

/-- Half of a number is located by what a shift makes of its mantissa. -/
theorem Locates.shiftRightOne (h : Locates em z) : Locates em.shiftRightOne (z / 2) := by
  obtain ⟨m, r, s⟩ := em
  have halves : ((m % 2 : ℕ) : ℚ) + 2 * ((m / 2 : ℕ) : ℚ) = m := by
    exact_mod_cast Nat.mod_add_div m 2
  have odd : ((1 : ℕ) != 0) = true := rfl
  -- the last place becomes the first bit behind the mantissa, what was there goes into the other
  -- bit
  rcases Nat.mod_two_eq_zero_or_one m with hm | hm <;> rw [hm] at halves <;>
    cases r <;> cases s <;>
    simp only [Locates, ExtendedMantissa.shiftRightOne, hm, Nat.cast_zero, Nat.cast_one,
      bne_self_eq_false, odd, Bool.or_false, Bool.or_true] at h halves ⊢ <;>
    first | linarith | exact ⟨by linarith, by linarith⟩

theorem Locates.shiftRight (h : Locates em z) (n : ℕ) : Locates (em >>> n) (z / 2 ^ n) := by
  change Locates (n.repeat ExtendedMantissa.shiftRightOne em) (z / 2 ^ n)
  induction n with
  | zero => simpa [Nat.repeat] using h
  | succ n ih =>
    rw [pow_succ, ← div_div]
    exact ih.shiftRightOne

/-- Rounding the last place is off by half of it at most. -/
theorem Locates.abs_sub_le (h : Locates em z) : |(em.roundedMantissa : ℚ) - z| ≤ 1 / 2 := by
  obtain ⟨m, r, s⟩ := em
  have parity : ((m % 2 : ℕ) : ℚ) = 0 ∨ ((m % 2 : ℕ) : ℚ) = 1 := by
    rcases Nat.mod_two_eq_zero_or_one m with hm | hm <;> simp [hm]
  rw [abs_le]
  cases r <;> cases s <;>
    simp only [Locates, ExtendedMantissa.roundedMantissa, ExtendedMantissa.accuracy,
      Accuracy.roundToNearestEven] at h ⊢ <;>
    push_cast <;> constructor <;> rcases parity with hp | hp <;> linarith

/-! ## Rounding to a place -/

/-- No integer is nearer than the one that is at most a half away. -/
theorem abs_sub_le_of_half {y : ℚ} {r : ℤ} (hr : |(r : ℚ) - y| ≤ 1 / 2) (n : ℤ) :
    |(r : ℚ) - y| ≤ |(n : ℚ) - y| := by
  by_contra hn
  rw [not_le] at hn
  have close : |((n - r : ℤ) : ℚ)| < 1 := by
    have := abs_sub_le (n : ℚ) y r
    rw [abs_sub_comm y] at this
    push_cast
    linarith
  have same : n = r := by
    have : |n - r| < 1 := by exact_mod_cast close
    rw [abs_lt] at this
    omega
  rw [same] at hn
  exact lt_irrefl _ hn

/-- Rounding to a multiple of `2 ^ t` gives the nearest float, if the number has its 24 bits above
that place or the place is the last one of all. -/
theorem nearest_of_half {y : ℚ} {r : ℕ} {t : ℤ} (hr : |(r : ℚ) - y| ≤ 1 / 2) (hle : r ≤ 2 ^ 24)
    (ht : -149 ≤ t) (hy : t = -149 ∨ 2 ^ 23 ≤ y) : Nearest (y * 2 ^ t) (r * 2 ^ t) := by
  have pos : (0 : ℚ) < 2 ^ t := by positivity
  have scaled : ∀ a : ℚ, |a * 2 ^ t - y * 2 ^ t| = |a - y| * 2 ^ t := fun a => by
    rw [← sub_mul, abs_mul, abs_of_pos pos]
  have grid : ∀ n : ℤ, |(r : ℚ) - y| ≤ |(n : ℚ) - y| := fun n => by
    exact_mod_cast abs_sub_le_of_half (r := (r : ℤ)) (by exact_mod_cast hr) n
  constructor
  · rcases hle.lt_or_eq with hlt | rfl
    · refine ⟨r, t, ?_, ht, by push_cast; rfl⟩
      rw [Nat.abs_cast]
      exact_mod_cast hlt
    · refine ⟨2 ^ 23, t + 1, by norm_num, by omega, ?_⟩
      rw [zpow_add₀ two_ne_zero]
      push_cast
      ring
  · rintro _ ⟨m, e, hm, he, rfl⟩
    by_cases hte : t ≤ e
    · -- the other float is a multiple of the place as well
      have multiple : (m : ℚ) * 2 ^ e = ((m * 2 ^ (e - t).toNat : ℤ) : ℚ) * 2 ^ t := by
        have : (2 : ℚ) ^ e = 2 ^ (e - t).toNat * 2 ^ t := by
          rw [← zpow_natCast, ← zpow_add₀ two_ne_zero]
          congr 1
          omega
        rw [this]
        push_cast
        ring
      rw [multiple, scaled, scaled]
      exact mul_le_mul_of_nonneg_right (grid _) pos.le
    · -- the other float lies below `2 ^ 23` places, which is not above the number
      have hy' : 2 ^ 23 ≤ y := hy.resolve_left (by omega)
      have low : (m : ℚ) * 2 ^ e ≤ 2 ^ 23 * 2 ^ t := by
        have hm' : (m : ℚ) ≤ 2 ^ 24 := by exact_mod_cast (le_abs_self m).trans hm.le
        calc (m : ℚ) * 2 ^ e ≤ 2 ^ 24 * 2 ^ e := mul_le_mul_of_nonneg_right hm' (by positivity)
          _ ≤ 2 ^ 24 * 2 ^ (t - 1) :=
            mul_le_mul_of_nonneg_left (zpow_le_zpow_right₀ one_le_two (by omega)) (by positivity)
          _ = 2 ^ 23 * 2 ^ t := by
            rw [zpow_sub₀ two_ne_zero]
            ring
      have step : |(r : ℚ) - y| ≤ y - 2 ^ 23 := by
        have := grid (2 ^ 23)
        rwa [Int.cast_pow, Int.cast_ofNat, abs_sub_comm _ y, abs_sub_comm _ y,
          abs_of_nonneg (sub_nonneg.mpr hy'), abs_sub_comm y] at this
      rw [scaled]
      calc |(r : ℚ) - y| * 2 ^ t ≤ (y - 2 ^ 23) * 2 ^ t := mul_le_mul_of_nonneg_right step pos.le
        _ ≤ y * 2 ^ t - m * 2 ^ e := by linarith
        _ ≤ |m * 2 ^ e - y * 2 ^ t| := by
          rw [abs_sub_comm]
          exact le_abs_self _

/-! ## Floats with their parts apart -/

/-- A number under a sign. -/
def signed (s : Sign) (q : ℚ) : ℚ :=
  match s with
  | .negative => -q
  | .positive => q

/-- The number that a float stands for. Infinities stand for the first numbers that are out of
reach. -/
def amount : UnpackedFloat → ℚ
  | .infinity s => signed s (2 ^ 128)
  | .notANumber => 0
  | .zero _ => 0
  | .finite s m e _ => signed s (m * 2 ^ e)

/-- The mantissa is as long as it can be. -/
def Canonical : UnpackedFloat → Prop
  | .finite _ m e _ => m < 2 ^ 24 ∧ -149 ≤ e ∧ (e = -149 ∨ 2 ^ 23 ≤ m)
  | _ => True

/-- A float is the result of rounding a number. -/
structure Rounded (q : ℚ) (u : UnpackedFloat) : Prop where
  /-- It is a number. -/
  isFinite : u.isFinite = true
  /-- Its mantissa is as long as it can be. -/
  canonical : Canonical u
  /-- No float is nearer to the number. -/
  nearest : Nearest q (amount u)

theorem Rounded.isNaN {u : UnpackedFloat} (h : Rounded q u) : u.isNaN = false := by
  have number := h.isFinite
  cases u with
  | notANumber => cases number
  | _ => rfl

theorem Nearest.signed (h : Nearest q r) (s : Sign) :
    Nearest (Rounding.signed s q) (Rounding.signed s r) := by
  cases s with
  | negative => exact h.neg
  | positive => exact h

theorem targetExponent_eq (t : ℤ) : Format.binary32.targetExponent t = max (t - 24) (-149) := rfl

/-- Nothing falls off a mantissa that has no more than 24 bits. -/
theorem shiftToTargetExponent_of_lt {m : ℕ} {e : ℤ} (hm : m < 2 ^ 24) (he : -149 ≤ e) :
    shiftToTargetExponent Format.binary32 m e .exact = (⟨m, false, false⟩, e) := by
  have bits : m.log2 < 24 := by
    rcases Nat.eq_zero_or_pos m with rfl | hpos
    · simp
    · exact (Nat.log2_lt hpos.ne').mpr hm
  have stay : (Format.binary32.targetExponent (totalExponent m e) - e).toNat = 0 := by
    rw [targetExponent_eq, totalExponent]
    omega
  simp only [shiftToTargetExponent, shiftToExponent, stay]
  exact Prod.ext rfl (by simp)

/-- A mantissa that was rounded up to its 25th bit is halved. -/
theorem shiftToTargetExponent_full {e : ℤ} (he : -149 ≤ e) :
    shiftToTargetExponent Format.binary32 (2 ^ 24) e .exact = (⟨2 ^ 23, false, false⟩, e + 1) := by
  have one : (Format.binary32.targetExponent (totalExponent (2 ^ 24) e) - e).toNat = 1 := by
    rw [targetExponent_eq, totalExponent, Nat.log2_two_pow]
    omega
  simp only [shiftToTargetExponent, shiftToExponent, one]
  exact Prod.ext rfl (by simp)

/-- The second shift of rounding only takes up a 25th bit. -/
theorem roundWithAccuracy_eq (s : Sign) {m : ℕ} {e t : ℤ} {a : Accuracy} {em : ExtendedMantissa}
    (hf : shiftToTargetExponent Format.binary32 m e a = (em, t)) (ht : -149 ≤ t)
    (hr : em.roundedMantissa ≤ 2 ^ 24) :
    roundWithAccuracy Format.binary32 s m e a =
      if h : em.roundedMantissa = 0 then .zero s
      else if em.roundedMantissa < 2 ^ 24 then .finite s em.roundedMantissa t (Nat.pos_of_ne_zero h)
      else .finite s (2 ^ 23) (t + 1) (by decide) := by
  rw [roundWithAccuracy, hf]
  rcases hr.lt_or_eq with hlt | heq
  · simp only [shiftToTargetExponent_of_lt hlt ht, if_pos hlt]
  · simp only [heq, shiftToTargetExponent_full ht, lt_irrefl, if_false]
    rfl

/-- In units of the place that is rounded to, a number has 24 bits before the point, or the place is
the last one of all. -/
theorem div_two_pow_bounds {m k : ℕ} {e : ℤ} {z : ℚ} (lower : (m : ℚ) ≤ z) (upper : z < m + 1)
    (hk : e + k = max (totalExponent m e - 24) (-149)) :
    z / 2 ^ k < 2 ^ 24 ∧ (e + k = -149 ∨ 2 ^ 23 ≤ z / 2 ^ k) := by
  rw [totalExponent] at hk
  constructor
  · rw [div_lt_iff₀ (by positivity), ← pow_add]
    have bits : m + 1 ≤ 2 ^ (24 + k) :=
      Nat.lt_log2_self.trans_le (Nat.pow_le_pow_right two_pos (by omega))
    have : (m : ℚ) + 1 ≤ 2 ^ (24 + k) := by exact_mod_cast bits
    linarith
  · refine or_iff_not_imp_left.mpr fun last => ?_
    rw [le_div_iff₀ (by positivity), ← pow_add]
    have bits : m.log2 = 23 + k := by omega
    have hm : m ≠ 0 := by
      rintro rfl
      rw [Nat.log2_zero] at bits
      omega
    have : (2 ^ (23 + k) : ℚ) ≤ m := by exact_mod_cast bits ▸ Nat.log2_self_le hm
    linarith

/-- An integer at most a half away from such a number has no more than 24 bits, or is the first with
25. -/
theorem bounds_of_half {y : ℚ} {r : ℕ} {t : ℤ} (hr : |(r : ℚ) - y| ≤ 1 / 2) (short : y < 2 ^ 24)
    (long : t = -149 ∨ 2 ^ 23 ≤ y) : r ≤ 2 ^ 24 ∧ (t = -149 ∨ 2 ^ 23 ≤ r) := by
  obtain ⟨below, above⟩ := abs_le.mp hr
  constructor
  · have : (r : ℚ) < 2 ^ 24 + 1 := by linarith
    exact Nat.lt_succ_iff.mp (by exact_mod_cast this)
  · refine long.imp_right fun hy => ?_
    have : (2 ^ 23 : ℚ) < r + 1 := by linarith
    exact Nat.lt_succ_iff.mp (by exact_mod_cast this)

/-- What the rounded mantissa becomes is the result of rounding. -/
theorem rounded_of_nearest (s : Sign) {r : ℕ} {t : ℤ} (hr : r ≤ 2 ^ 24) (ht : -149 ≤ t)
    (normal : t = -149 ∨ 2 ^ 23 ≤ r) (nearest : Nearest q (signed s (r * 2 ^ t))) :
    Rounded q (if h : r = 0 then .zero s
      else if r < 2 ^ 24 then .finite s r t (Nat.pos_of_ne_zero h)
      else .finite s (2 ^ 23) (t + 1) (by decide)) := by
  split
  · -- everything fell off
    rename_i hzero
    refine ⟨rfl, trivial, ?_⟩
    have nothing : signed s (r * 2 ^ t) = 0 := by cases s <;> simp [signed, hzero]
    rwa [nothing] at nearest
  · split
    · rename_i hlt
      exact ⟨rfl, ⟨hlt, ht, normal⟩, nearest⟩
    · rename_i hlt
      obtain rfl : r = 2 ^ 24 := by omega
      refine ⟨rfl, ⟨by norm_num, by omega, .inr le_rfl⟩, ?_⟩
      have halved : (2 ^ 24 : ℕ) * (2 : ℚ) ^ t = (2 ^ 23 : ℕ) * 2 ^ (t + 1) := by
        rw [zpow_add_one₀ two_ne_zero]
        push_cast
        ring
      rwa [halved] at nearest

/-- **Rounding gives the nearest float.** -/
theorem rounded_roundWithAccuracy (s : Sign) {m : ℕ} {e : ℤ} {a : Accuracy} {z : ℚ}
    (hz : Locates (.ofMantissaAndAccuracy m a) z) (he : e ≤ max (totalExponent m e - 24) (-149)) :
    Rounded (signed s (z * 2 ^ e)) (roundWithAccuracy Format.binary32 s m e a) := by
  -- the number in units of the place that is rounded to
  obtain ⟨t, htdef⟩ : ∃ t, t = max (totalExponent m e - 24) (-149) := ⟨_, rfl⟩
  rw [← htdef] at he
  obtain ⟨k, rfl⟩ : ∃ k : ℕ, t = e + k := ⟨(t - e).toNat, by omega⟩
  obtain ⟨em, hem⟩ : ∃ em, em = ExtendedMantissa.ofMantissaAndAccuracy m a >>> k := ⟨_, rfl⟩
  have first : shiftToTargetExponent Format.binary32 m e a = (em, e + k) := by
    simp only [shiftToTargetExponent, shiftToExponent, targetExponent_eq, ← htdef,
      add_sub_cancel_left, Int.toNat_natCast, hem]
  have located : Locates em (z / 2 ^ k) := hem ▸ hz.shiftRight k
  have place : z * 2 ^ e = z / 2 ^ k * 2 ^ (e + k : ℤ) := by
    rw [zpow_add₀ two_ne_zero, zpow_natCast]
    field_simp
  have mantissa : (ExtendedMantissa.ofMantissaAndAccuracy m a).mantissa = m := by
    cases a with
    | exact => rfl
    | inexact o => cases o <;> rfl
  have lower : (m : ℚ) ≤ z := by simpa only [mantissa] using hz.mantissa_le
  have upper : z < m + 1 := by simpa only [mantissa] using hz.lt_mantissa_add_one
  have last : -149 ≤ e + k := by omega
  have half := located.abs_sub_le
  obtain ⟨short, long⟩ := div_two_pow_bounds lower upper htdef
  obtain ⟨full, normal⟩ := bounds_of_half half short long
  have nearest : Nearest (signed s (z * 2 ^ e))
      (signed s (em.roundedMantissa * 2 ^ (e + k : ℤ))) := by
    rw [place]
    exact (nearest_of_half half full last long).signed s
  rw [roundWithAccuracy_eq s first last full]
  exact rounded_of_nearest s full last normal nearest

end LitTiles.Rounding
