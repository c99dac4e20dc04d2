import LitTiles.Proofs.Scalar.Packing

/-!
# Sums and quotients of floats

The sum of two finite floats is the exact sum rounded (`rounded_add`), and so is the quotient by a
positive finite float (`rounded_div`). Both prepare a mantissa with an exponent that is not above
the one that rounding aims at: a sum by lowering exponents, a quotient by dividing with enough bits.
-/

namespace LitTiles.Rounding

open Float.Model Float.Model.UnpackedFloat

variable {u w : UnpackedFloat} {s : Sign} {m : ℕ} {e t : ℤ}

/-! ## Lowering exponents -/

theorem log2_shiftLeft (hm : m ≠ 0) (k : ℕ) : (m <<< k).log2 = m.log2 + k := by
  rw [Nat.shiftLeft_eq]
  have hk : m * 2 ^ k ≠ 0 := by positivity
  rw [Nat.log2_eq_iff hk, pow_add, Nat.add_right_comm, pow_add]
  exact ⟨Nat.mul_le_mul_right _ (Nat.log2_self_le hm),
    Nat.mul_lt_mul_of_pos_right Nat.lt_log2_self (by positivity)⟩

theorem decreaseExponent_of_le (h : t ≤ e) : (decreaseExponent m e t).2 = t := by
  simp only [decreaseExponent]
  omega

/-- A lower exponent makes a longer mantissa of the same amount. -/
theorem decreaseExponent_amount (m : ℕ) (e t : ℤ) :
    ((decreaseExponent m e t).1 : ℚ) * 2 ^ (decreaseExponent m e t).2 = m * 2 ^ e := by
  simp only [decreaseExponent, Nat.shiftLeft_eq]
  rw [zpow_sub₀ two_ne_zero, zpow_natCast]
  push_cast
  field_simp

theorem rounded_round (s : Sign) (hm : 0 < m) (e : ℤ) :
    Rounded (signed s (m * 2 ^ e)) (UnpackedFloat.round Format.binary32 s m e) := by
  simp only [UnpackedFloat.round]
  rw [← decreaseExponent_amount m e (Format.binary32.targetExponent (totalExponent m e))]
  have exact : ∀ n : ℕ, Locates (.ofMantissaAndAccuracy n .exact) n := fun n => rfl
  refine rounded_roundWithAccuracy s (exact _) ?_
  simp only [decreaseExponent, targetExponent_eq, totalExponent, log2_shiftLeft hm.ne']
  omega

theorem rounded_normalize (n : ℤ) (e : ℤ) (z : Sign) :
    Rounded (n * 2 ^ e) (UnpackedFloat.normalize Format.binary32 n e z) := by
  unfold UnpackedFloat.normalize
  rcases lt_trichotomy n 0 with hn | rfl | hn
  · rw [compare_lt_iff_lt.mpr hn]
    have same : (n : ℚ) * 2 ^ e = signed .negative ((-n).toNat * 2 ^ e) := by
      have : (((-n).toNat : ℤ) : ℚ) = -n := by rw [Int.toNat_of_nonneg (by omega)]; push_cast; rfl
      rw [signed, ← Int.cast_natCast, this]
      ring
    rw [same]
    exact rounded_round .negative (by omega) e
  · rw [compare_eq_iff_eq.mpr rfl]
    refine ⟨rfl, trivial, ?_⟩
    simpa [amount] using representable_zero.nearest
  · rw [compare_gt_iff_gt.mpr hn]
    have same : (n : ℚ) * 2 ^ e = signed .positive (n.toNat * 2 ^ e) := by
      have : ((n.toNat : ℤ) : ℚ) = n := by rw [Int.toNat_of_nonneg (by omega)]
      rw [signed, ← Int.cast_natCast, this]
    rw [same]
    exact rounded_round .positive (by omega) e

/-! ## Sums -/

theorem rounded_self (hc : Canonical u) (hn : u.isFinite = true) : Rounded (amount u) u :=
  ⟨hn, hc, (representable_amount hc hn).nearest⟩

theorem signed_eq_apply (s : Sign) (n : ℕ) (q : ℚ) : signed s (n * q) = (s.apply n : ℤ) * q := by
  cases s with
  | negative => simp [signed, Sign.apply]
  | positive => simp [signed, Sign.apply]

/-- **The sum of two finite floats is the exact sum rounded.** -/
theorem rounded_add (hc : Canonical u) (hc' : Canonical w) (hu : u.isFinite = true)
    (hw : w.isFinite = true) :
    Rounded (amount u + amount w) (UnpackedFloat.add Format.binary32 u w) := by
  cases u with
  | infinity s => cases hu
  | notANumber => cases hu
  | zero s =>
    rw [show amount (.zero s) = 0 from rfl, zero_add]
    cases w with
    | infinity s' => cases hw
    | notANumber => cases hw
    | zero s' =>
      simp only [UnpackedFloat.add]
      split
      · exact rounded_self (u := .zero s) trivial rfl
      · exact rounded_self (u := .zero .positive) trivial rfl
    | finite s' m' e' h' => exact rounded_self hc' hw
  | finite s m e h =>
    cases w with
    | infinity s' => cases hw
    | notANumber => cases hw
    | zero s' =>
      rw [show amount (.zero s') = 0 from rfl, add_zero]
      exact rounded_self hc hu
    | finite s' m' e' h' =>
      -- both summands are brought to the smaller exponent, where they add up as integers
      have left := decreaseExponent_amount m e (min e e')
      have right := decreaseExponent_amount m' e' (min e e')
      rw [decreaseExponent_of_le (min_le_left e e')] at left
      rw [decreaseExponent_of_le (min_le_right e e')] at right
      rw [amount, amount, ← left, ← right, signed_eq_apply, signed_eq_apply,
        ← add_mul, ← Int.cast_add]
      exact rounded_normalize _ _ _

/-! ## Quotients -/

/-- The remainder of a division tells what falls off the quotient. -/
theorem locates_div (m : ℕ) {n : ℕ} (hn : 0 < n) :
    Locates (.ofMantissaAndAccuracy (m / n) (accuracyOfFraction (m % n) n)) (m / n) := by
  have pos : (0 : ℚ) < n := by exact_mod_cast hn
  have split : (m : ℚ) / n = (m / n : ℕ) + (m % n : ℕ) / n := by
    have : (m : ℚ) = n * (m / n : ℕ) + (m % n : ℕ) := by exact_mod_cast (Nat.div_add_mod m n).symm
    rw [this]
    field_simp
  have below : ((m % n : ℕ) : ℚ) / n < 1 := by
    rw [div_lt_one pos]
    exact_mod_cast Nat.mod_lt m hn
  rw [split]
  unfold accuracyOfFraction
  by_cases hz : m % n = 0
  · rw [if_pos hz, hz]
    simp [Locates, ExtendedMantissa.ofMantissaAndAccuracy]
  · rw [if_neg hz]
    have above : (0 : ℚ) < (m % n : ℕ) / n := div_pos (by exact_mod_cast Nat.pos_of_ne_zero hz) pos
    -- how the remainder compares with half of the divisor
    rcases lt_trichotomy (2 * (m % n)) n with h | h | h
    · have half : ((m % n : ℕ) : ℚ) / n < 1 / 2 := by
        rw [div_lt_div_iff₀ pos two_pos]
        exact_mod_cast (by omega : m % n * 2 < 1 * n)
      rw [compare_lt_iff_lt.mpr h]
      change ((m / n : ℕ) : ℚ) < _ ∧ _ < ((m / n : ℕ) : ℚ) + 1 / 2
      constructor <;> linarith
    · have half : ((m % n : ℕ) : ℚ) / n = 1 / 2 := by
        rw [div_eq_div_iff pos.ne' two_ne_zero]
        exact_mod_cast (by omega : m % n * 2 = 1 * n)
      rw [compare_eq_iff_eq.mpr h, half]
      rfl
    · have half : 1 / 2 < ((m % n : ℕ) : ℚ) / n := by
        rw [div_lt_div_iff₀ two_pos pos]
        exact_mod_cast (by omega : 1 * n < m % n * 2)
      rw [compare_gt_iff_gt.mpr h]
      change ((m / n : ℕ) : ℚ) + 1 / 2 < _ ∧ _ < ((m / n : ℕ) : ℚ) + 1
      constructor <;> linarith

/-- A quotient has as many bits as the dividend has more than the divisor, or one less. -/
theorem le_log2_div {m n k : ℕ} (hn : 0 < n) (hm : m ≠ 0) (h : k + n.log2 < m.log2) :
    k ≤ (m / n).log2 := by
  have least : 2 ^ k ≤ m / n := by
    rw [Nat.le_div_iff_mul_le hn]
    calc 2 ^ k * n ≤ 2 ^ k * 2 ^ (n.log2 + 1) := Nat.mul_le_mul_left _ Nat.lt_log2_self.le
      _ = 2 ^ (k + (n.log2 + 1)) := (pow_add _ _ _).symm
      _ ≤ 2 ^ m.log2 := Nat.pow_le_pow_right two_pos (by omega)
      _ ≤ m := Nat.log2_self_le hm
  exact (Nat.le_log2 (Nat.two_pow_pos k |>.trans_le least).ne').mpr least

/-- The dividend may get more bits, in units that are as much smaller. -/
theorem signed_div_eq (s : Sign) {m n : ℕ} {e f t : ℤ} (hn : n ≠ 0) (ht : t ≤ e - f) :
    signed s (m * 2 ^ e) / (n * 2 ^ f) = signed s ((m <<< (e - f - t).toNat : ℕ) / n * 2 ^ t) := by
  have place : (2 : ℚ) ^ (e - f - t).toNat * 2 ^ t * 2 ^ f = 2 ^ e := by
    rw [← zpow_natCast, ← zpow_add₀ two_ne_zero, ← zpow_add₀ two_ne_zero]
    congr 1
    omega
  have pos : (n : ℚ) ≠ 0 := by exact_mod_cast hn
  have magnitudes : (m * 2 ^ e : ℚ) / (n * 2 ^ f) = (m <<< (e - f - t).toNat : ℕ) / n * 2 ^ t := by
    rw [Nat.shiftLeft_eq, ← place]
    push_cast
    field_simp
  cases s with
  | negative => rw [signed, signed, neg_div, magnitudes]
  | positive => exact magnitudes

/-- As many bits as `UnpackedFloat.div` gives the dividend are enough to round the quotient. -/
theorem enough_bits {m n : ℕ} {e f t : ℤ} (hm : 0 < m) (hn : 0 < n)
    (ht : t = min (e - f)
      (Format.binary32.targetExponent (totalExponent m e - totalExponent n f))) :
    t ≤ max (totalExponent (m <<< (e - f - t).toNat / n) t - 24) (-149) := by
  rw [targetExponent_eq, totalExponent, totalExponent] at ht
  rw [totalExponent]
  by_cases hmin : t ≤ -149
  · omega
  · have enough : 23 ≤ (m <<< (e - f - t).toNat / n).log2 := by
      apply le_log2_div hn
      · rw [Nat.shiftLeft_eq]
        positivity
      · rw [log2_shiftLeft hm.ne']
        omega
    omega

/-- **The quotient of a finite float by a positive one is the exact quotient rounded.** -/
theorem rounded_div (hu : u.isFinite = true) (hw : w.isFinite = true) (hpos : 0 < amount w) :
    Rounded (amount u / amount w) (UnpackedFloat.div Format.binary32 u w) := by
  cases w with
  | infinity s' => cases hw
  | notANumber => cases hw
  | zero s' => exact absurd hpos (lt_irrefl 0)
  | finite s' n f hn =>
    obtain rfl : s' = .positive := by
      cases s' with
      | negative => exact absurd hpos (by simp only [amount, signed, neg_pos, not_lt]; positivity)
      | positive => rfl
    cases u with
    | infinity s => cases hu
    | notANumber => cases hu
    | zero s =>
      rw [show amount (.zero s) = 0 from rfl, zero_div]
      exact rounded_self (u := .zero (s / .positive)) trivial rfl
    | finite s m e hm =>
      -- the dividend gets bits until the quotient has enough
      obtain ⟨t, ht⟩ : ∃ t, t = min (e - f) (Format.binary32.targetExponent
        (totalExponent m e - totalExponent n f)) := ⟨_, rfl⟩
      obtain ⟨k, hk⟩ : ∃ k, k = (e - f - t).toNat := ⟨_, rfl⟩
      have unfolded : UnpackedFloat.div Format.binary32 (.finite s m e hm)
          (.finite .positive n f hn) =
          roundWithAccuracy Format.binary32 s (m <<< k / n) t
          (accuracyOfFraction (m <<< k % n) n) := by
        rw [hk, ht]
        cases s <;> rfl
      have quotient : amount (.finite s m e hm) / amount (.finite .positive n f hn) =
          signed s (((m <<< k : ℕ) : ℚ) / n * 2 ^ t) :=
        hk ▸ signed_div_eq s hn.ne' (ht ▸ min_le_left _ _)
      rw [unfolded, quotient]
      exact rounded_roundWithAccuracy s (locates_div _ hn) (hk ▸ enough_bits hm hn ht)

/-- Floats of the same amount are the same, but for the sign of zero. -/
theorem eq_of_amount_eq (hc : Canonical u) (hc' : Canonical w) (hu : u.isFinite = true)
    (hw : w.isFinite = true) (h : amount u = amount w) (h0 : amount u ≠ 0) : u = w := by
  cases u with
  | infinity s => cases hu
  | notANumber => cases hu
  | zero s => exact absurd rfl h0
  | finite s m e hm =>
    cases w with
    | infinity s' => cases hw
    | notANumber => cases hw
    | zero s' => exact absurd h h0
    | finite s' n f hn =>
      have pos : (0 : ℚ) < m * 2 ^ e := by positivity
      have pos' : (0 : ℚ) < n * 2 ^ f := by positivity
      have magnitudes : (m * 2 ^ e : ℚ) = n * 2 ^ f := by
        rw [← abs_amount_finite (s := s) (h := hm), h, abs_amount_finite]
      have parts := compare_mul_zpow hc hc'
      rw [compare_eq_iff_eq.mpr magnitudes, Ordering.then_eq_eq, compare_eq_iff_eq,
        compare_eq_iff_eq] at parts
      obtain ⟨rfl, rfl⟩ := parts
      -- the same number under two signs would be zero
      cases s <;> cases s' <;> simp only [amount, signed] at h ⊢
      · exfalso
        linarith
      · exfalso
        linarith

end LitTiles.Rounding
