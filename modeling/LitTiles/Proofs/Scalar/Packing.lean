import LitTiles.Proofs.Scalar.Rounding

/-!
# Words of floats

A word holds a sign, an exponent field and a fraction (`assemble`). What is read from a word has a
mantissa as long as it can be and an exponent within the format (`canonical_unpack`, `fits_unpack`),
and what is written can be read again, but for numbers beyond the format, which become infinite.
Since infinities stand for the first numbers out of reach, writing a float clamps its amount
(`amount_stored`).

Comparing two floats part by part compares their amounts (`compare_eq`).
-/

namespace LitTiles.Rounding

open Float.Model Float.Model.UnpackedFloat

/-! ## The fields of a word -/

/-- The float whose word has a sign, an exponent field and a fraction. -/
def assemble (s : Sign) (e m : ℕ) : UnpackedFloat :=
  if e = 255 then if m = 0 then .infinity s else .notANumber
  else if e = 0 then if h : m = 0 then .zero s else .finite s m (-149) (Nat.pos_of_ne_zero h)
  else .finite s (2 ^ 23 + m) (e - 150) (by omega)

/-- The implicit bit in front of a fraction adds 2²³. -/
theorem toNat_one_append (m : BitVec 23) : (1#1 ++ m).toNat = 2 ^ 23 + m.toNat := by
  rw [BitVec.toNat_append, ← Nat.shiftLeft_add_eq_or_of_lt m.isLt]
  rfl

/-- Reading a word is assembling its three fields. The core library reads them by cases, which come
together here. -/
theorem unpack_eq (b : BitVec Format.binary32.numBits) :
    UnpackedFloat.unpack Format.binary32 b =
      assemble (Sign.ofBitVec (unpackSign b))
      (unpackExponent b).toNat (unpackMantissa b).toNat := by
  have full : ∀ v : BitVec 8, v = -1#8 ↔ v.toNat = 255 := fun v => by
    rw [← BitVec.toNat_inj]
    rfl
  have none : ∀ {n} (v : BitVec n), v = 0#n ↔ v.toNat = 0 := fun v => by
    rw [← BitVec.toNat_inj]
    simp
  unfold UnpackedFloat.unpack assemble
  simp only [full, none]
  split_ifs with h₁ h₂ h₃ h₄
  · rfl
  · rfl
  · rfl
  · simp [h₃]
    rfl
  · simp only [toNat_one_append]
    rfl

/-- The sign of a packed word is the one that was packed. -/
theorem ofBitVec_unpackSign_packComponents (s : Sign) (e : BitVec 8) (m : BitVec 23) :
    Sign.ofBitVec (unpackSign (packComponents Format.binary32 s e m)) = s := by
  simp only [unpackSign, packComponents, BitVec.extractLsb]
  rw [BitVec.extractLsb'_append_eq_of_le (by omega), BitVec.extractLsb'_append_eq_of_le (by omega)]
  cases s <;> rfl

/-- What is packed from three fields is read as they assemble. -/
theorem unpack_packComponents (s : Sign) (e : BitVec 8) (m : BitVec 23) :
    UnpackedFloat.unpack Format.binary32 (packComponents Format.binary32 s e m) =
      assemble s e.toNat m.toNat := by
  rw [unpack_eq, ofBitVec_unpackSign_packComponents, unpackExponent_packComponents,
    unpackMantissa_packComponents]

/-! ## Floats of the format -/

/-- The exponent is one of the format. -/
def Fits : UnpackedFloat → Prop
  | .finite _ _ e _ => e ≤ 104
  | _ => True

variable {u w : UnpackedFloat} {s : Sign} {m : ℕ} {e : ℤ} {q : ℚ}

/-- An assembled mantissa is as long as it can be, by the implicit bit or by an exponent that is the
lowest. -/
theorem canonical_assemble (s : Sign) (e : ℕ) {m : ℕ} (hm : m < 2 ^ 23) :
    Canonical (assemble s e m) := by
  unfold assemble
  split_ifs
  · trivial
  · trivial
  · trivial
  · exact ⟨by omega, le_rfl, .inl rfl⟩
  · exact ⟨by omega, by omega, .inr (by omega)⟩

/-- An exponent field of 8 bits is within the format. -/
theorem fits_assemble (s : Sign) {e : ℕ} (m : ℕ) (he : e < 2 ^ 8) : Fits (assemble s e m) := by
  unfold assemble
  split_ifs
  · trivial
  · trivial
  · trivial
  · exact (by decide : (-149 : ℤ) ≤ 104)
  · exact (by omega : (e : ℤ) - 150 ≤ 104)

/-- What is read from a word has a mantissa as long as it can be. -/
theorem canonical_unpack (b : BitVec Format.binary32.numBits) :
    Canonical (UnpackedFloat.unpack Format.binary32 b) := by
  rw [unpack_eq]
  exact canonical_assemble _ _ (unpackMantissa b).isLt

/-- What is read from a word is within the format. -/
theorem fits_unpack (b : BitVec Format.binary32.numBits) :
    Fits (UnpackedFloat.unpack Format.binary32 b) := by
  rw [unpack_eq]
  exact fits_assemble _ _ (unpackExponent b).isLt

/-- What becomes of a float when it is written into a word and read again. -/
def stored (u : UnpackedFloat) : UnpackedFloat :=
  UnpackedFloat.unpack Format.binary32 (UnpackedFloat.pack Format.binary32 u)

/-- A NaN is stored as one. -/
theorem stored_notANumber : stored .notANumber = .notANumber := rfl

/-- An infinity is stored as itself. -/
theorem stored_infinity (s : Sign) : stored (.infinity s) = .infinity s := by
  cases s <;> rfl

theorem stored_zero (s : Sign) : stored (.zero s) = .zero s := by
  cases s <;> rfl

/-- Floats of the format are kept. -/
theorem stored_of_le {h : 0 < m} (hc : Canonical (.finite s m e h)) (he : e ≤ 104) :
    stored (.finite s m e h) = .finite s m e h := by
  obtain ⟨hm, hlo, hn⟩ := hc
  have biased :
      (e + Format.binary32.exponentBias + Format.binary32.mantissaBitsWithoutImplicit : ℤ) =
      e + 150 := by
    change e + 127 + 23 = e + 150
    omega
  -- the exponent field has room for the biased exponent
  have room : ¬ 2 ^ 8 ≤ (e + 150).toNat + 1 := by omega
  unfold stored UnpackedFloat.pack
  simp only [biased, room, if_false]
  -- a normal number has all its bits, a subnormal one the smallest exponent
  by_cases hnormal : 2 ^ 23 ≤ m
  · have bits : m.log2 + 1 = Format.binary32.mantissaBits := by
      change m.log2 + 1 = 24
      have := (Nat.le_log2 h.ne').mpr hnormal
      have := (Nat.log2_lt h.ne').mpr hm
      omega
    rw [if_pos bits, unpack_packComponents, assemble, BitVec.toNat_ofNat, BitVec.toNat_ofNat,
      Nat.mod_eq_of_lt (show (e + 150).toNat < 2 ^ 8 by omega), if_neg (by omega),
      if_neg (by omega)]
    congr 1 <;> omega
  · obtain rfl : e = -149 := hn.resolve_right hnormal
    have bits : ¬ m.log2 + 1 = Format.binary32.mantissaBits := by
      change ¬ m.log2 + 1 = 24
      have := (Nat.log2_lt h.ne').mpr (not_le.mp hnormal)
      omega
    rw [if_neg bits, unpack_packComponents, assemble, BitVec.toNat_ofNat, BitVec.toNat_ofNat,
      Nat.mod_eq_of_lt (show m < 2 ^ 23 by omega), if_neg (by decide),
      if_pos (by decide), dif_neg h.ne']

/-- Numbers beyond the format become infinite. -/
theorem stored_of_lt {h : 0 < m} (he : 104 < e) : stored (.finite s m e h) = .infinity s := by
  have biased :
      (e + Format.binary32.exponentBias + Format.binary32.mantissaBitsWithoutImplicit : ℤ) =
      e + 150 := by
    change e + 127 + 23 = e + 150
    omega
  have room : 2 ^ 8 ≤ (e + 150).toNat + 1 := by omega
  rw [← stored_infinity s]
  unfold stored UnpackedFloat.pack
  simp only [biased, room, if_true]

/-- What was read from a word is stored without loss. -/
theorem stored_unpack (b : BitVec Format.binary32.numBits) :
    stored (UnpackedFloat.unpack Format.binary32 b) = UnpackedFloat.unpack Format.binary32 b := by
  have hc := canonical_unpack b
  have hf := fits_unpack b
  cases hu : UnpackedFloat.unpack Format.binary32 b with
  | infinity s => exact stored_infinity s
  | notANumber => rfl
  | zero s => exact stored_zero s
  | finite s m e h =>
    rw [hu] at hc hf
    exact stored_of_le hc hf

/-- Storing makes no NaN and loses none, even where it overflows. -/
theorem isNaN_stored (hc : Canonical u) : (stored u).isNaN = u.isNaN := by
  cases u with
  | infinity s => rw [stored_infinity]
  | notANumber => rfl
  | zero s => rw [stored_zero]
  | finite s m e h =>
    rcases le_or_gt e 104 with he | he
    · rw [stored_of_le hc he]
    · rw [stored_of_lt he]
      rfl

/-! ## Amounts -/

/-- The amounts that words can hold. -/
def clamp (q : ℚ) : ℚ := max (-2 ^ 128) (min q (2 ^ 128))

/-- Clamping is monotone, so that overflow respects the order. -/
theorem clamp_mono {q q' : ℚ} (h : q ≤ q') : clamp q ≤ clamp q' :=
  max_le_max le_rfl (min_le_min h le_rfl)

/-- Amounts within the format are not changed by clamping. -/
theorem clamp_of_abs_le (h : |q| ≤ 2 ^ 128) : clamp q = q := by
  obtain ⟨hlo, hhi⟩ := abs_le.mp h
  rw [clamp, min_eq_left hhi, max_eq_right hlo]

theorem neg_le_clamp (q : ℚ) : -2 ^ 128 ≤ clamp q := le_max_left _ _

theorem clamp_le (q : ℚ) : clamp q ≤ 2 ^ 128 := max_le (by norm_num) (min_le_right _ _)

theorem abs_signed (s : Sign) (q : ℚ) : |signed s q| = |q| := by
  cases s with
  | negative => exact abs_neg q
  | positive => rfl

/-- The size of a finite amount is its mantissa, scaled by the exponent. -/
theorem abs_amount_finite {h : 0 < m} : |amount (.finite s m e h)| = m * 2 ^ e := by
  rw [amount, abs_signed, abs_of_nonneg (by positivity)]

/-- Finite floats of the format stay below the amount of an infinity. -/
theorem abs_amount_lt {h : 0 < m} (hc : Canonical (.finite s m e h)) (he : e ≤ 104) :
    |amount (.finite s m e h)| < 2 ^ 128 := by
  have hm : (m : ℚ) < 2 ^ 24 := by exact_mod_cast hc.1
  rw [abs_amount_finite]
  calc (m : ℚ) * 2 ^ e < 2 ^ 24 * 2 ^ e := mul_lt_mul_of_pos_right hm (by positivity)
    _ ≤ 2 ^ 24 * 2 ^ (104 : ℤ) :=
      mul_le_mul_of_nonneg_left (zpow_le_zpow_right₀ one_le_two he) (by positivity)
    _ = 2 ^ 128 := by norm_num

/-- No float of the format is larger than an infinity. -/
theorem abs_amount_le (hc : Canonical u) (hf : Fits u) : |amount u| ≤ 2 ^ 128 := by
  cases u with
  | infinity s => rw [amount, abs_signed, abs_of_nonneg (by positivity)]
  | notANumber => rw [amount, abs_zero]; positivity
  | zero s => rw [amount, abs_zero]; positivity
  | finite s m e h => exact (abs_amount_lt hc hf).le

/-- Writing a float clamps its amount. -/
theorem amount_stored (hc : Canonical u) : amount (stored u) = clamp (amount u) := by
  cases u with
  | infinity s => rw [stored_infinity, clamp_of_abs_le (abs_amount_le hc trivial)]
  | notANumber => rw [stored_notANumber, clamp_of_abs_le (abs_amount_le hc trivial)]
  | zero s => rw [stored_zero, clamp_of_abs_le (abs_amount_le hc trivial)]
  | finite s m e h =>
    rcases le_or_gt e 104 with he | he
    · rw [stored_of_le hc he, clamp_of_abs_le (abs_amount_le hc he)]
    -- a larger exponent puts the number past the range, where it is clamped
    · have big : (2 : ℚ) ^ 128 ≤ m * 2 ^ e := by
        have hm : (2 ^ 23 : ℚ) ≤ m := by exact_mod_cast hc.2.2.resolve_left (by omega)
        calc (2 : ℚ) ^ 128 = (2 ^ 23 * 2 ^ (105 : ℤ) : ℚ) := by norm_num
          _ ≤ (m : ℚ) * 2 ^ e :=
            mul_le_mul hm (zpow_le_zpow_right₀ one_le_two (by omega))
              (by positivity) (by positivity)
      rw [stored_of_lt he, clamp]
      cases s with
      | negative =>
        have : -(m * 2 ^ e : ℚ) ≤ -2 ^ 128 := neg_le_neg big
        rw [amount, amount, signed, signed, max_eq_left]
        exact (min_le_left _ _).trans this
      | positive =>
        rw [amount, amount, signed, signed, min_eq_right big, max_eq_right]
        norm_num

/-- A float is representable as long as it is finite. -/
theorem representable_amount (hc : Canonical u) (hn : u.isFinite = true) :
    Representable (amount u) := by
  cases u with
  | infinity s => cases hn
  | notANumber => cases hn
  | zero s => exact representable_zero
  | finite s m e h =>
    have pos : Representable (m * 2 ^ e) := by
      refine ⟨m, e, ?_, hc.2.1, by push_cast; rfl⟩
      rw [Nat.abs_cast]
      exact_mod_cast hc.1
    cases s with
    | negative => exact pos.neg
    | positive => exact pos

/-! ## Comparison -/

/-- Of two mantissas as long as they can be, the one with the larger exponent is larger. -/
theorem mul_zpow_lt_of_lt {m m' : ℕ} {e e' : ℤ} (hm : m < 2 ^ 24) (he : -149 ≤ e)
    (hm' : e' = -149 ∨ 2 ^ 23 ≤ m') (h : e < e') : (m : ℚ) * 2 ^ e < m' * 2 ^ e' := by
  have hlt : (m : ℚ) < 2 ^ 24 := by exact_mod_cast hm
  have hle : (2 ^ 23 : ℚ) ≤ m' := by exact_mod_cast hm'.resolve_left (by omega)
  calc (m : ℚ) * 2 ^ e < 2 ^ 24 * 2 ^ e := mul_lt_mul_of_pos_right hlt (by positivity)
    _ = 2 ^ 23 * 2 ^ (e + 1) := by
      rw [zpow_add_one₀ two_ne_zero]
      ring
    _ ≤ m' * 2 ^ e' :=
      mul_le_mul hle (zpow_le_zpow_right₀ one_le_two (by omega)) (by positivity) (by positivity)

/-- Canonical floats can be compared by their exponents first, since a mantissa is as long as it can
be. This is the comparison that the core library makes. -/
theorem compare_mul_zpow {m m' : ℕ} {e e' : ℤ} {h : 0 < m} {h' : 0 < m'} {s s' : Sign}
    (hc : Canonical (.finite s m e h)) (hc' : Canonical (.finite s' m' e' h')) :
    (compare e e').then (compare m m') = compare ((m : ℚ) * 2 ^ e) (m' * 2 ^ e') := by
  rcases lt_trichotomy e e' with hlt | rfl | hgt
  · have := mul_zpow_lt_of_lt hc.1 hc.2.1 hc'.2.2 hlt
    rw [compare_lt_iff_lt.mpr hlt, compare_lt_iff_lt.mpr this]
    rfl
  · have pos : (0 : ℚ) < 2 ^ e := by positivity
    rw [compare_eq_iff_eq.mpr rfl]
    rcases lt_trichotomy m m' with hm | rfl | hm
    · have : (m : ℚ) * 2 ^ e < m' * 2 ^ e := mul_lt_mul_of_pos_right (by exact_mod_cast hm) pos
      rw [compare_lt_iff_lt.mpr hm, compare_lt_iff_lt.mpr this]
      rfl
    · rw [compare_eq_iff_eq.mpr rfl, compare_eq_iff_eq.mpr rfl]
      rfl
    · have : (m' : ℚ) * 2 ^ e < m * 2 ^ e := mul_lt_mul_of_pos_right (by exact_mod_cast hm) pos
      rw [compare_gt_iff_gt.mpr hm, compare_gt_iff_gt.mpr this]
      rfl
  · have := mul_zpow_lt_of_lt hc'.1 hc'.2.1 hc.2.2 hgt
    rw [compare_gt_iff_gt.mpr hgt, compare_gt_iff_gt.mpr this]
    rfl

/-- Between negatives the comparison is the other way round. -/
theorem compare_neg_neg (a b : ℚ) : compare (-a) (-b) = (compare a b).swap := by
  rcases lt_trichotomy a b with h | rfl | h
  · rw [compare_lt_iff_lt.mpr h, compare_gt_iff_gt.mpr (neg_lt_neg h)]
    rfl
  · rw [compare_eq_iff_eq.mpr rfl, compare_eq_iff_eq.mpr rfl]
    rfl
  · rw [compare_gt_iff_gt.mpr h, compare_lt_iff_lt.mpr (neg_lt_neg h)]
    rfl

/-- Finite floats are strictly below the infinities. -/
theorem abs_amount_lt_of_isFinite (hc : Canonical u) (hf : Fits u) (hn : u.isFinite = true) :
    |amount u| < 2 ^ 128 := by
  cases u with
  | infinity s => cases hn
  | notANumber => cases hn
  | zero s => rw [amount, abs_zero]; positivity
  | finite s m e h => exact abs_amount_lt hc hf

theorem some_compare_of_lt {a b : ℚ} (h : a < b) : some .lt = some (compare a b) := by
  rw [compare_lt_iff_lt.mpr h]

theorem some_compare_of_gt {a b : ℚ} (h : b < a) : some .gt = some (compare a b) := by
  rw [compare_gt_iff_gt.mpr h]

theorem some_compare_self (a : ℚ) : some .eq = some (compare a a) := by
  rw [compare_eq_iff_eq.mpr rfl]

/-- Finite floats other than zero compare like their amounts. -/
theorem compare_finite {s s' : Sign} {m m' : ℕ} {e e' : ℤ} {h : 0 < m} {h' : 0 < m'}
    (hc : Canonical (.finite s m e h)) (hc' : Canonical (.finite s' m' e' h')) :
    (UnpackedFloat.finite s m e h).compare (.finite s' m' e' h') =
      some (compare (signed s (m * 2 ^ e)) (signed s' (m' * 2 ^ e'))) := by
  have pos : (0 : ℚ) < m * 2 ^ e := by positivity
  have pos' : (0 : ℚ) < m' * 2 ^ e' := by positivity
  have magnitudes := compare_mul_zpow hc hc'
  cases s <;> cases s'
  · change some ((compare e e').then (compare m m')).swap = some
      (compare (-(m * 2 ^ e : ℚ)) (-(m' * 2 ^ e')))
    rw [magnitudes, compare_neg_neg]
  · exact some_compare_of_lt ((neg_neg_of_pos pos).trans pos')
  · exact some_compare_of_gt ((neg_neg_of_pos pos').trans pos)
  · exact congrArg some magnitudes

/-- Infinities compare like numbers that are out of reach. -/
theorem compare_infinity {s : Sign} (hw : w.isFinite = true)
    (inner : -2 ^ 128 < amount w ∧ amount w < 2 ^ 128) :
    (UnpackedFloat.infinity s).compare w = some (compare (amount (.infinity s)) (amount w)) ∧
      w.compare (.infinity s) = some (compare (amount w) (amount (.infinity s))) := by
  cases w with
  | infinity => cases hw
  | notANumber => cases hw
  | zero s' =>
    cases s with
    | negative => exact ⟨some_compare_of_lt inner.1, some_compare_of_gt inner.1⟩
    | positive => exact ⟨some_compare_of_gt inner.2, some_compare_of_lt inner.2⟩
  | finite s' m' e' h' =>
    cases s with
    | negative =>
      exact ⟨some_compare_of_lt inner.1, by cases s' <;> exact some_compare_of_gt inner.1⟩
    | positive =>
      exact ⟨some_compare_of_gt inner.2, by cases s' <;> exact some_compare_of_lt inner.2⟩

/-- Floats compare like their amounts. -/
theorem compare_eq (hc : Canonical u) (hf : Fits u) (hc' : Canonical w) (hf' : Fits w)
    (hu : u.isNaN = false) (hw : w.isNaN = false) :
    u.compare w = some (compare (amount u) (amount w)) := by
  -- finite amounts lie strictly between the two ends that stand for the infinities
  have pos : ∀ (m : ℕ) (e : ℤ), 0 < m → (0 : ℚ) < m * 2 ^ e := fun m e h => by positivity
  have inner : u.isFinite = true → -2 ^ 128 < amount u ∧ amount u < 2 ^ 128 := fun hn =>
    abs_lt.mp (abs_amount_lt_of_isFinite hc hf hn)
  have inner' : w.isFinite = true → -2 ^ 128 < amount w ∧ amount w < 2 ^ 128 := fun hn =>
    abs_lt.mp (abs_amount_lt_of_isFinite hc' hf' hn)
  have ends : (-2 ^ 128 : ℚ) < 2 ^ 128 := by norm_num
  cases u with
  | notANumber => cases hu
  | infinity s =>
    cases w with
    | notANumber => cases hw
    | infinity s' =>
      cases s <;> cases s'
      · exact some_compare_self _
      · exact some_compare_of_lt ends
      · exact some_compare_of_gt ends
      · exact some_compare_self _
    | zero | finite => exact (compare_infinity rfl (inner' rfl)).1
  | zero s =>
    cases w with
    | notANumber => cases hw
    | infinity s' => exact (compare_infinity rfl (inner rfl)).2
    | zero s' => exact some_compare_self _
    | finite s' m' e' h' =>
      cases s' with
      | negative => exact some_compare_of_gt (neg_neg_of_pos (pos m' e' h'))
      | positive => exact some_compare_of_lt (pos m' e' h')
  | finite s m e h =>
    cases w with
    | notANumber => cases hw
    | infinity s' => exact (compare_infinity rfl (inner rfl)).2
    | zero s' =>
      cases s with
      | negative => exact some_compare_of_lt (neg_neg_of_pos (pos m e h))
      | positive => exact some_compare_of_gt (pos m e h)
    | finite s' m' e' h' => exact compare_finite hc hc'

end LitTiles.Rounding
