import LitTiles.Proofs.Scalar.Arithmetic

/-!
# The order of scalars

What geometry relies on, whatever the numbers are: apart from NaN, scalars are ordered by their
values (`le_iff`, `lt_iff`), a change of sign reverses that order (`value_neg`), adding a number
that is finite and not negative never decreases one (`le_add`), division by a positive finite number
is monotone (`div_mono`), and so is the number of the cell that a quotient falls into (`cell_mono`).
Overflow is no exception, since infinities take part in the order.

Operations work on the parts of a word, where they are the exact result rounded and then stored;
values are the amounts of the parts, scaled to integers (`value_eq`).
-/

namespace LitTiles.Scalar

open Float.Model Float.Model.UnpackedFloat Rounding

/-! ## The parts of a scalar -/

/-- A scalar with its parts apart. -/
def parts (x : Scalar) : UnpackedFloat := UnpackedFloat.unpack Format.binary32 x.bits.toBitVec

/-- The parts of a scalar are those of the machine's float of the same word. -/
theorem unpack_toFloat32 (x : Scalar) : x.toFloat32.toModel.unpack = x.parts :=
  stored_unpack x.bits.toBitVec

/-- Whether a scalar is a number is seen in its parts. -/
theorem isNaN_eq (x : Scalar) : x.isNaN = x.parts.isNaN :=
  congrArg UnpackedFloat.isNaN (unpack_toFloat32 x)

/-- Whether a scalar is finite is seen in its parts. -/
theorem isFinite_eq (x : Scalar) : x.isFinite = x.parts.isFinite :=
  congrArg UnpackedFloat.isFinite (unpack_toFloat32 x)

theorem canonical_parts (x : Scalar) : Canonical x.parts := canonical_unpack _

theorem fits_parts (x : Scalar) : Fits x.parts := fits_unpack _

/-- The fraction is in the low 23 bits. -/
theorem mantissa_eq (b : BitVec 32) :
    (@unpackMantissa Format.binary32 b).toNat = b.toNat % 0x800000 := by
  simp [unpackMantissa]

/-- The exponent field is in the 8 bits above. -/
theorem exponent_eq (b : BitVec 32) :
    (@unpackExponent Format.binary32 b).toNat = (b.toNat >>> 23) % 0x100 := by
  simp [unpackExponent]

/-- The sign is the top bit. -/
theorem sign_eq (b : BitVec 32) :
    Sign.ofBitVec (@unpackSign Format.binary32 b) =
      if 0x80000000 ≤ b.toNat then .negative else .positive := by
  have hb := b.isLt
  have bit : (@unpackSign Format.binary32 b).toNat = b.toNat / 2 ^ 31 := by
    simp [unpackSign, Nat.shiftRight_eq_div_pow]
    omega
  have zero : @unpackSign Format.binary32 b = 0#1 ↔ b.toNat < 0x80000000 := by
    rw [← BitVec.toNat_inj, bit]
    simp only [BitVec.toNat_ofNat]
    omega
  unfold Sign.ofBitVec
  simp only [zero]
  split_ifs <;> first | rfl | omega

/-- The parts of a scalar, assembled from the three fields of its word as a natural number.
Everything about the word is derived from this form. -/
theorem parts_eq (x : Scalar) :
    x.parts = assemble (if x.isMinus then .negative else .positive) ((x.bits.toNat >>> 23) % 0x100)
      (x.bits.toNat % 0x800000) := by
  rw [parts, unpack_eq, mantissa_eq, exponent_eq, sign_eq]
  simp only [isMinus, decide_eq_true_eq]
  rfl

/-- A change of sign flips the top bit and nothing else. -/
theorem bits_neg (x : Scalar) : (-x).bits.toNat = x.bits.toNat ^^^ 2 ^ 31 := rfl

theorem isMinus_neg (x : Scalar) : (-x).isMinus = !x.isMinus := by
  have hx := x.bits.toNat_lt
  have hy := (-x).bits.toNat_lt
  have high : (-x).bits.toNat / 2 ^ 31 = (x.bits.toNat / 2 ^ 31) ^^^ 1 := by
    rw [bits_neg, ← Nat.shiftRight_eq_div_pow, Nat.shiftRight_xor_distrib,
      Nat.shiftRight_eq_div_pow]
    rfl
  unfold isMinus
  rcases (by omega : x.bits.toNat / 2 ^ 31 = 0 ∨ x.bits.toNat / 2 ^ 31 = 1) with h | h
  · rw [h, Nat.zero_xor] at high
    rw [decide_eq_true (by omega), decide_eq_false (by omega)]
    rfl
  · rw [h, Nat.xor_self] at high
    rw [decide_eq_false (by omega), decide_eq_true (by omega)]
    rfl

/-- Assembling with the other sign gives the negative. NaN is its own negative. -/
theorem assemble_neg (s : Sign) (e m : ℕ) : assemble (-s) e m = (assemble s e m).neg := by
  unfold assemble
  split_ifs <;> rfl

/-- The fraction is not changed with the sign. -/
theorem fraction_neg (x : Scalar) : (-x).bits.toNat % 0x800000 = x.bits.toNat % 0x800000 := by
  rw [bits_neg, show 0x800000 = 2 ^ 23 from rfl, Nat.xor_mod_two_pow]
  exact Nat.xor_zero _

/-- Neither is the exponent field. -/
theorem exponent_neg (x : Scalar) :
    ((-x).bits.toNat >>> 23) % 0x100 = (x.bits.toNat >>> 23) % 0x100 := by
  rw [bits_neg, show 0x100 = 2 ^ 8 from rfl, Nat.shiftRight_xor_distrib, Nat.xor_mod_two_pow]
  exact Nat.xor_zero _

/-- Only the sign of a word changes. -/
theorem parts_neg (x : Scalar) : (-x).parts = x.parts.neg := by
  rw [parts_eq, parts_eq, fraction_neg, exponent_neg, isMinus_neg, ← assemble_neg]
  cases x.isMinus <;> rfl

/-! ## Values -/

theorem signed_mul (s : Sign) (q k : ℚ) : signed s q * k = signed s (q * k) := by
  cases s with
  | negative => exact neg_mul q k
  | positive => rfl

/-- The amount of a word in units of `2 ^ -150`. -/
theorem amount_assemble (s : Sign) {e m : ℕ} (h : e = 255 → m = 0) :
    amount (assemble s e m) * 2 ^ 150 =
      signed s (((m + if e = 0 then 0 else 0x800000) <<< max e 1 : ℕ) : ℚ) := by
  unfold assemble
  by_cases he : e = 255
  · rw [if_pos he, if_pos (h he), h he, he, amount, signed_mul]
    norm_num [Nat.shiftLeft_eq]
  rw [if_neg he]
  -- zero and the subnormal numbers have exponent 0 and no implicit bit
  by_cases hz : e = 0
  · rw [if_pos hz, if_pos hz, hz]
    by_cases hm : m = 0
    · rw [dif_pos hm, hm]
      cases s <;> simp [amount, signed]
    · rw [dif_neg hm, amount, signed_mul]
      congr 1
      rw [Nat.shiftLeft_eq]
      push_cast
      norm_num
      ring
  · rw [if_neg hz, if_neg hz, amount, signed_mul]
    congr 1
    -- the factor 2¹⁵⁰ clears the denominator, 150 being the bias and the width of the mantissa
    have : (2 : ℚ) ^ (e - 150 : ℤ) * 2 ^ 150 = 2 ^ max e 1 := by
      rw [max_eq_left (Nat.pos_of_ne_zero hz), zpow_sub₀ two_ne_zero, zpow_natCast]
      field_simp
    rw [Nat.shiftLeft_eq, mul_assoc, this]
    push_cast
    ring

/-- The value that is read off the bits is the amount that the parts stand for. -/
theorem value_eq {x : Scalar} (hx : x.isNaN = false) :
    (x.value : ℚ) = amount x.parts * 2 ^ 150 := by
  have fraction : (x.bits.toNat >>> 23) % 0x100 = 255 → x.bits.toNat % 0x800000 = 0 := by
    intro he
    by_contra hm
    rw [isNaN_eq, parts_eq, assemble, if_pos he, if_neg hm] at hx
    cases hx
  rw [parts_eq, amount_assemble _ fraction]
  change (x.value : ℚ) = signed _ ((x.magnitude : ℕ) : ℚ)
  unfold value
  cases x.isMinus with
  | false => rfl
  | true => exact Int.cast_neg _

/-! ## Comparison -/

variable {x y c : Scalar}

/-- Values are scaled amounts, so they compare alike. The scale is one positive power of two for all
words. -/
theorem value_le_iff (hx : x.isNaN = false) (hy : y.isNaN = false) :
    x.value ≤ y.value ↔ amount x.parts ≤ amount y.parts := by
  rw [← @Int.cast_le ℚ, value_eq hx, value_eq hy]
  exact mul_le_mul_iff_of_pos_right (by positivity)

/-- Two parts that are numbers compare as their amounts do. -/
theorem compare_parts (hx : x.isNaN = false) (hy : y.isNaN = false) :
    x.parts.compare y.parts = some (compare (amount x.parts) (amount y.parts)) :=
  compare_eq (canonical_parts x) (fits_parts x) (canonical_parts y) (fits_parts y)
    (isNaN_eq x ▸ hx) (isNaN_eq y ▸ hy)

/-- **Scalars other than NaN are ordered by their values.** -/
theorem le_iff (hx : x.isNaN = false) (hy : y.isNaN = false) : x ≤ y ↔ x.value ≤ y.value := by
  have parts : x ≤ y ↔ x.parts.le y.parts = true := by
    rw [← unpack_toFloat32, ← unpack_toFloat32]
    exact decide_eq_true_iff
  rw [value_le_iff hx hy, parts, UnpackedFloat.le, compare_parts hx hy, Option.any_some,
    Ordering.isLE_iff_ne_gt, compare_gt_iff_gt]
  exact not_lt

/-- The strict form of `le_iff`. -/
theorem lt_iff (hx : x.isNaN = false) (hy : y.isNaN = false) : x < y ↔ x.value < y.value := by
  have parts : x < y ↔ x.parts.lt y.parts = true := by
    rw [← unpack_toFloat32, ← unpack_toFloat32]
    exact decide_eq_true_iff
  rw [← not_le, value_le_iff hy hx, not_le, parts, UnpackedFloat.lt,
    compare_parts hx hy, beq_iff_eq, Option.some_inj, compare_lt_iff_lt]

/-- The parts of finite numbers. -/
theorem parts_of_isFinite (hx : x.isFinite = true) :
    (∃ s, x.parts = .zero s) ∨ ∃ s m e h, x.parts = .finite s m e h := by
  rw [isFinite_eq] at hx
  cases hp : x.parts with
  | zero s => exact .inl ⟨s, rfl⟩
  | finite s m e h => exact .inr ⟨s, m, e, h, rfl⟩
  | infinity s => rw [hp] at hx; cases hx
  | notANumber => rw [hp] at hx; cases hx

/-- A finite scalar is a number. -/
theorem isNaN_of_isFinite (hx : x.isFinite = true) : x.isNaN = false := by
  rw [isNaN_eq]
  obtain ⟨s, hp⟩ | ⟨s, m, e, h, hp⟩ := parts_of_isFinite hx
  · rw [hp]
    rfl
  · rw [hp]
    rfl

/-! ## Operations -/

@[simp] theorem isFinite_neg (x : Scalar) : (-x).isFinite = x.isFinite := by
  rw [isFinite_eq, isFinite_eq, parts_neg]
  cases x.parts <;> rfl

/-- **A change of sign reverses the order.** -/
@[simp] theorem value_neg (x : Scalar) : (-x).value = -x.value := by
  have magnitude : (-x).magnitude = x.magnitude := by
    simp only [Scalar.magnitude, significand, exponent, fraction_neg, exponent_neg]
  rw [value, value, magnitude, isMinus_neg]
  cases x.isMinus with
  | false => rfl
  | true => exact (neg_neg _).symm

variable {u : UnpackedFloat}

/-- An operation on numbers answers what the machine does, unless that is no number. -/
theorem parts_answer {z : Float32} (hx : x.isNaN = false) (hy : y.isNaN = false)
    (hz : z.toModel.unpack = stored u) (hc : Canonical u) (hn : u.isNaN = false) :
    (answer x y z).parts = stored u := by
  have number : z.isNaN = false := by
    change z.toModel.unpack.isNaN = false
    rw [hz, isNaN_stored hc, hn]
  rw [answer, hx, hy, number]
  exact hz

/-- A sum is computed on the parts and stored. The exact result is taken as a variable, since what
it is depends on the cases of the parts. -/
theorem parts_add (hx : x.isNaN = false) (hy : y.isNaN = false)
    (hu : UnpackedFloat.add Format.binary32 x.parts y.parts = u) (hc : Canonical u)
    (hn : u.isNaN = false) : (x + y).parts = stored u := by
  refine parts_answer hx hy ?_ hc hn
  rw [← hu, ← unpack_toFloat32, ← unpack_toFloat32]
  rfl

/-- A quotient likewise. -/
theorem parts_div (hx : x.isNaN = false) (hy : y.isNaN = false)
    (hu : UnpackedFloat.div Format.binary32 x.parts y.parts = u) (hc : Canonical u)
    (hn : u.isNaN = false) : (x / y).parts = stored u := by
  refine parts_answer hx hy ?_ hc hn
  rw [← hu, ← unpack_toFloat32, ← unpack_toFloat32]
  rfl

/-- Storing a number gives a number, possibly an infinite one. -/
theorem isNaN_of_parts (hx : x.parts = stored u) (hc : Canonical u) (hn : u.isNaN = false) :
    x.isNaN = false := by
  rw [isNaN_eq, hx, isNaN_stored hc, hn]

/-- No amount goes beyond that of the infinities. -/
theorem abs_amount_parts_le (x : Scalar) : |amount x.parts| ≤ 2 ^ 128 :=
  abs_amount_le (canonical_parts x) (fits_parts x)

/-- A scalar that is not negative has an amount that is not. -/
theorem amount_nonneg (hx : x.isNaN = false) (h : 0 ≤ x.value) : 0 ≤ amount x.parts := by
  have : (0 : ℚ) ≤ x.value := by exact_mod_cast h
  rw [value_eq hx] at this
  exact nonneg_of_mul_nonneg_left this (by positivity)

/-- Numbers that are not finite are infinite. -/
theorem parts_eq_infinity (hx : x.isNaN = false) (hn : x.isFinite = false) :
    ∃ s, x.parts = .infinity s := by
  rw [isNaN_eq] at hx
  rw [isFinite_eq] at hn
  cases hp : x.parts with
  | infinity s => exact ⟨s, rfl⟩
  | notANumber => rw [hp] at hx; cases hx
  | zero s => rw [hp] at hn; cases hn
  | finite s m e h => rw [hp] at hn; cases hn

/-- Finite numbers have a sum, if need be an infinite one. -/
theorem isNaN_add (hx : x.isFinite = true) (hy : y.isFinite = true) : (x + y).isNaN = false := by
  have sum := rounded_add (canonical_parts x) (canonical_parts y) (isFinite_eq x ▸ hx)
    (isFinite_eq y ▸ hy)
  have parts := parts_add (isNaN_of_isFinite hx) (isNaN_of_isFinite hy) rfl sum.canonical sum.isNaN
  exact isNaN_of_parts parts sum.canonical sum.isNaN

/-- **Adding a finite number that is not negative never decreases a number, or makes a NaN.** -/
theorem le_add (hx : x.isNaN = false) (hy : y.isFinite = true) (h : 0 ≤ y.value) :
    (x + y).isNaN = false ∧ x.value ≤ (x + y).value := by
  have hy' := isNaN_of_isFinite hy
  -- it is enough to compare with the sum before it is stored, as storing is monotone
  suffices key : ∃ u, UnpackedFloat.add Format.binary32 x.parts y.parts = u ∧ Canonical u ∧
      u.isNaN = false ∧ amount x.parts ≤ amount (stored u) by
    obtain ⟨u, hu, hc, hn, hle⟩ := key
    have parts := parts_add hx hy' hu hc hn
    have number := isNaN_of_parts parts hc hn
    rw [value_le_iff hx number, parts]
    exact ⟨number, hle⟩
  cases hf : x.isFinite with
  | true =>
    rw [isFinite_eq] at hf hy
    -- rounding to the nearest cannot fall below a representable number, and x is one
    have sum := rounded_add (canonical_parts x) (canonical_parts y) hf hy
    refine ⟨_, rfl, sum.canonical, sum.isNaN, ?_⟩
    rw [amount_stored sum.canonical, ← clamp_of_abs_le (abs_amount_parts_le x)]
    apply clamp_mono
    apply sum.nearest.le_of_le (representable_amount (canonical_parts x) hf)
    linarith [amount_nonneg hy' h]
  | false =>
    -- infinity stays infinity whatever finite number is added
    obtain ⟨s, hs⟩ := parts_eq_infinity hx hf
    refine ⟨.infinity s, ?_, trivial, rfl, ?_⟩
    · obtain ⟨s', hp⟩ | ⟨s', m, e, hm, hp⟩ := parts_of_isFinite hy
      · rw [hs, hp]
        rfl
      · rw [hs, hp]
        rfl
    · rw [hs, stored_infinity]

/-- A positive scalar has a positive amount; in particular it does not underflow to zero. -/
theorem amount_pos (hx : x.isNaN = false) (h : 0 < x.value) : 0 < amount x.parts := by
  have : (0 : ℚ) < x.value := by exact_mod_cast h
  rw [value_eq hx] at this
  exact pos_of_mul_pos_left this (by positivity)

/-- A quotient by a positive finite number is rounded, or infinite like the dividend. -/
theorem div_parts_cases (hx : x.isNaN = false) (hc : c.isFinite = true) (hpos : 0 < c.value) :
    x.isFinite = true ∧
        Rounded (amount x.parts / amount c.parts)
          (UnpackedFloat.div Format.binary32 x.parts c.parts) ∨
      ∃ s, x.parts = .infinity s ∧
        UnpackedFloat.div Format.binary32 x.parts c.parts = .infinity s := by
  have pos := amount_pos (isNaN_of_isFinite hc) hpos
  cases hf : x.isFinite with
  | true => exact .inl ⟨rfl, rounded_div (isFinite_eq x ▸ hf) (isFinite_eq c ▸ hc) pos⟩
  | false =>
    obtain ⟨s, hs⟩ := parts_eq_infinity hx hf
    refine .inr ⟨s, hs, ?_⟩
    obtain ⟨s', hp⟩ | ⟨s', m, e, h, hp⟩ := parts_of_isFinite hc
    · rw [hp] at pos
      exact absurd pos (lt_irrefl 0)
    · rw [hp] at pos
      rw [hs, hp]
      cases s' with
      | negative =>
        exact absurd pos (not_lt.mpr (by simp only [amount, signed, neg_nonpos]; positivity))
      | positive => cases s <;> rfl

/-- A quotient by a positive finite number is a number. -/
theorem isNaN_div (hx : x.isNaN = false) (hc : c.isFinite = true) (hpos : 0 < c.value) :
    (x / c).isNaN = false ∧
      amount (x / c).parts = clamp
      (amount (UnpackedFloat.div Format.binary32 x.parts c.parts)) := by
  have cases := div_parts_cases hx hc hpos
  have canonical : Canonical (UnpackedFloat.div Format.binary32 x.parts c.parts) := by
    obtain ⟨-, h⟩ | ⟨s, -, h⟩ := cases
    · exact h.canonical
    · rw [h]
      trivial
  have number : (UnpackedFloat.div Format.binary32 x.parts c.parts).isNaN = false := by
    obtain ⟨-, h⟩ | ⟨s, -, h⟩ := cases
    · exact h.isNaN
    · rw [h]
      rfl
  have parts := parts_div hx (isNaN_of_isFinite hc) rfl canonical number
  exact ⟨isNaN_of_parts parts canonical number, by rw [parts, amount_stored canonical]⟩

/-- A finite number stays off the amount of the infinities. -/
theorem abs_amount_parts_lt (hx : x.isFinite = true) : |amount x.parts| < 2 ^ 128 :=
  abs_amount_lt_of_isFinite (canonical_parts x) (fits_parts x) (isFinite_eq x ▸ hx)

/-- Equal amounts have equal quotients. -/
theorem amount_div_congr (hx : x.isFinite = true) (hy : y.isFinite = true) (hc : c.isFinite = true)
    (hpos : 0 < c.value) (h : amount x.parts = amount y.parts) :
    amount (UnpackedFloat.div Format.binary32 x.parts c.parts) =
      amount (UnpackedFloat.div Format.binary32 y.parts c.parts) := by
  have pos := amount_pos (isNaN_of_isFinite hc) hpos
  rw [isFinite_eq] at hx hy hc
  by_cases hz : amount x.parts = 0
  · -- the zeros may differ in sign, but their quotients are zeros
    have left := (rounded_div hx hc pos).nearest
    have right := (rounded_div hy hc pos).nearest
    rw [← h] at right
    rw [hz, zero_div] at left right
    rw [left.eq_of_representable representable_zero, right.eq_of_representable representable_zero]
  · rw [eq_of_amount_eq (canonical_parts x) (canonical_parts y) hx hy h hz]

/-- **Division by a positive finite number is monotone.** -/
theorem div_mono (hx : x.isNaN = false) (hy : y.isNaN = false) (hc : c.isFinite = true)
    (hpos : 0 < c.value) (h : x.value ≤ y.value) : (x / c).value ≤ (y / c).value := by
  obtain ⟨hxn, hxa⟩ := isNaN_div hx hc hpos
  obtain ⟨hyn, hya⟩ := isNaN_div hy hc hpos
  have hcpos := amount_pos (isNaN_of_isFinite hc) hpos
  rw [value_le_iff hx hy] at h
  rw [value_le_iff hxn hyn, hxa, hya]
  obtain ⟨hxf, hxr⟩ | ⟨s, hxs, hxd⟩ := div_parts_cases hx hc hpos
  · obtain ⟨hyf, hyr⟩ | ⟨s, hys, hyd⟩ := div_parts_cases hy hc hpos
    · apply clamp_mono
      rcases h.lt_or_eq with hlt | heq
      · exact hxr.nearest.mono hyr.nearest (div_lt_div_of_pos_right hlt hcpos)
      · exact (amount_div_congr hxf hyf hc hpos heq).le
    · cases s with
      | negative =>
        rw [hys] at h
        exact absurd h (not_le.mpr (abs_lt.mp (abs_amount_parts_lt hxf)).1)
      | positive =>
        rw [hyd, clamp_of_abs_le (abs_amount_le (u := .infinity .positive) trivial trivial)]
        exact clamp_le _
  · cases s with
    | negative =>
      rw [hxd, clamp_of_abs_le (abs_amount_le (u := .infinity .negative) trivial trivial)]
      exact neg_le_clamp _
    | positive =>
      -- nothing but infinity is as large
      rw [hxs] at h
      obtain ⟨hyf, -⟩ | ⟨s, hys, hyd⟩ := div_parts_cases hy hc hpos
      · exact absurd h (not_le.mpr (abs_lt.mp (abs_amount_parts_lt hyf)).2)
      · rw [hys] at h
        cases s with
        | negative => exact absurd h (by simp only [amount, signed]; norm_num)
        | positive => rw [hxd, hyd]

/-- **The cells of a grid follow the order of numbers.** -/
theorem cell_mono (hx : x.isNaN = false) (hy : y.isNaN = false) (h : x.value ≤ y.value) :
    x.cell ≤ y.cell := by
  have floor : x.value / denominator ≤ y.value / denominator :=
    Int.ediv_le_ediv (by decide) h
  unfold cell
  rw [hx, hy]
  simp only [Bool.false_eq_true, if_false]
  omega

end LitTiles.Scalar
