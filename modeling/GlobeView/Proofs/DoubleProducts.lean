import GlobeView.Proofs.DoubleOrder

/-! # Products of doubles

The position of a product is the product of the positions, rounded (`position_mul`).  This holds of
all doubles: an infinite operand stands so far out that its products round to infinity, and an
undefined product, such as that of zero and infinity, counts as zero.

Rounding is monotone, and so is multiplication by a double that is not negative
(`position_mul_mono`). -/

namespace GlobeView.Double

open Float.Model Float.Model.UnpackedFloat

/-! ### Rounded positions -/

/-- The position nearest to an exact product, if that is in range. -/
def nearestMagnitude (p : ℕ) : ℕ :=
  if nearestOnGrid p < overflow then nearestOnGrid p else infinite

/-- The position of a product, from the product of the positions. -/
def nearest (z : ℤ) : ℤ := z.sign * nearestMagnitude z.natAbs

theorem nearestMagnitude_zero : nearestMagnitude 0 = 0 := by
  have hzero : nearestOnGrid 0 = 0 := by decide +kernel
  rw [nearestMagnitude, hzero, if_pos overflow_pos]

theorem nearestMagnitude_mono : Monotone nearestMagnitude := by
  intro p q h
  have hgrid := nearestOnGrid_mono h
  have hrange := overflow_le_infinite
  unfold nearestMagnitude
  split_ifs <;> omega

/-- A product with an infinite double is out of range, unless the other one is zero. -/
theorem nearestMagnitude_infinite {p : ℕ} (hp : 0 < p) :
    nearestMagnitude (infinite * p) = infinite := by
  have hrange : overflow ≤ nearestOnGrid infinite := by decide +kernel
  have hlarge : nearestOnGrid infinite ≤ nearestOnGrid (infinite * p) :=
    nearestOnGrid_mono (Nat.le_mul_of_pos_right _ hp)
  rw [nearestMagnitude, if_neg (by omega)]

theorem nearest_natCast (p : ℕ) : nearest p = nearestMagnitude p := by
  rcases Nat.eq_zero_or_pos p with rfl | hp
  · simp [nearest, nearestMagnitude_zero]
  · rw [nearest, Int.sign_eq_one_of_pos (Int.natCast_pos.mpr hp), one_mul, Int.natAbs_natCast]

theorem nearest_neg (z : ℤ) : nearest (-z) = -nearest z := by
  rw [nearest, Int.sign_neg, Int.natAbs_neg, neg_mul, nearest]

theorem nearest_nonneg {z : ℤ} (hz : 0 ≤ z) : 0 ≤ nearest z := by
  lift z to ℕ using hz
  rw [nearest_natCast]
  exact Int.natCast_nonneg _

theorem nearest_mono : Monotone nearest := by
  have hmono {z w : ℤ} (hz : 0 ≤ z) (h : z ≤ w) : nearest z ≤ nearest w := by
    lift z to ℕ using hz
    lift w to ℕ using (Int.natCast_nonneg z).trans h
    rw [nearest_natCast, nearest_natCast]
    exact Int.ofNat_le.mpr (nearestMagnitude_mono (Int.ofNat_le.mp h))
  intro z w h
  obtain hz | hz := le_total 0 z
  · exact hmono hz h
  · obtain ⟨z, rfl⟩ : ∃ z', z = -z' := ⟨-z, (neg_neg z).symm⟩
    rw [nearest_neg]
    obtain hw | hw := le_total 0 w
    · exact (neg_nonpos.mpr (nearest_nonneg (neg_nonpos.mp hz))).trans (nearest_nonneg hw)
    · obtain ⟨w, rfl⟩ : ∃ w', w = -w' := ⟨-w, (neg_neg w).symm⟩
      rw [nearest_neg]
      exact neg_le_neg (hmono (neg_nonpos.mp hw) (neg_le_neg_iff.mp h))

theorem nearest_apply (s : Sign) (p : ℕ) : nearest (s.apply p) = s.apply (nearestMagnitude p) := by
  cases s with
  | positive => exact nearest_natCast p
  | negative => exact (nearest_neg p).trans (congrArg (- ·) (nearest_natCast p))

theorem apply_mul_apply (s t : Sign) (a b : ℤ) :
    s.apply a * t.apply b = (s * t).apply (a * b) := by
  cases s <;> cases t
  · exact neg_mul_neg a b
  · exact neg_mul a b
  · exact mul_neg a b
  · rfl

/-! ### Packing -/

/-- What is left of a result once it is held in a word. -/
def stored (u : UnpackedFloat) : UnpackedFloat :=
  UnpackedFloat.unpack .binary64 (UnpackedFloat.pack .binary64 u)

@[simp] theorem stored_infinity (s : Sign) : stored (.infinity s) = .infinity s := by
  cases s <;> rfl

@[simp] theorem stored_zero (s : Sign) : stored (.zero s) = .zero s := by
  cases s <;> rfl

@[simp] theorem stored_notANumber : stored .notANumber = .notANumber := rfl

theorem ofBitVec_toBitVec (s : Sign) : Sign.ofBitVec s.toBitVec = s := by cases s <;> rfl

variable {m : ℕ} {e : ℤ}

theorem unpack_subnormal (s : Sign) {mantissa : BitVec 52} (h : 0 < mantissa.toNat) :
    UnpackedFloat.unpack .binary64 (packComponents .binary64 s 0#11 mantissa) =
      .finite s mantissa.toNat (-1074) h := by
  have hzero : ¬ mantissa = 0#52 := fun heq => h.ne' (congrArg BitVec.toNat heq)
  simp only [UnpackedFloat.unpack, unpackMantissa_packComponents, unpackExponent_packComponents,
    unpackSign_packComponents, ofBitVec_toBitVec]
  rw [if_neg (by decide), if_pos trivial, dif_neg hzero]
  rfl

/-- A word with a normal significand, whose leading bit is not written. -/
theorem unpack_normal (s : Sign) {exponent : BitVec 11} {mantissa : BitVec 52}
    (hsmall : exponent ≠ 0#11) (hlarge : exponent ≠ -1#11) :
    UnpackedFloat.unpack .binary64 (packComponents .binary64 s exponent mantissa) =
      .finite s (2 ^ 52 + mantissa.toNat) (exponent.toNat - 1075) (by omega) := by
  simp only [UnpackedFloat.unpack, unpackMantissa_packComponents, unpackExponent_packComponents,
    unpackSign_packComponents, ofBitVec_toBitVec]
  rw [if_neg hlarge, if_neg hsmall]
  simp only [toNat_leading]
  rfl

theorem pack_finite (s : Sign) (hm : 0 < m) (he : -1075 ≤ e) :
    UnpackedFloat.pack .binary64 (.finite s m e hm) =
      if 971 < e then packedInfinity .binary64 s
      else if 2 ^ 52 ≤ m ∧ m < 2 ^ 53 then
        packComponents .binary64 s (BitVec.ofNat 11 (e + 1075).toNat) (BitVec.ofNat 52 m)
      else packComponents .binary64 s 0#11 (BitVec.ofNat 52 m) := by
  have hbiased : (e + 1023 + 52).toNat = (e + 1075).toNat := by omega
  show (if 2 ^ 11 ≤ (e + 1023 + 52).toNat + 1 then _
    else if m.log2 + 1 = 53 then
      packComponents .binary64 s (BitVec.ofNat 11 (e + 1023 + 52).toNat) _
    else _) = _
  have hlog : m.log2 + 1 = 53 ↔ 2 ^ 52 ≤ m ∧ m < 2 ^ 53 := by
    rw [← Nat.log2_eq_iff hm.ne']
    omega
  rw [hbiased]
  exact if_congr (by omega) rfl (if_congr hlog rfl rfl)

theorem stored_of_le (s : Sign) (hm : 0 < m) (h : Significand m e) (he : e ≤ 971) :
    stored (.finite s m e hm) = .finite s m e hm := by
  have hlow := h.le_exponent
  have hlt := h.lt
  rw [stored, pack_finite s hm (by omega), if_neg (by omega)]
  split_ifs with hnormal
  · have hexponent : (BitVec.ofNat 11 (e + 1075).toNat).toNat = (e + 1075).toNat :=
      Nat.mod_eq_of_lt (by omega)
    have hmantissa : (BitVec.ofNat 52 m).toNat = m - 2 ^ 52 := by
      rw [BitVec.toNat_ofNat]
      omega
    rw [unpack_normal]
    · rw [UnpackedFloat.finite.injEq, hexponent, hmantissa]
      exact ⟨rfl, by omega, by omega⟩
    · intro hzero
      have hnat : (e + 1075).toNat = 0 := hexponent ▸ congrArg BitVec.toNat hzero
      omega
    · intro hfull
      have hnat : (e + 1075).toNat = 2 ^ 11 - 1 := hexponent ▸ congrArg BitVec.toNat hfull
      omega
  · have hmantissa : (BitVec.ofNat 52 m).toNat = m := Nat.mod_eq_of_lt (by omega)
    have hfull := h.full
    rw [unpack_subnormal s (by omega), UnpackedFloat.finite.injEq, hmantissa]
    exact ⟨rfl, rfl, by omega⟩

theorem stored_of_gt (s : Sign) (hm : 0 < m) (he : 971 < e) :
    stored (.finite s m e hm) = .infinity s := by
  rw [stored, pack_finite s hm (by omega), if_pos he]
  exact stored_infinity s

/-! ### Rounding -/

theorem log2_mul_two_pow {p : ℕ} (hp : 0 < p) (j : ℕ) : (p * 2 ^ j).log2 = p.log2 + j := by
  have hpos : 0 < p * 2 ^ j := Nat.mul_pos hp (Nat.two_pow_pos j)
  rw [Nat.log2_eq_iff hpos.ne', Nat.add_right_comm, Nat.pow_add, Nat.pow_add]
  exact ⟨Nat.mul_le_mul_right _ (Nat.log2_self_le hp.ne'),
    Nat.mul_lt_mul_of_pos_right Nat.lt_log2_self (Nat.two_pow_pos j)⟩

theorem targetExponent_eq (p : ℕ) (g : ℤ) :
    Format.binary64.targetExponent (totalExponent p g) = max (p.log2 + g - 52) (-1074) := by
  show max ((p.log2 : ℤ) + 1 + g - 53) (-1074) = _
  omega

theorem place_stored (s : Sign) (hm : 0 < m) (h : Significand m e) {p : ℕ}
    (hp : m * 2 ^ (e + 1074).toNat = nearestOnGrid p) :
    place (stored (.finite s m e hm)) = s.apply (nearestMagnitude p) := by
  rw [nearestMagnitude, ← hp]
  obtain he | he := le_or_gt e 971
  · rw [stored_of_le s hm h he, if_pos (h.le_971_iff.mp he)]
    rfl
  · rw [stored_of_gt s hm he, if_neg (mt h.le_971_iff.mpr (not_le.mpr he))]
    rfl

/-- What is left to do with a significand that has been rounded: when it has grown by a bit, it is
shifted once more. -/
def carried (s : Sign) (m : ℕ) (e : ℤ) : UnpackedFloat :=
  let shifted := shiftToTargetExponent .binary64 m e .exact
  if h : shifted.1.mantissa = 0 then .zero s
  else .finite s shifted.1.mantissa shifted.2 (Nat.pos_of_ne_zero h)

theorem carried_eq (s : Sign) {k : ℕ} (hk : (max (m.log2 + e - 52) (-1074) - e).toNat = k) :
    carried s m e =
      if h : m / 2 ^ k = 0 then .zero s
      else .finite s (m / 2 ^ k) (e + k) (Nat.pos_of_ne_zero h) := by
  have hmantissa : (shiftToTargetExponent .binary64 m e .exact).1.mantissa = m / 2 ^ k := by
    show (ExtendedMantissa.ofMantissaAndAccuracy m .exact >>>
      (Format.binary64.targetExponent (totalExponent m e) - e).toNat).mantissa = _
    rw [shiftRight_exact, targetExponent_eq, hk]
  have hexponent : (shiftToTargetExponent .binary64 m e .exact).2 = e + k := by
    show e + (Format.binary64.targetExponent (totalExponent m e) - e).toNat = _
    rw [targetExponent_eq, hk]
  simp only [carried, hmantissa, hexponent]

theorem carried_of_lt (s : Sign) (hlt : m < 2 ^ 53) (he : -1074 ≤ e) :
    carried s m e = if h : m = 0 then .zero s else .finite s m e (Nat.pos_of_ne_zero h) := by
  have hlog : m.log2 ≤ 52 := by
    obtain rfl | hm := Nat.eq_zero_or_pos m
    · exact Nat.zero_le _
    · exact Nat.le_of_lt_succ ((Nat.log2_lt hm.ne').mpr hlt)
  have hkeep := carried_eq s (m := m) (e := e) (k := 0) (by omega)
  simpa using hkeep

/-- A significand that has grown is halved. -/
theorem carried_full (s : Sign) (he : -1074 ≤ e) :
    carried s (2 ^ 53) e = .finite s (2 ^ 52) (e + 1) (Nat.two_pow_pos 52) := by
  have hlog : (2 ^ 53).log2 = 53 := Nat.log2_two_pow
  have hhalve := carried_eq s (m := 2 ^ 53) (e := e) (k := 1) (by rw [hlog]; omega)
  rw [hhalve, dif_neg (by decide)]
  rfl

theorem place_carried (s : Sign) (hle : m ≤ 2 ^ 53) (he : -1074 ≤ e)
    (hfull : 2 ^ 52 ≤ m ∨ e = -1074) {q : ℕ}
    (hq : m * 2 ^ (e + 1074).toNat = nearestOnGrid q) :
    place (stored (carried s m e)) = s.apply (nearestMagnitude q) := by
  obtain hlt | rfl := hle.lt_or_eq
  · rw [carried_of_lt s hlt he]
    split_ifs with hm
    · have hzero : nearestMagnitude q = 0 := by
        rw [nearestMagnitude, ← hq, hm, Nat.zero_mul, if_pos overflow_pos]
      rw [stored_zero, place_zero, hzero]
      cases s <;> rfl
    · exact place_stored s (Nat.pos_of_ne_zero hm) ⟨hlt, he, hfull⟩ hq
  · rw [carried_full s he]
    refine place_stored s _ ⟨by omega, by omega, .inl le_rfl⟩ ?_
    rw [← hq, show (e + 1 + 1074).toNat = (e + 1074).toNat + 1 by omega]
    ring

section product

variable {p q : ℕ} (hp : 0 < p) {g : ℤ} (hg : -2148 ≤ g) (hq : q = p * 2 ^ (g + 2148).toNat)
include hp hg hq

theorem targetExponent_product :
    Format.binary64.targetExponent (totalExponent p g) = gridExponent q - 2148 := by
  rw [targetExponent_eq, hq, gridExponent, log2_mul_two_pow hp]
  omega

variable (hlong : 2 ^ 52 ≤ p ∨ g ≤ -1074)
include hlong

/-- The grid is not finer than the product is. -/
theorem le_gridExponent : g ≤ gridExponent q - 2148 := by
  rw [← targetExponent_product hp hg hq, targetExponent_eq]
  obtain hlong | hlow := hlong
  · have hlog : 52 ≤ p.log2 := (Nat.le_log2 hp.ne').mpr hlong
    omega
  · omega

theorem roundedMantissa_product :
    (shiftToTargetExponent .binary64 p g .exact).1.roundedMantissa =
      roundDiv q (2 ^ gridExponent q) := by
  have hcoarse := le_gridExponent hp hg hq hlong
  have hshift : (gridExponent q - 2148 - g).toNat + (g + 2148).toNat = gridExponent q := by omega
  calc (shiftToTargetExponent .binary64 p g .exact).1.roundedMantissa
      = (ExtendedMantissa.ofMantissaAndAccuracy p .exact >>>
          (Format.binary64.targetExponent (totalExponent p g) - g).toNat).roundedMantissa := rfl
    _ = roundDiv p (2 ^ (gridExponent q - 2148 - g).toNat) := by
        rw [roundedMantissa_shiftRight, targetExponent_product hp hg hq]
    _ = roundDiv q (2 ^ gridExponent q) := by
        rw [← roundDiv_mul_right _ _ (Nat.two_pow_pos (g + 2148).toNat), ← hq, ← Nat.pow_add,
          hshift]

theorem exponent_product :
    (shiftToTargetExponent .binary64 p g .exact).2 = gridExponent q - 2148 := by
  have hcoarse := le_gridExponent hp hg hq hlong
  show g + (Format.binary64.targetExponent (totalExponent p g) - g).toNat = _
  rw [targetExponent_product hp hg hq]
  omega

theorem place_roundWithAccuracy (s : Sign) :
    place (stored (roundWithAccuracy .binary64 s p g .exact)) = s.apply (nearestMagnitude q) := by
  have hfinest : 1074 ≤ gridExponent q := Nat.le_max_right ..
  have hcarried : roundWithAccuracy .binary64 s p g .exact =
      carried s (shiftToTargetExponent .binary64 p g .exact).1.roundedMantissa
        (shiftToTargetExponent .binary64 p g .exact).2 := rfl
  rw [hcarried, roundedMantissa_product hp hg hq hlong, exponent_product hp hg hq hlong]
  refine place_carried s (roundDiv_grid_le q) (by omega) ?_ ?_
  · obtain hgrid | hgrid := hfinest.lt_or_eq
    · exact .inl (le_roundDiv_grid hgrid)
    · exact .inr (by omega)
  · have hplace : ((gridExponent q : ℤ) - 2148 + 1074).toNat = gridExponent q - 1074 := by omega
    rw [hplace, nearestOnGrid]

end product

theorem apply_nearestMagnitude_zero (s : Sign) : s.apply (nearestMagnitude 0) = 0 := by
  rw [nearestMagnitude_zero]
  cases s <;> rfl

theorem nearest_place_mul (u v : UnpackedFloat) :
    nearest (place u * place v) =
      (signOf u * signOf v).apply (nearestMagnitude (magnitude u * magnitude v)) := by
  unfold place
  rw [apply_mul_apply, ← Nat.cast_mul, nearest_apply]

/-- The position of a product is the product of the positions, rounded. -/
theorem place_mul {u v : UnpackedFloat} (hu : Canonical u) (hv : Canonical v) :
    place (stored (UnpackedFloat.mul .binary64 u v)) = nearest (place u * place v) := by
  rw [nearest_place_mul]
  -- the cases are those of the product: undefined, infinite, zero and finite
  fun_cases UnpackedFloat.mul Format.binary64 u v
  case case1 | case2 | case6 | case7 =>
    simp only [stored_notANumber, place_notANumber, magnitude_notANumber, magnitude_zero,
      Nat.zero_mul, Nat.mul_zero, apply_nearestMagnitude_zero]
  case case3 s t =>
    rw [stored_infinity, magnitude_infinity, magnitude_infinity,
      nearestMagnitude_infinite infinite_pos]
    rfl
  case case4 s t n f hn =>
    rw [stored_infinity, magnitude_infinity, nearestMagnitude_infinite (magnitude_finite_pos hn)]
    rfl
  case case5 s m e hm t =>
    rw [stored_infinity, magnitude_infinity, mul_comm (magnitude _),
      nearestMagnitude_infinite (magnitude_finite_pos hm)]
    rfl
  case case8 | case9 | case10 =>
    simp only [stored_zero, place_zero, magnitude_zero, Nat.zero_mul, Nat.mul_zero,
      apply_nearestMagnitude_zero]
  case case11 s m e hm t n f hn =>
    have he := hu.1.le_exponent
    have hf := hv.1.le_exponent
    have hproduct : m * 2 ^ (e + 1074).toNat * (n * 2 ^ (f + 1074).toNat) =
        m * n * 2 ^ (e + f + 2148).toNat := by
      rw [show (e + f + 2148).toNat = (e + 1074).toNat + (f + 1074).toNat by omega]
      ring
    have hlong : 2 ^ 52 ≤ m * n ∨ e + f ≤ -1074 := by
      obtain hm' | he' := hu.1.full
      · exact .inl (hm'.trans (Nat.le_mul_of_pos_right m hn))
      · obtain hn' | hf' := hv.1.full
        · exact .inl (hn'.trans (Nat.le_mul_of_pos_left n hm))
        · exact .inr (by omega)
    exact place_roundWithAccuracy (Nat.mul_pos hm hn) (by omega) hproduct hlong (s * t)

/-! ### Products -/

section products

variable {x y z : Float}

theorem position_mul (x y : Float) : position (x * y) = nearest (position x * position y) :=
  place_mul (canonical_unpack _) (canonical_unpack _)

theorem position_mul_nonneg (hx : 0 ≤ position x) (hy : 0 ≤ position y) : 0 ≤ position (x * y) := by
  rw [position_mul]
  exact nearest_nonneg (mul_nonneg hx hy)

theorem position_mul_mono (h : position x ≤ position y) (hz : 0 ≤ position z) :
    position (x * z) ≤ position (y * z) := by
  rw [position_mul, position_mul]
  exact nearest_mono (mul_le_mul_of_nonneg_right h hz)

theorem Defined.mul_of_finite (hx : Defined x) (hy : 0 < y) (hfinite : y.isFinite = true) :
    Defined (x * y) := by
  have hunpack : y.toModel.unpack.isFinite = true := hfinite
  unfold Defined
  apply unpack_pack_ne_notANumber .binary64
  obtain hinf | ⟨n, f, hn, hy'⟩ := unpack_of_pos hy
  · rw [hinf] at hunpack
    cases hunpack
  · rw [hy']
    cases hx' : x.toModel.unpack with
    | notANumber => exact absurd hx' hx
    | finite s m e hm => exact roundWithAccuracy_ne_notANumber .binary64 _ (m * n) (e + f) _
    | _ => exact UnpackedFloat.noConfusion

end products

/-! ### The greater and the lesser of two doubles -/

section extrema

variable {a b : Float}

theorem isUndefined_iff : Scalar.isUndefined b = true ↔ ¬ Defined b := by
  constructor
  · intro h hdefined
    rw [Scalar.isUndefined, hdefined.beq_self] at h
    cases h
  · intro h
    have hunpack : b.toModel.unpack = .notANumber := not_not.mp h
    show (!(b.toModel.unpack.compare b.toModel.unpack == some .eq)) = true
    rw [hunpack]
    rfl

theorem position_of_undefined (h : ¬ Defined b) : position b = 0 := by
  rw [position, not_not.mp h, place_notANumber]

theorem max_of_undefined (hb : ¬ Defined b) : Scalar.max a b = a :=
  if_pos (isUndefined_iff.mpr hb)

theorem max_of_defined (hb : Defined b) : Scalar.max a b = if b < a then a else b :=
  if_neg (mt isUndefined_iff.mp (not_not.mpr hb))

theorem Defined.max (ha : Defined a) : Defined (Scalar.max a b) := by
  by_cases hb : Defined b
  · rw [max_of_defined hb]
    split_ifs <;> assumption
  · rw [max_of_undefined hb]
    exact ha

/-- An undefined operand gives way, so that it counts as zero beside one that is not negative. -/
theorem position_max (ha : Defined a) (hnonneg : 0 ≤ position a) :
    position (Scalar.max a b) = Max.max (position a) (position b) := by
  by_cases hb : Defined b
  · rw [max_of_defined hb]
    split_ifs with h
    · exact (max_eq_left (lt_iff.mp h).2.le).symm
    · exact (max_eq_right (not_lt.mp fun hlt => h (lt_iff.mpr ⟨⟨hb, ha⟩, hlt⟩))).symm
  · rw [max_of_undefined hb, position_of_undefined hb, max_eq_left hnonneg]

theorem position_min (ha : Defined a) (hb : Defined b) :
    position (Scalar.min a b) = Min.min (position a) (position b) := by
  have hmin : Scalar.min a b = if a < b then a else b :=
    if_neg (mt isUndefined_iff.mp (not_not.mpr hb))
  rw [hmin]
  split_ifs with h
  · exact (min_eq_left (lt_iff.mp h).2.le).symm
  · exact (min_eq_right (not_lt.mp fun hlt => h (lt_iff.mpr ⟨⟨ha, hb⟩, hlt⟩))).symm

end extrema

end GlobeView.Double
