import GlobeView.Proofs.DoubleProducts

/-! # Doubles that stay in range

Rounding may carry a number over the end of the range of doubles, by one bit at most.  A number
whose leading bit is below `2 ^ 1023` therefore stays finite, however it was computed
(`isFinite_stored_round`).

* The quotient of a finite double by another one that is at least two is finite (`isFinite_div`).
* A product of finite doubles may be infinite, but it is defined (`defined_mul`).
* A count that fits into a word has a finite double (`isFinite_ofNat`). -/

namespace GlobeView.Double

open Float.Model Float.Model.UnpackedFloat

theorem eq_of_isFinite {u : UnpackedFloat} (h : u.isFinite = true) :
    (∃ s, u = .zero s) ∨ ∃ s m e hm, u = .finite s m e hm := by
  cases u with
  | zero s => exact .inl ⟨s, rfl⟩
  | finite s m e hm => exact .inr ⟨s, m, e, hm, rfl⟩
  | _ => cases h

/-! ### Rounding -/

section rounding

variable {m : ℕ} {e : ℤ} (s : Sign)

theorem isFinite_unpack {b : BitVec Format.binary64.numBits} (h : unpackExponent b ≠ -1#_) :
    (UnpackedFloat.unpack .binary64 b).isFinite = true := by
  simp only [UnpackedFloat.unpack, if_neg h]
  split_ifs <;> rfl

theorem isFinite_stored_finite (hm : 0 < m) (hlow : -1075 ≤ e) (he : e ≤ 971) :
    (stored (.finite s m e hm)).isFinite = true := by
  rw [stored, pack_finite s hm hlow, if_neg (not_lt.mpr he)]
  split_ifs
  · apply isFinite_unpack
    rw [unpackExponent_packComponents]
    intro hfull
    have hexponent : (e + 1075).toNat % 2 ^ 11 = 2 ^ 11 - 1 := congrArg BitVec.toNat hfull
    omega
  · apply isFinite_unpack
    rw [unpackExponent_packComponents]
    decide

theorem mantissa_shiftRight (a : Accuracy) (k : ℕ) :
    (ExtendedMantissa.ofMantissaAndAccuracy m a >>> k).mantissa = m / 2 ^ k := by
  induction k with
  | zero =>
      show (ExtendedMantissa.ofMantissaAndAccuracy m a).mantissa = _
      rw [Nat.pow_zero, Nat.div_one]
      cases a with
      | exact => rfl
      | inexact o => cases o <;> rfl
  | succ k ih =>
      show (ExtendedMantissa.ofMantissaAndAccuracy m a >>> k).mantissa / 2 = _
      rw [ih, Nat.div_div_eq_div_mul, Nat.pow_succ]

theorem roundedMantissa_le (em : ExtendedMantissa) : em.roundedMantissa ≤ em.mantissa + 1 := by
  unfold ExtendedMantissa.roundedMantissa
  cases em.accuracy with
  | exact => exact Nat.le_succ _
  | inexact o => cases o <;> simp only [Accuracy.roundToNearestEven] <;> omega

/-- Rounding to fewer bits adds a bit at most. -/
theorem log2_roundedMantissa (a : Accuracy) (k : ℕ) :
    (ExtendedMantissa.ofMantissaAndAccuracy m a >>> k).roundedMantissa.log2 ≤ m.log2 + 1 - k := by
  have hle := roundedMantissa_le (ExtendedMantissa.ofMantissaAndAccuracy m a >>> k)
  rw [mantissa_shiftRight] at hle
  obtain hk | hk := le_or_gt k (m.log2 + 1)
  · have hbound : m / 2 ^ k + 1 ≤ 2 ^ (m.log2 + 1 - k) := by
      rw [Nat.succ_le_iff, Nat.div_lt_iff_lt_mul (Nat.two_pow_pos k), ← Nat.pow_add,
        Nat.sub_add_cancel hk]
      exact Nat.lt_log2_self
    calc (ExtendedMantissa.ofMantissaAndAccuracy m a >>> k).roundedMantissa.log2
        ≤ (2 ^ (m.log2 + 1 - k)).log2 := by
          simpa only [Nat.log2_eq_log_two] using Nat.log_mono_right (hle.trans hbound)
      _ = m.log2 + 1 - k := Nat.log2_two_pow
  · have hnone : m / 2 ^ k = 0 :=
      Nat.div_eq_of_lt (Nat.lt_log2_self.trans_le (Nat.pow_le_pow_right Nat.two_pos hk.le))
    rw [hnone, Nat.zero_add] at hle
    have hlog : (ExtendedMantissa.ofMantissaAndAccuracy m a >>> k).roundedMantissa.log2 = 0 := by
      interval_cases (ExtendedMantissa.ofMantissaAndAccuracy m a >>> k).roundedMantissa <;> rfl
    rw [hlog]
    exact Nat.zero_le _

/-- A number whose leading bit is below `2 ^ 1023` stays finite when it is rounded. -/
theorem isFinite_stored_round (hlead : m.log2 + e < 1023) (he : e ≤ 971) (a : Accuracy) :
    (stored (roundWithAccuracy .binary64 s m e a)).isFinite = true := by
  have hround : roundWithAccuracy .binary64 s m e a =
      carried s (shiftToTargetExponent .binary64 m e a).1.roundedMantissa
        (shiftToTargetExponent .binary64 m e a).2 := rfl
  have hshift : Format.binary64.targetExponent (totalExponent m e) =
      max (m.log2 + e - 52) (-1074) := targetExponent_eq m e
  set k := (max (m.log2 + e - 52) (-1074) - e).toNat with hk
  have hexponent : (shiftToTargetExponent .binary64 m e a).2 = e + k := by
    show e + (Format.binary64.targetExponent (totalExponent m e) - e).toNat = _
    rw [hshift]
  have hlog : (shiftToTargetExponent .binary64 m e a).1.roundedMantissa.log2 ≤ m.log2 + 1 - k := by
    show (ExtendedMantissa.ofMantissaAndAccuracy m a >>>
      (Format.binary64.targetExponent (totalExponent m e) - e).toNat).roundedMantissa.log2 ≤ _
    rw [hshift]
    exact log2_roundedMantissa a k
  rw [hround, hexponent]
  generalize (shiftToTargetExponent .binary64 m e a).1.roundedMantissa = rounded at hlog
  rw [carried_eq s rfl]
  split_ifs
  · rw [stored_zero]
    rfl
  · exact isFinite_stored_finite s _ (by omega) (by omega)

/-- A short significand is written with more bits before it is rounded, as many as the grid has. -/
theorem round_eq_roundWithAccuracy (he : -1074 ≤ e) :
    ∃ k : ℕ, (m.log2 + k ≤ 52 ∨ k = 0) ∧ (52 ≤ m.log2 + k ∨ e - k ≤ -1074) ∧ k ≤ e + 1074 ∧
      UnpackedFloat.round .binary64 .positive m e =
        roundWithAccuracy .binary64 .positive (m * 2 ^ k) (e - k) .exact := by
  have htarget : Format.binary64.targetExponent (totalExponent m e) =
      max ((m.log2 : ℤ) + e - 52) (-1074) := targetExponent_eq m e
  set k := (e - Format.binary64.targetExponent (totalExponent m e)).toNat with hk
  have hround : UnpackedFloat.round .binary64 .positive m e =
      roundWithAccuracy .binary64 .positive (m <<< k) (e - k) .exact := rfl
  refine ⟨k, by omega, by omega, by omega, ?_⟩
  rw [hround, Nat.shiftLeft_eq]

theorem place_round (hm : 0 < m) (he : -1074 ≤ e) :
    place (stored (UnpackedFloat.round .binary64 .positive m e)) =
      nearestMagnitude (m * 2 ^ (e + 2148).toNat) := by
  obtain ⟨k, -, hbits, hlow, hround⟩ := round_eq_roundWithAccuracy (m := m) he
  have hlong : 2 ^ 52 ≤ m * 2 ^ k ∨ e - k ≤ -1074 := by
    refine hbits.imp_left fun hbits => ?_
    calc 2 ^ 52
        ≤ 2 ^ (m.log2 + k) := Nat.pow_le_pow_right Nat.two_pos hbits
      _ = 2 ^ m.log2 * 2 ^ k := Nat.pow_add ..
      _ ≤ m * 2 ^ k := Nat.mul_le_mul_right _ (Nat.log2_self_le hm.ne')
  have hvalue : m * 2 ^ (e + 2148).toNat = m * 2 ^ k * 2 ^ (e - k + 2148).toNat := by
    rw [Nat.mul_assoc, ← Nat.pow_add]
    congr 2
    omega
  rw [hround]
  exact place_roundWithAccuracy (Nat.mul_pos hm (Nat.two_pow_pos k)) (by omega) hvalue hlong
    .positive

end rounding

/-! ### Quotients -/

section arithmetic

variable {x y : Float}

theorem log2_shift_div_le {m n : ℕ} (hn : 0 < n) (k : ℕ) :
    (m <<< k / n).log2 + n.log2 ≤ m.log2 + k ∨ m <<< k / n = 0 := by
  obtain hzero | hpos := Nat.eq_zero_or_pos (m <<< k / n)
  · exact .inr hzero
  left
  have hmul : m <<< k / n * n ≤ m * 2 ^ k := by
    rw [Nat.shiftLeft_eq]
    exact Nat.div_mul_le_self _ _
  have hlt : 2 ^ ((m <<< k / n).log2 + n.log2) < 2 ^ (m.log2 + 1 + k) :=
    calc 2 ^ ((m <<< k / n).log2 + n.log2)
        = 2 ^ (m <<< k / n).log2 * 2 ^ n.log2 := Nat.pow_add ..
      _ ≤ m <<< k / n * n :=
          Nat.mul_le_mul (Nat.log2_self_le hpos.ne') (Nat.log2_self_le hn.ne')
      _ ≤ m * 2 ^ k := hmul
      _ < 2 ^ (m.log2 + 1) * 2 ^ k :=
          Nat.mul_lt_mul_of_pos_right Nat.lt_log2_self (Nat.two_pow_pos k)
      _ = 2 ^ (m.log2 + 1 + k) := (Nat.pow_add ..).symm
  have := (Nat.pow_lt_pow_iff_right Nat.one_lt_two).mp hlt
  omega

/-- A double that is at least two has its leading bit at two or above. -/
theorem unpack_of_two_le (hy : y.isFinite = true) (htwo : 2 ≤ y) :
    ∃ n f hn, y.toModel.unpack = .finite .positive n f hn ∧ 1 ≤ n.log2 + f := by
  have htwo' : 0 < position 2 ∧ (position 2).natAbs.log2 = 1075 := by decide +kernel
  have hposition : position 2 ≤ place y.toModel.unpack := (le_iff.mp htwo).2
  have hunpack : y.toModel.unpack.isFinite = true := hy
  have hcanonical : Canonical y.toModel.unpack := canonical_unpack _
  obtain ⟨s, hzero⟩ | ⟨s, n, f, hn, hfinite⟩ := eq_of_isFinite hunpack
  · rw [hzero, place_zero] at hposition
    exact absurd htwo'.1 hposition.not_gt
  rw [hfinite] at hposition hcanonical
  cases s with
  | negative =>
      exact absurd htwo'.1 (hposition.trans (place_finite_neg f hn).le).not_gt
  | positive =>
      refine ⟨n, f, hn, hfinite, ?_⟩
      have hlow := hcanonical.1.le_exponent
      have hmagnitude : (position 2).natAbs ≤ n * 2 ^ (f + 1074).toNat := by
        have hcast : position 2 ≤ (n * 2 ^ (f + 1074).toNat : ℕ) := hposition
        omega
      have hlog : 1075 ≤ n.log2 + (f + 1074).toNat :=
        calc 1075
            = (position 2).natAbs.log2 := htwo'.2.symm
          _ ≤ (n * 2 ^ (f + 1074).toNat).log2 := by
              simpa only [Nat.log2_eq_log_two] using Nat.log_mono_right hmagnitude
          _ = n.log2 + (f + 1074).toNat := log2_mul_two_pow hn _
      omega

theorem isFinite_div (hx : x.isFinite = true) (hy : y.isFinite = true) (htwo : 2 ≤ y) :
    (x / y).isFinite = true := by
  show (stored (UnpackedFloat.div .binary64 x.toModel.unpack y.toModel.unpack)).isFinite = true
  have hunpack : x.toModel.unpack.isFinite = true := hx
  have hcanonical : Canonical x.toModel.unpack := canonical_unpack _
  obtain ⟨n, f, hn, hdivisor, hlead⟩ := unpack_of_two_le hy htwo
  obtain ⟨s, hzero⟩ | ⟨s, m, e, hm, hfinite⟩ := eq_of_isFinite hunpack
  · rw [hzero, hdivisor, UnpackedFloat.div, stored_zero]
    rfl
  rw [hfinite] at hcanonical
  have he := hcanonical.2
  have hlog : m.log2 ≤ 52 := Nat.le_of_lt_succ ((Nat.log2_lt hm.ne').mpr hcanonical.1.lt)
  -- the quotient is computed on a grid that leaves more bits than are kept
  set grid := min (e - f)
    (Format.binary64.targetExponent (totalExponent m e - totalExponent n f)) with hgrid
  have htarget : Format.binary64.targetExponent (totalExponent m e - totalExponent n f) =
      max (m.log2 + e - (n.log2 + f) - 53) (-1074) := by
    show max ((m.log2 : ℤ) + 1 + e - ((n.log2 : ℤ) + 1 + f) - 53) (-1074) = _
    omega
  have hquotient : UnpackedFloat.div .binary64 (.finite s m e hm) (.finite .positive n f hn) =
      roundWithAccuracy .binary64 (s / .positive) (m <<< (e - f - grid).toNat / n) grid
        (accuracyOfFraction (m <<< (e - f - grid).toNat % n) n) := rfl
  rw [hfinite, hdivisor, hquotient]
  refine isFinite_stored_round _ ?_ (by omega) _
  obtain hbits | hnone := log2_shift_div_le (m := m) hn (e - f - grid).toNat
  · omega
  · rw [hnone, Nat.log2_zero]
    omega

/-! ### Products and signs -/

theorem isFinite_of_defined (hx : Defined x) (hinf : ¬ x.isInf = true) : x.isFinite = true := by
  show x.toModel.unpack.isFinite = true
  have hunpack : ¬ x.toModel.unpack.isInf = true := hinf
  unfold Defined at hx
  cases h : x.toModel.unpack with
  | notANumber => exact absurd h hx
  | infinity s => exact absurd (by rw [h]; rfl) hunpack
  | _ => rfl

theorem isFinite_of_position (hx : Defined x) (h : |position x| < infinite) :
    x.isFinite = true := by
  refine isFinite_of_defined hx fun hinf => ?_
  have hunpack : x.toModel.unpack.isInf = true := hinf
  have hposition : |place x.toModel.unpack| < infinite := h
  cases hu : x.toModel.unpack with
  | infinity s =>
      rw [hu] at hposition
      cases s <;> simp [place, signOf, Sign.apply] at hposition
  | _ => rw [hu] at hunpack; cases hunpack

theorem defined_mul (hx : x.isFinite = true) (hy : y.isFinite = true) : Defined (x * y) := by
  have hx' : x.toModel.unpack.isFinite = true := hx
  have hy' : y.toModel.unpack.isFinite = true := hy
  apply unpack_pack_ne_notANumber .binary64
  obtain ⟨s, hu⟩ | ⟨s, m, e, hm, hu⟩ := eq_of_isFinite hx' <;>
    obtain ⟨t, hv⟩ | ⟨t, n, f, hn, hv⟩ := eq_of_isFinite hy' <;> rw [hu, hv]
  · exact UnpackedFloat.noConfusion
  · exact UnpackedFloat.noConfusion
  · exact UnpackedFloat.noConfusion
  · exact roundWithAccuracy_ne_notANumber .binary64 (s * t) (m * n) (e + f) .exact

theorem isFinite_neg (hx : x.isFinite = true) : (-x).isFinite = true := by
  have hunpack : x.toModel.unpack.isFinite = true := hx
  have hcanonical : Canonical x.toModel.unpack := canonical_unpack _
  show (stored x.toModel.unpack.neg).isFinite = true
  obtain ⟨s, hu⟩ | ⟨s, m, e, hm, hu⟩ := eq_of_isFinite hunpack
  · rw [hu, UnpackedFloat.neg, stored_zero]
    rfl
  · rw [hu] at hcanonical ⊢
    have hlow := hcanonical.1.le_exponent
    exact isFinite_stored_finite _ hm (by omega) hcanonical.2

end arithmetic

/-! ### Counts -/

section counts

variable {n : ℕ}

theorem isFinite_round_count (hn : 0 < n) (h : n < 2 ^ 64) :
    (stored (UnpackedFloat.round .binary64 .positive n 0)).isFinite = true := by
  obtain ⟨k, hfew, -, -, hround⟩ := round_eq_roundWithAccuracy (m := n) (e := 0) (by omega)
  have hlog : n.log2 < 64 := (Nat.log2_lt hn.ne').mpr h
  rw [hround]
  refine isFinite_stored_round _ ?_ (by omega) _
  rw [log2_mul_two_pow hn]
  push_cast
  omega

theorem unpack_toFloat (hn : 0 < n) (h : n < 2 ^ 64) :
    n.toUInt64.toFloat.toModel.unpack =
      stored (UnpackedFloat.round .binary64 .positive n 0) := by
  show stored (UnpackedFloat.normalize .binary64 (n.toUInt64.toNat : ℤ) 0 .positive) = _
  rw [UInt64.toNat_ofNat_of_lt' h, UnpackedFloat.normalize, Int.compare_eq_gt.mpr (by omega)]
  rfl

/-- A word times one stays far from the end of the range. -/
theorem isFinite_toFloat_mul_one (hn : 0 < n) (h : n < 2 ^ 64) :
    (n.toUInt64.toFloat * Float.ofBits 0x3FF0000000000000).isFinite = true := by
  have hunpack := unpack_toFloat hn h
  have hfinite : n.toUInt64.toFloat.isFinite = true := by
    show n.toUInt64.toFloat.toModel.unpack.isFinite = true
    rw [hunpack]
    exact isFinite_round_count hn h
  have hplace : position n.toUInt64.toFloat = nearestMagnitude (n * 2 ^ 2148) := by
    have hexponent : ((0 : ℤ) + 2148).toNat = 2148 := rfl
    rw [position, hunpack, place_round hn (by omega), hexponent]
  have hnonneg : 0 ≤ position n.toUInt64.toFloat := by
    rw [hplace]
    exact Int.natCast_nonneg _
  have hscale (k : ℕ) : n * 2 ^ k ≤ 2 ^ 64 <<< k := by
    rw [Nat.shiftLeft_eq]
    exact Nat.mul_le_mul_right _ h.le
  have hcount : position n.toUInt64.toFloat ≤ nearestMagnitude (2 ^ 64 <<< 2148) := by
    rw [hplace]
    exact Int.ofNat_le.mpr (nearestMagnitude_mono (hscale 2148))
  have hone : 0 ≤ position (Float.ofBits 0x3FF0000000000000) := by decide +kernel
  have hbound : nearest (nearestMagnitude (2 ^ 64 <<< 2148) *
      position (Float.ofBits 0x3FF0000000000000)) < infinite := by decide +kernel
  refine isFinite_of_position (defined_mul hfinite rfl) ?_
  rw [abs_of_nonneg (position_mul_nonneg hnonneg hone), position_mul]
  exact (nearest_mono (mul_le_mul_of_nonneg_right hcount hone)).trans_lt hbound

/-- A product with a power of ten is rounded once. -/
theorem ofScientific_eq (hn : 0 < n) {k : ℕ} (hk : k ≤ 2 ^ 11) :
    UnpackedFloat.ofScientific .binary64 n k =
      roundWithAccuracy .binary64 .positive (n * 2 ^ 53 * 10 ^ k) (-53) .exact := by
  have hlarge : ¬ (k : ℤ) > 2 ^ 11 := by omega
  have hsmall : ¬ (k : ℤ) < -(2 ^ 11 + (n.log2 : ℤ)) := by omega
  rw [UnpackedFloat.ofScientific, dif_neg hn.ne', if_neg hlarge, if_neg hsmall,
    if_pos (Int.natCast_nonneg k), ← Nat.shiftLeft_eq]
  rfl

theorem defined_ofScientific (hn : 0 < n) {k : ℕ} (hk : k ≤ 2 ^ 11) :
    stored (UnpackedFloat.ofScientific .binary64 n k) ≠ .notANumber := by
  rw [ofScientific_eq hn hk]
  exact unpack_pack_ne_notANumber .binary64 (roundWithAccuracy_ne_notANumber .binary64 _ _ _ _)

theorem place_ofScientific (hn : 0 < n) {k : ℕ} (hk : k ≤ 2 ^ 11) :
    place (stored (UnpackedFloat.ofScientific .binary64 n k)) =
      nearestMagnitude (n * 10 ^ k * 2 ^ 2148) := by
  have hlong : 2 ^ 52 ≤ n * 2 ^ 53 * 10 ^ k :=
    calc 2 ^ 52
        ≤ 1 * 2 ^ 53 * 1 := by norm_num
      _ ≤ n * 2 ^ 53 * 10 ^ k :=
          Nat.mul_le_mul (Nat.mul_le_mul_right _ hn) (Nat.one_le_pow _ _ (by norm_num))
  have hvalue (i j : ℕ) (hi : i = 53 + j) :
      n * 10 ^ k * 2 ^ i = n * 2 ^ 53 * 10 ^ k * 2 ^ j := by
    rw [hi, Nat.mul_right_comm n (2 ^ 53), Nat.mul_assoc (n * 10 ^ k), ← Nat.pow_add]
  rw [ofScientific_eq hn hk]
  exact place_roundWithAccuracy (Nat.lt_of_lt_of_le (Nat.two_pow_pos 52) hlong) (by omega)
    (hvalue 2148 ((-53 : ℤ) + 2148).toNat rfl) (.inl hlong) .positive

theorem isFinite_ofNat (h : n < 2 ^ 64) : (Float.ofNat n).isFinite = true := by
  obtain rfl | hn := Nat.eq_zero_or_pos n
  · decide +kernel
  -- counts of up to 53 bits are taken as words
  by_cases hsmall : n < 2 ^ 53
  · have hword : Float.ofNat n = n.toUInt64.toFloat * Float.ofBits 0x3FF0000000000000 :=
      dif_pos ⟨hsmall, Nat.zero_le 22⟩
    rw [hword]
    exact isFinite_toFloat_mul_one hn h
  · have hmodel : Float.ofNat n = Float.ofModel (Float.Model.ofScientific n 0) :=
      dif_neg fun hfast => hsmall hfast.1
    have hlog : n.log2 < 64 := (Nat.log2_lt hn.ne').mpr h
    rw [hmodel]
    show (stored (UnpackedFloat.ofScientific .binary64 n (0 : ℕ))).isFinite = true
    rw [ofScientific_eq hn (Nat.zero_le _), Nat.pow_zero, Nat.mul_one]
    refine isFinite_stored_round _ ?_ (by omega) _
    rw [log2_mul_two_pow hn]
    push_cast
    omega

end counts

end GlobeView.Double
