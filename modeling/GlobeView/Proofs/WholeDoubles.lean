import GlobeView.Proofs.DoubleSums

/-! # Doubles and whole numbers

A finite double that is not negative stands for a number of its own, its position in units of
`2 ^ -1074` (`value`).  What is computed from it on the way to a whole number is exact: the whole
part (`Stands.toNat_toUInt64`), the double of that (`Stands.toFloat`), what is left of the double
(`Stands.sub`) and the next whole number (`Stands.add`).  They all have 53 bits at most, and
rounding leaves such numbers alone (`nearestMagnitude_onGrid`).

So rounding to a whole number, a half going up, is what it is for any numbers (`Stands.round`). -/

namespace GlobeView.Double

open Float.Model Float.Model.UnpackedFloat

/-- The position of one. -/
def unit : ℕ := 2 ^ 1074

theorem unit_eq : unit = 2 ^ 1074 := rfl

attribute [irreducible] unit

theorem unit_pos : 0 < unit := by
  rw [unit_eq]
  positivity

theorem two_pow_add (k : ℕ) : 2 ^ (k + 1074) = 2 ^ k * unit := by
  have hadd {n : ℕ} (h : unit = 2 ^ n) : 2 ^ (k + n) = 2 ^ k * unit := by rw [h, Nat.pow_add]
  exact hadd unit_eq

/-- The number that a finite double stands for. -/
def value (x : Float) : ℚ := position x / unit

/-! ### Numbers of 53 bits -/

/-- A number with at most 53 bits before its zeros. -/
def OnGrid (p : ℕ) : Prop := ∃ m k, m < 2 ^ 53 ∧ p = m * 2 ^ k

theorem OnGrid.mul_unit {n : ℕ} (h : n < 2 ^ 53) : OnGrid (n * unit) :=
  ⟨n, 1074, h, congrArg (n * ·) unit_eq⟩

theorem nearestOnGrid_onGrid {p : ℕ} (h : OnGrid p) : nearestOnGrid (p * unit) = p := by
  obtain ⟨m, k, hm, rfl⟩ := h
  obtain rfl | hpos := Nat.eq_zero_or_pos m
  · rw [Nat.zero_mul, Nat.zero_mul]
    decide +kernel
  -- a grid that leaves 53 bits is not coarser than the number
  have hlog : m.log2 ≤ 52 := Nat.le_of_lt_succ ((Nat.log2_lt hpos.ne').mpr hm)
  have hgrid : gridExponent (m * 2 ^ (k + 1074)) ≤ k + 1074 := by
    rw [gridExponent, log2_mul_two_pow hpos]
    omega
  have hfine : 1074 ≤ gridExponent (m * 2 ^ (k + 1074)) := Nat.le_max_right ..
  rw [Nat.mul_assoc, ← two_pow_add, nearestOnGrid]
  generalize gridExponent (m * 2 ^ (k + 1074)) = g at hgrid hfine
  have hsplit : m * 2 ^ (k + 1074) = m * 2 ^ (k + 1074 - g) * 2 ^ g := by
    rw [Nat.mul_assoc, ← Nat.pow_add, Nat.sub_add_cancel hgrid]
  have hback : k + 1074 - g + (g - 1074) = k := by omega
  rw [hsplit, roundDiv_mul_self _ (Nat.two_pow_pos g), Nat.mul_assoc, ← Nat.pow_add, hback]

theorem nearestMagnitude_onGrid {p : ℕ} (h : OnGrid p) (hrange : p < overflow) :
    nearestMagnitude (p * unit) = p := by
  rw [nearestMagnitude, nearestOnGrid_onGrid h, if_pos hrange]

/-! ### Where finite doubles stand -/

theorem isFinite_min {x y : Float} (hx : x.isFinite = true) (hy : y.isFinite = true) :
    (Scalar.min x y).isFinite = true := by
  unfold Scalar.min
  split_ifs <;> assumption

theorem isFinite_max {x y : Float} (hx : x.isFinite = true) (hy : y.isFinite = true) :
    (Scalar.max x y).isFinite = true := by
  unfold Scalar.max
  split_ifs <;> assumption

/-- A finite double stands at a position that is not negative. -/
structure Stands (x : Float) (p : ℕ) : Prop where
  finite : x.isFinite = true
  position : position x = p

theorem place_normalize (k : ℕ) {e : ℤ} (he : -1074 ≤ e) :
    place (stored (UnpackedFloat.normalize .binary64 k e .positive)) =
      nearestMagnitude (k * 2 ^ (e + 2148).toNat) := by
  obtain rfl | hk := Nat.eq_zero_or_pos k
  · have hzero : UnpackedFloat.normalize .binary64 (0 : ℕ) e .positive = .zero .positive := rfl
    rw [hzero, stored_zero, place_zero, Nat.zero_mul, nearestMagnitude_zero, Nat.cast_zero]
  · rw [UnpackedFloat.normalize, Int.compare_eq_gt.mpr (Int.natCast_pos.mpr hk)]
    exact place_round hk he

theorem stored_normalize_ne_notANumber (k : ℕ) {e : ℤ} (he : -1074 ≤ e) :
    stored (UnpackedFloat.normalize .binary64 k e .positive) ≠ .notANumber := by
  obtain rfl | hk := Nat.eq_zero_or_pos k
  · exact unpack_pack_ne_notANumber .binary64 UnpackedFloat.noConfusion
  · rw [UnpackedFloat.normalize, Int.compare_eq_gt.mpr (Int.natCast_pos.mpr hk)]
    obtain ⟨_, _, _, _, hround⟩ := round_eq_roundWithAccuracy (m := k) he
    simp only [Int.toNat_natCast, hround]
    exact unpack_pack_ne_notANumber .binary64 (roundWithAccuracy_ne_notANumber .binary64 _ _ _ _)

namespace Stands

variable {x y : Float} {p q : ℕ}

theorem defined (hx : Stands x p) : Defined x := by
  have hunpack : x.toModel.unpack.isFinite = true := hx.finite
  intro h
  rw [h] at hunpack
  cases hunpack

theorem le_iff (hx : Stands x p) (hy : Stands y q) : x ≤ y ↔ p ≤ q := by
  rw [Double.le_iff, hx.position, hy.position, Int.ofNat_le]
  exact and_iff_right ⟨hx.defined, hy.defined⟩

theorem lt_iff (hx : Stands x p) (hy : Stands y q) : x < y ↔ p < q := by
  rw [Double.lt_iff, hx.position, hy.position, Int.ofNat_lt]
  exact and_iff_right ⟨hx.defined, hy.defined⟩

theorem value_eq (hx : Stands x p) : value x = p / unit := by
  rw [value, hx.position, Int.cast_natCast]

theorem max (hx : Stands x p) (hy : Stands y q) : Stands (Scalar.max x y) (Max.max p q) where
  finite := isFinite_max hx.finite hy.finite
  position := by
    rw [position_max hx.defined (hx.position ▸ Int.natCast_nonneg p), hx.position, hy.position,
      Nat.cast_max]

/-- Such a double is a zero, or positive with a significand of 53 bits. -/
theorem cases (hx : Stands x p) :
    (∃ s, x.toModel.unpack = .zero s ∧ p = 0) ∨
      ∃ m e hm, x.toModel.unpack = .finite .positive m e hm ∧ Significand m e ∧ e ≤ 971 ∧
        p = m * 2 ^ (e + 1074).toNat := by
  have hcanonical : Canonical x.toModel.unpack := canonical_unpack _
  have hposition : place x.toModel.unpack = p := hx.position
  obtain ⟨s, hu⟩ | ⟨s, m, e, hm, hu⟩ := eq_of_isFinite (u := x.toModel.unpack) hx.finite
  · rw [hu, place_zero] at hposition
    exact .inl ⟨s, hu, by omega⟩
  · rw [hu] at hcanonical hposition
    cases s with
    | positive =>
        have hmagnitude : ((m * 2 ^ (e + 1074).toNat : ℕ) : ℤ) = p := hposition
        exact .inr ⟨m, e, hm, hu, hcanonical.1, hcanonical.2, (Int.ofNat_inj.mp hmagnitude).symm⟩
    | negative => exact absurd (hposition ▸ place_finite_neg e hm) (by omega)

theorem onGrid (hx : Stands x p) : OnGrid p := by
  obtain ⟨_, -, rfl⟩ | ⟨m, e, -, -, hm, -, rfl⟩ := hx.cases
  · exact ⟨0, 0, by norm_num, rfl⟩
  · exact ⟨m, _, hm.lt, rfl⟩

theorem lt_overflow (hx : Stands x p) : p < overflow := by
  obtain ⟨_, -, rfl⟩ | ⟨m, e, -, -, hm, he, rfl⟩ := hx.cases
  · exact overflow_pos
  · exact hm.le_971_iff.mp he

theorem of_normalize {k : ℕ} {e : ℤ} (he : -1074 ≤ e)
    (hx : x.toModel.unpack = stored (UnpackedFloat.normalize .binary64 k e .positive))
    (hp : p = k * 2 ^ (e + 1074).toNat) (hgrid : OnGrid p) (hrange : p < overflow) :
    Stands x p := by
  have hposition : Double.position x = p := by
    have hscale : k * 2 ^ (e + 2148).toNat = p * unit := by
      have hexponent : (e + 2148).toNat = (e + 1074).toNat + 1074 := by omega
      rw [hp, hexponent, two_pow_add, Nat.mul_assoc]
    rw [Double.position, hx, place_normalize k he, hscale, nearestMagnitude_onGrid hgrid hrange]
  have hdefined : Defined x := by
    rw [Defined, hx]
    exact stored_normalize_ne_notANumber k he
  refine ⟨isFinite_of_position hdefined ?_, hposition⟩
  rw [hposition, abs_of_nonneg (Int.natCast_nonneg p)]
  exact Int.ofNat_lt.mpr (hrange.trans_le overflow_le_infinite)

end Stands

/-! ### Sums and differences -/

theorem stored_of_canonical {u : UnpackedFloat} (hu : Canonical u) : stored u = u := by
  cases u with
  | infinity s => exact stored_infinity s
  | notANumber => exact stored_notANumber
  | zero s => exact stored_zero s
  | finite s m e hm => exact stored_of_le s hm hu.1 hu.2

theorem position_shift (m : ℕ) {e g : ℤ} (hg : -1074 ≤ g) (hle : g ≤ e) :
    m * 2 ^ (e + 1074).toNat = m <<< (e - g).toNat * 2 ^ (g + 1074).toNat := by
  have hexponent : (e + 1074).toNat = (e - g).toNat + (g + 1074).toNat := by omega
  rw [hexponent, Nat.pow_add, Nat.shiftLeft_eq, Nat.mul_assoc]

namespace Stands

variable {x y : Float} {p q : ℕ}

theorem of_unpack (hy : Stands y q) (h : x.toModel.unpack = y.toModel.unpack) : Stands x q := by
  have hfinite : y.toModel.unpack.isFinite = true := hy.finite
  have hposition : place y.toModel.unpack = q := hy.position
  rw [← h] at hfinite hposition
  exact ⟨hfinite, hposition⟩

theorem of_zero {s : Sign} (h : x.toModel.unpack = .zero s) : Stands x 0 := by
  refine ⟨?_, ?_⟩
  · show x.toModel.unpack.isFinite = true
    rw [h]
    rfl
  · rw [Double.position, h, place_zero, Nat.cast_zero]

theorem add (hx : Stands x p) (hy : Stands y q) (hgrid : OnGrid (p + q))
    (hrange : p + q < overflow) : Stands (x + y) (p + q) := by
  have hunpack : (x + y).toModel.unpack =
      stored (UnpackedFloat.add .binary64 x.toModel.unpack y.toModel.unpack) := rfl
  have hsame {z : Float} {k : ℕ} (hz : Stands z k)
      (h : UnpackedFloat.add .binary64 x.toModel.unpack y.toModel.unpack = z.toModel.unpack) :
      Stands (x + y) k := by
    have hcanonical : Canonical z.toModel.unpack := canonical_unpack _
    rw [h, stored_of_canonical hcanonical] at hunpack
    exact hz.of_unpack hunpack
  obtain ⟨s, hu, rfl⟩ | ⟨m, e, hm, hu, hcanonical, -, rfl⟩ := hx.cases
  · obtain ⟨t, hv, rfl⟩ | ⟨n, f, hn, hv, -, -, rfl⟩ := hy.cases
    · rw [hu, hv] at hunpack
      cases s <;> cases t <;> exact of_zero hunpack
    · rw [Nat.zero_add]
      exact hsame hy (by rw [hu, hv]; rfl)
  · obtain ⟨t, hv, rfl⟩ | ⟨n, f, hn, hv, hcanonical', -, rfl⟩ := hy.cases
    · exact hsame hx (by rw [hu, hv]; rfl)
    · have hlow : -1074 ≤ min e f := le_min hcanonical.le_exponent hcanonical'.le_exponent
      refine of_normalize hlow (k := m <<< (e - min e f).toNat + n <<< (f - min e f).toNat) ?_ ?_
        hgrid hrange
      · rw [hunpack, hu, hv, Nat.cast_add]
        rfl
      · rw [position_shift m hlow (min_le_left e f), position_shift n hlow (min_le_right e f),
          Nat.add_mul]

theorem sub (hx : Stands x p) (hy : Stands y q) (hle : q ≤ p) (hgrid : OnGrid (p - q)) :
    Stands (x - y) (p - q) := by
  have hunpack : (x - y).toModel.unpack =
      stored (UnpackedFloat.sub .binary64 x.toModel.unpack y.toModel.unpack) := rfl
  have hrange : p - q < overflow := (Nat.sub_le p q).trans_lt hx.lt_overflow
  obtain ⟨t, hv, rfl⟩ | ⟨n, f, hn, hv, hcanonical', -, rfl⟩ := hy.cases
  · obtain ⟨s, hu, rfl⟩ | ⟨m, e, hm, hu, hcanonical, he, hp⟩ := hx.cases
    · rw [hu, hv] at hunpack
      cases s <;> cases t <;> exact of_zero hunpack
    · refine hx.of_unpack ?_
      rw [hunpack, hu, hv]
      exact stored_of_le .positive hm hcanonical he
  · obtain ⟨s, -, rfl⟩ | ⟨m, e, hm, hu, hcanonical, -, rfl⟩ := hx.cases
    · exact absurd (magnitude_finite_pos (s := .positive) (e := f) hn) (Nat.not_lt.mpr hle)
    · have hlow : -1074 ≤ min e f := le_min hcanonical.le_exponent hcanonical'.le_exponent
      rw [position_shift m hlow (min_le_left e f), position_shift n hlow (min_le_right e f)] at *
      have hless : n <<< (f - min e f).toNat ≤ m <<< (e - min e f).toNat :=
        Nat.le_of_mul_le_mul_right hle (Nat.two_pow_pos _)
      refine of_normalize hlow (k := m <<< (e - min e f).toNat - n <<< (f - min e f).toNat) ?_
        (Nat.sub_mul ..).symm hgrid hrange
      rw [hunpack, hu, hv, Nat.cast_sub hless]
      rfl

end Stands

/-! ### Whole parts -/

theorem roundToInt_positive (m : ℕ) {e : ℤ} (he : -1074 ≤ e) :
    roundToInt .positive m e = (m * 2 ^ (e + 1074).toNat / unit : ℕ) := by
  have hshift : roundToInt .positive m e =
      ((ExtendedMantissa.ofMantissaAndAccuracy (m <<< (e - 0).toNat) .exact >>>
        (0 - (e - (e - 0).toNat)).toNat).mantissa : ℕ) := rfl
  have hunit : unit =
      2 ^ (0 - (e - (e - 0).toNat)).toNat * 2 ^ (e - (e - 0).toNat + 1074).toNat := by
    rw [← Nat.pow_add, unit_eq]
    congr 1
    omega
  have hexponent : (e + 1074).toNat = (e - 0).toNat + (e - (e - 0).toNat + 1074).toNat := by omega
  rw [hshift, mantissa_shiftRight, Nat.shiftLeft_eq, hunit, hexponent, Nat.pow_add, ← Nat.mul_assoc,
    Nat.mul_div_mul_right _ _ (Nat.two_pow_pos _)]

namespace Stands

variable {x : Float} {p : ℕ}

theorem toInt_eq (hx : Stands x p) (low high : ℤ) :
    x.toModel.unpack.toInt low high = (p / unit : ℕ) := by
  obtain ⟨s, hu, rfl⟩ | ⟨m, e, hm, hu, hcanonical, -, rfl⟩ := hx.cases
  · rw [hu, Nat.zero_div]
    rfl
  · rw [hu]
    exact roundToInt_positive m hcanonical.le_exponent

theorem toNat_toUInt64 (hx : Stands x p) (h : p / unit < 2 ^ 64) :
    x.toUInt64.toNat = p / unit := by
  have hsize : p / unit < UInt64.size := h
  have hword : x.toUInt64 =
      UInt64.ofNatClamp (x.toModel.unpack.toInt 0 (UInt64.size - 1)).toNat := rfl
  rw [hword, hx.toInt_eq, Int.toNat_natCast, UInt64.ofNatClamp, dif_pos hsize, UInt64.toNat_ofNatLT]

theorem toNat_toUInt32 (hx : Stands x p) : x.toUInt32.toNat = min (p / unit) 4294967295 := by
  have hword : x.toUInt32 =
      UInt32.ofNatClamp (x.toModel.unpack.toInt 0 (UInt32.size - 1)).toNat := rfl
  rw [hword, hx.toInt_eq, Int.toNat_natCast, UInt32.ofNatClamp]
  split_ifs with h
  · rw [UInt32.toNat_ofNatLT]
    exact (min_eq_left (Nat.le_of_lt_succ h)).symm
  · exact (min_eq_right (Nat.lt_of_not_le fun hle => h (Nat.lt_succ_of_le hle)).le).symm

theorem toFloat {n : ℕ} (h : n < 2 ^ 53) : Stands n.toUInt64.toFloat (n * unit) := by
  obtain rfl | hn := Nat.eq_zero_or_pos n
  · rw [Nat.zero_mul]
    exact of_zero (s := .positive) rfl
  · have hword : n < 2 ^ 64 := h.trans (by norm_num)
    have hexponent : ((0 : ℤ) + 1074).toNat = 1074 := rfl
    have hlimit : Stands 9007199254740992.0 (2 ^ 53 * unit) :=
      ⟨by decide +kernel, by decide +kernel⟩
    have hrange : n * unit < overflow :=
      (Nat.mul_lt_mul_of_pos_right h unit_pos).trans hlimit.lt_overflow
    refine of_normalize (k := n) (e := 0) (by omega) ?_ ?_ (.mul_unit h) hrange
    · rw [unpack_toFloat hn hword, UnpackedFloat.normalize, Int.compare_eq_gt.mpr (by omega)]
      rfl
    · rw [unit_eq, hexponent]

end Stands

/-! ### Rounding to whole numbers -/

theorem unit_even : unit / 2 + unit / 2 = unit := by
  have hdvd : 2 ∣ unit := by
    rw [unit_eq]
    exact dvd_pow_self 2 (by omega)
  omega

/-- A half brings a number to the next whole one if at least a half is left of it. -/
theorem add_half_div (p : ℕ) :
    (p + unit / 2) / unit = if unit / 2 ≤ p % unit then p / unit + 1 else p / unit := by
  have heven := unit_even
  have hrest := Nat.mod_lt p unit_pos
  have hsplit : (p + unit / 2) / unit = p / unit + (p % unit + unit / 2) / unit := by
    rw [← Nat.mul_add_div unit_pos, ← Nat.add_assoc, Nat.div_add_mod]
  rw [hsplit]
  generalize p % unit = rest at hrest
  split_ifs with h
  · have hone : (rest + unit / 2) / unit = 1 := Nat.div_eq_of_lt_le (by omega) (by omega)
    rw [hone]
  · have hzero : (rest + unit / 2) / unit = 0 := Nat.div_eq_of_lt (by omega)
    rw [hzero, Nat.add_zero]

theorem OnGrid.mod_unit {p : ℕ} (h : OnGrid p) : OnGrid (p % unit) := by
  obtain ⟨m, k, hm, rfl⟩ := h
  obtain hk | hk := le_or_gt 1074 k
  · obtain ⟨j, rfl⟩ := Nat.exists_eq_add_of_le' hk
    rw [two_pow_add, ← Nat.mul_assoc, Nat.mul_mod_left]
    exact ⟨0, 0, by norm_num, rfl⟩
  · have hsplit : unit = 2 ^ (1074 - k) * 2 ^ k := by
      rw [← Nat.pow_add, Nat.sub_add_cancel hk.le, unit_eq]
    rw [hsplit, Nat.mul_mod_mul_right]
    exact ⟨_, k, (Nat.mod_le ..).trans_lt hm, rfl⟩

/-- From `2 ^ 52` on numbers of 53 bits are whole. -/
theorem OnGrid.unit_dvd {p : ℕ} (h : OnGrid p) (hlarge : 2 ^ 52 * unit ≤ p) : unit ∣ p := by
  obtain ⟨m, k, hm, rfl⟩ := h
  have hk : 1074 ≤ k := by
    by_contra hk
    have hsplit : unit = 2 ^ (1074 - k) * 2 ^ k := by
      rw [← Nat.pow_add, Nat.sub_add_cancel (by omega), unit_eq]
    have htwo : 2 ≤ 2 ^ (1074 - k) := Nat.le_self_pow (by omega) 2
    rw [hsplit, ← Nat.mul_assoc] at hlarge
    have hle := Nat.le_of_mul_le_mul_right hlarge (Nat.two_pow_pos k)
    omega
  obtain ⟨j, rfl⟩ := Nat.exists_eq_add_of_le' hk
  rw [two_pow_add, ← Nat.mul_assoc]
  exact Nat.dvd_mul_left ..

theorem Unsigned.abs_eq {x : Float} (hx : Unsigned x) : x.abs = x := by
  have hcanonical : Canonical x.toModel.unpack := canonical_unpack _
  have habs : x.toModel.unpack.abs = x.toModel.unpack := by
    unfold Unsigned at hx
    cases hu : x.toModel.unpack <;> rw [hu] at hx <;> cases hx <;> rfl
  apply eq_of_unpack
  show stored x.toModel.unpack.abs = _
  rw [habs, stored_of_canonical hcanonical]

theorem Unsigned.isNegative_eq {x : Float} (hx : Unsigned x) (hfinite : x.isFinite = true) :
    isNegative x = false := by
  have hfields : Fields x.toModel.toBits.toBitVec x.toModel.unpack := fields_unpack _
  have hclear : @unpackSign .binary64 x.toModel.toBits.toBitVec = 0#1 := by
    unfold Unsigned at hx
    obtain ⟨s, hu⟩ | ⟨s, m, e, hm, hu⟩ := eq_of_isFinite (u := x.toModel.unpack) hfinite
    · rw [hu] at hx hfields
      cases hx
      exact sign_ofBitVec_injective hfields.1
    · rw [hu] at hx hfields
      cases hx
      exact sign_ofBitVec_injective hfields.1
  have hsign : x.toBits.toNat / 2 ^ 63 % 2 = 0 := by
    have hfield : (@unpackSign .binary64 x.toModel.toBits.toBitVec).toNat =
        x.toBits.toNat >>> 63 % 2 := BitVec.extractLsb_toNat ..
    rw [← Nat.shiftRight_eq_div_pow, ← hfield, hclear]
    rfl
  have hshift : (x.toBits >>> 63).toNat = x.toBits.toNat / 2 ^ 63 := by
    rw [UInt64.toNat_shiftRight, Nat.shiftRight_eq_div_pow]
    rfl
  have hone : x.toBits >>> 63 ≠ 1 := by
    intro h
    rw [h] at hshift
    rw [← hshift] at hsign
    cases hsign
  exact beq_eq_false_iff_ne.mpr hone

namespace Stands

variable {x : Float} {p : ℕ}

theorem one : Stands 1.0 unit := ⟨by decide +kernel, by decide +kernel⟩

theorem half : Stands 0.5 (unit / 2) := ⟨by decide +kernel, by decide +kernel⟩

/-- From here on rounding leaves a double as it is. -/
theorem limit : Stands 4503599627370496.0 (2 ^ 52 * unit) := ⟨by decide +kernel, by decide +kernel⟩

theorem whole (hx : Stands x p) (h : p < 2 ^ 52 * unit) :
    Stands x.toUInt64.toFloat (p / unit * unit) := by
  have hlt : p / unit < 2 ^ 52 := (Nat.div_lt_iff_lt_mul unit_pos).mpr h
  have hsize : p / unit < UInt64.size := hlt.trans (by decide)
  have hword : x.toUInt64 = (p / unit).toUInt64 := by
    apply UInt64.toNat_inj.mp
    rw [hx.toNat_toUInt64 hsize, UInt64.toNat_ofNat_of_lt' hsize]
  rw [hword]
  exact toFloat (hlt.trans (by norm_num))

theorem sub_whole (hx : Stands x p) (h : p < 2 ^ 52 * unit) :
    Stands (x - x.toUInt64.toFloat) (p % unit) := by
  have hrest : p - p / unit * unit = p % unit := by rw [Nat.mul_comm, Nat.mod_def]
  rw [← hrest]
  exact hx.sub (hx.whole h) (Nat.div_mul_le_self ..) (hrest ▸ hx.onGrid.mod_unit)

theorem round (hunsigned : Unsigned x) (hx : Stands x p) :
    Stands (Double.round x) ((p + unit / 2) / unit * unit) := by
  unfold Double.round
  simp only [hunsigned.abs_eq, hunsigned.isNegative_eq hx.finite, Bool.false_eq_true, if_false]
  rw [add_half_div]
  by_cases hsmall : p < 2 ^ 52 * unit
  · have hlt : p / unit < 2 ^ 52 := (Nat.div_lt_iff_lt_mul unit_pos).mpr hsmall
    rw [if_pos ((hx.lt_iff limit).mpr hsmall)]
    by_cases hup : unit / 2 ≤ p % unit
    · have hrange : (p / unit + 1) * unit < overflow :=
        (Nat.mul_le_mul_right _ hlt).trans_lt limit.lt_overflow
      have hgrid : OnGrid ((p / unit + 1) * unit) := .mul_unit (by omega)
      rw [if_pos ((half.le_iff (hx.sub_whole hsmall)).mpr hup), if_pos hup]
      rw [Nat.add_one_mul] at hrange hgrid ⊢
      exact (hx.whole hsmall).add one hgrid hrange
    · rw [if_neg (mt (half.le_iff (hx.sub_whole hsmall)).mp hup), if_neg hup]
      exact hx.whole hsmall
  · have hdvd : unit ∣ p := hx.onGrid.unit_dvd (not_lt.mp hsmall)
    have hnone : ¬ unit / 2 ≤ p % unit := by
      have heven := unit_even
      have hpos := unit_pos
      rw [Nat.mod_eq_zero_of_dvd hdvd]
      omega
    rw [if_neg (mt (hx.lt_iff limit).mp hsmall), if_neg hnone, Nat.div_mul_cancel hdvd]
    exact hx

end Stands

/-! ### The numbers that doubles stand for -/

section value

variable {x y : Float} {p : ℕ}

theorem value_le_iff : value x ≤ value y ↔ position x ≤ position y := by
  have hunit : (0 : ℚ) < unit := Nat.cast_pos.mpr unit_pos
  rw [value, value, div_le_div_iff_of_pos_right hunit, Int.cast_le]

theorem Stands.value_nonneg (hx : Stands x p) : 0 ≤ value x := by
  rw [hx.value_eq]
  positivity

theorem Stands.value_whole {n : ℕ} (hx : Stands x (n * unit)) : value x = n := by
  have hunit : (unit : ℚ) ≠ 0 := Nat.cast_ne_zero.mpr unit_pos.ne'
  rw [hx.value_eq, Nat.cast_mul, mul_div_cancel_right₀ _ hunit]

theorem cast_half_unit : ((unit / 2 : ℕ) : ℚ) = unit / 2 := by
  have heven : ((unit / 2 + unit / 2 : ℕ) : ℚ) = unit := congrArg Nat.cast unit_even
  push_cast at heven
  linarith

theorem Stands.value_halves {n : ℕ} (hx : Stands x (n * (unit / 2))) : value x = n / 2 := by
  have hunit : (unit : ℚ) ≠ 0 := Nat.cast_ne_zero.mpr unit_pos.ne'
  rw [hx.value_eq, Nat.cast_mul, cast_half_unit]
  field_simp

theorem Stands.floor_value (hx : Stands x p) : ⌊value x + 1 / 2⌋₊ = (p + unit / 2) / unit := by
  have hunit : (unit : ℚ) ≠ 0 := Nat.cast_ne_zero.mpr unit_pos.ne'
  have hsum : value x + 1 / 2 = (p + unit / 2 : ℕ) / (unit : ℕ) := by
    rw [hx.value_eq, Nat.cast_add, cast_half_unit]
    field_simp
  rw [hsum, Nat.floor_div_eq_div]

theorem Unsigned.position_eq (hx : Unsigned x) : position x = magnitude x.toModel.unpack := by
  unfold Unsigned at hx
  rw [position, place, hx]
  rfl

theorem Unsigned.stands (hx : Unsigned x) (hfinite : x.isFinite = true) :
    Stands x (magnitude x.toModel.unpack) :=
  ⟨hfinite, hx.position_eq⟩

/-- What does not stand beyond a finite double is finite. -/
theorem Unsigned.isFinite_of_le (hx : Unsigned x) (hdefined : Defined x) (hy : Stands y p)
    (hle : position x ≤ position y) : x.isFinite = true := by
  refine isFinite_of_position hdefined ?_
  rw [hx.position_eq, hy.position, Int.ofNat_le] at hle
  rw [hx.position_eq, abs_of_nonneg (Int.natCast_nonneg _)]
  exact Int.ofNat_lt.mpr (hle.trans_lt (hy.lt_overflow.trans_le overflow_le_infinite))

/-- The greatest finite double. -/
def greatest : Float := 1.7976931348623157e308

theorem stands_greatest : Stands greatest ((2 ^ 53 - 1) * 2 ^ 2045) :=
  ⟨by decide +kernel, by decide +kernel⟩

theorem position_le_greatest (hx : x.isFinite = true) : position x ≤ position greatest := by
  have hcanonical : Canonical x.toModel.unpack := canonical_unpack _
  have hnonneg : 0 ≤ position greatest := stands_greatest.position ▸ Int.natCast_nonneg _
  obtain ⟨s, hu⟩ | ⟨s, m, e, hm, hu⟩ := eq_of_isFinite (u := x.toModel.unpack) hx
  · rw [position, hu, place_zero]
    exact hnonneg
  · rw [hu] at hcanonical
    cases s with
    | negative =>
        rw [position, hu]
        exact (place_finite_neg e hm).le.trans hnonneg
    | positive =>
        obtain ⟨hsignificand, he⟩ := hcanonical
        have hle {k : ℕ} (hk : (e + 1074).toNat ≤ k) :
            m * 2 ^ (e + 1074).toNat ≤ (2 ^ 53 - 1) * 2 ^ k :=
          Nat.mul_le_mul (Nat.le_sub_one_of_lt hsignificand.lt)
            (Nat.pow_le_pow_right Nat.two_pos hk)
        rw [stands_greatest.position, position, hu]
        exact Int.ofNat_le.mpr (hle (by omega))

end value

end GlobeView.Double
