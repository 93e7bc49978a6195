import GlobeView.Proofs.DoubleRange

/-! # Sums of positive doubles

The position of a sum is the sum of the positions, rounded (`place_add`).  A sum of positive doubles
therefore stands at the least position beyond zero or further out: it is positive itself, however
small they are (`add_pos`).  Added to zero, a positive double stays as it is (`zero_add_of_pos`).

Doubles test equal where they stand at one position (`beq_iff`), so the equality test is symmetric
and transitive, undefined doubles included. -/

namespace GlobeView.Double

open Float.Model Float.Model.UnpackedFloat

/-! ### Sums -/

section sums

theorem add_finite {m n : ℕ} (hm : 0 < m) (hn : 0 < n) (e f : ℤ) :
    UnpackedFloat.add .binary64 (.finite .positive m e hm) (.finite .positive n f hn) =
      UnpackedFloat.round .binary64 .positive
        (m * 2 ^ (e - min e f).toNat + n * 2 ^ (f - min e f).toNat) (min e f) := by
  have hsum : 0 < ((m <<< (e - min e f).toNat + n <<< (f - min e f).toNat : ℕ) : ℤ) := by
    rw [Nat.shiftLeft_eq]
    positivity
  show UnpackedFloat.normalize .binary64
    (((m <<< (e - min e f).toNat : ℕ) : ℤ) + (n <<< (f - min e f).toNat : ℕ)) (min e f)
      .positive = _
  rw [← Nat.cast_add, UnpackedFloat.normalize, Int.compare_eq_gt.mpr hsum]
  simp only [Int.toNat_natCast, Nat.shiftLeft_eq]

theorem place_add {m n : ℕ} {e f : ℤ} (hm : 0 < m) (hn : 0 < n) (he : -1074 ≤ e)
    (hf : -1074 ≤ f) :
    place (stored (UnpackedFloat.add .binary64 (.finite .positive m e hm)
        (.finite .positive n f hn))) =
      nearestMagnitude ((m * 2 ^ (e + 1074).toNat + n * 2 ^ (f + 1074).toNat) * 2 ^ 1074) := by
  have hshift {g : ℤ} (hg : min e f ≤ g) (k : ℕ) :
      k * 2 ^ (g - min e f).toNat * 2 ^ (min e f + 2148).toNat =
        k * 2 ^ (g + 1074).toNat * 2 ^ 1074 := by
    rw [Nat.mul_assoc, Nat.mul_assoc, ← Nat.pow_add, ← Nat.pow_add]
    congr 2
    omega
  have hsum : 0 < m * 2 ^ (e - min e f).toNat + n * 2 ^ (f - min e f).toNat := by positivity
  rw [add_finite hm hn, place_round hsum (le_min he hf), Nat.add_mul, Nat.add_mul,
    hshift (min_le_left e f), hshift (min_le_right e f)]

variable {x y : Float}

theorem pos_of_position (hdefined : Defined x) (h : 0 < position x) : 0 < x :=
  lt_iff.mpr ⟨⟨UnpackedFloat.noConfusion, hdefined⟩, h⟩

/-- A sum of positive doubles is positive: it is at least the least positive double. -/
theorem add_pos (hx : 0 < x) (hy : 0 < y) : 0 < x + y := by
  have hunpack : (x + y).toModel.unpack =
      stored (UnpackedFloat.add .binary64 x.toModel.unpack y.toModel.unpack) := rfl
  have hcanonicalx : Canonical x.toModel.unpack := canonical_unpack _
  have hcanonicaly : Canonical y.toModel.unpack := canonical_unpack _
  -- whatever is added to an infinite double gives way to it
  have hpos_of_infinity (hinf : (x + y).toModel.unpack = .infinity .positive) : 0 < x + y := by
    apply pos_of_position
    · rw [Defined, hinf]
      exact UnpackedFloat.noConfusion
    · rw [position, hinf]
      exact Int.natCast_pos.mpr infinite_pos
  obtain hx' | ⟨m, e, hm, hx'⟩ := unpack_of_pos hx
  · apply hpos_of_infinity
    rw [hunpack, hx']
    obtain hy' | ⟨n, f, hn, hy'⟩ := unpack_of_pos hy <;> rw [hy'] <;>
      exact stored_infinity .positive
  obtain hy' | ⟨n, f, hn, hy'⟩ := unpack_of_pos hy
  · apply hpos_of_infinity
    rw [hunpack, hx', hy']
    exact stored_infinity .positive
  rw [hx'] at hcanonicalx
  rw [hy'] at hcanonicaly
  have he := hcanonicalx.1.le_exponent
  have hf := hcanonicaly.1.le_exponent
  apply pos_of_position
  · obtain ⟨k, -, -, -, hround⟩ :=
      round_eq_roundWithAccuracy (m := m * 2 ^ (e - min e f).toNat + n * 2 ^ (f - min e f).toNat)
        (le_min he hf)
    rw [Defined, hunpack, hx', hy', add_finite hm hn, hround]
    exact unpack_pack_ne_notANumber .binary64 (roundWithAccuracy_ne_notANumber .binary64 _ _ _ _)
  · have hleast : 0 < nearestMagnitude (1 * 2 ^ 1074) := by decide +kernel
    have hsum : 1 ≤ m * 2 ^ (e + 1074).toNat + n * 2 ^ (f + 1074).toNat := by
      have := Nat.mul_pos hm (Nat.two_pow_pos (e + 1074).toNat)
      omega
    rw [position, hunpack, hx', hy', place_add hm hn he hf]
    exact Int.natCast_pos.mpr
      (hleast.trans_le (nearestMagnitude_mono (Nat.mul_le_mul_right _ hsum)))

theorem zero_add_of_pos (hx : 0 < x) : 0 + x = x := by
  have hcanonical : Canonical x.toModel.unpack := canonical_unpack _
  have hunpack : (0 + x).toModel.unpack =
      stored (UnpackedFloat.add .binary64 (.zero .positive) x.toModel.unpack) := rfl
  apply eq_of_unpack
  rw [hunpack]
  obtain hinf | ⟨m, e, hm, hfinite⟩ := unpack_of_pos hx
  · rw [hinf]
    rfl
  · rw [hfinite] at hcanonical ⊢
    exact stored_of_le .positive hm hcanonical.1 hcanonical.2

end sums

/-! ### The equality test -/

section equality

variable {x y : Float}

/-- Doubles test equal if they are defined and stand at one position. -/
theorem beq_iff : (x == y) = true ↔ (Defined x ∧ Defined y) ∧ position x = position y := by
  have hbeq : (x == y) = (x.toModel.unpack.compare y.toModel.unpack == some .eq) := rfl
  rw [hbeq]
  by_cases h : Defined x ∧ Defined y
  · rw [compare_eq h]
    simp [h]
  · rw [compare_eq_none h]
    simp [h]

instance partialEquivBEq : PartialEquivBEq Float where
  symm h := by
    obtain ⟨⟨hx, hy⟩, hposition⟩ := beq_iff.mp h
    exact beq_iff.mpr ⟨⟨hy, hx⟩, hposition.symm⟩
  trans hxy hyz := by
    obtain ⟨⟨hx, -⟩, hposition⟩ := beq_iff.mp hxy
    obtain ⟨⟨-, hz⟩, hposition'⟩ := beq_iff.mp hyz
    exact beq_iff.mpr ⟨⟨hx, hz⟩, hposition.trans hposition'⟩

end equality

end GlobeView.Double
