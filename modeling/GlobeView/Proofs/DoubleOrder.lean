import GlobeView.Proofs.DoubleRounding
import GlobeView.Proofs.DoubleSign

/-! # The order of doubles

A double is so many times the least positive one, to one side of zero or the other: that is its
position.  Doubles compare like their positions (`le_iff`, `lt_iff`), because a significand is as
long as its exponent allows, and so the greater exponent wins.

Infinite doubles have positions too, beyond all others.  An undefined double counts as zero, but it
is not compared with anything. -/

namespace GlobeView.Double

open Float.Model Float.Model.UnpackedFloat

/-! ### Positions -/

/-- The finite doubles stand in front of this. -/
@[irreducible] def overflow : ℕ := 2 ^ 2098

/-- The position of an infinite double: so far out that its product with the least positive double
is still out of range. -/
@[irreducible] def infinite : ℕ := 2 ^ 1074 * overflow

/-- How many times the least positive double. -/
def magnitude : UnpackedFloat → ℕ
  | .infinity _ => infinite
  | .notANumber => 0
  | .zero _ => 0
  | .finite _ m e _ => m * 2 ^ (e + 1074).toNat

@[simp] theorem magnitude_infinity (s : Sign) : magnitude (.infinity s) = infinite := rfl

@[simp] theorem magnitude_notANumber : magnitude .notANumber = 0 := rfl

@[simp] theorem magnitude_zero (s : Sign) : magnitude (.zero s) = 0 := rfl

theorem magnitude_finite_pos {s : Sign} {m : ℕ} {e : ℤ} (hm : 0 < m) :
    0 < magnitude (.finite s m e hm) :=
  Nat.mul_pos hm (Nat.two_pow_pos _)

/-- Where a double stands; an undefined one counts as zero. -/
def place (u : UnpackedFloat) : ℤ := (signOf u).apply (magnitude u)

/-- A significand of at most 53 bits that is as long as its exponent allows. -/
structure Significand (m : ℕ) (e : ℤ) : Prop where
  lt : m < 2 ^ 53
  le_exponent : -1074 ≤ e
  full : 2 ^ 52 ≤ m ∨ e = -1074

/-- The finite doubles that a word can hold. -/
def Canonical : UnpackedFloat → Prop
  | .finite _ m e _ => Significand m e ∧ e ≤ 971
  | _ => True

/-- Doubles come out of a word in this form. -/
theorem canonical_unpack (b : BitVec Format.binary64.numBits) :
    Canonical (UnpackedFloat.unpack .binary64 b) := by
  have hlow : (unpackMantissa b).toNat < 2 ^ 52 := BitVec.isLt _
  have hexp : (unpackExponent b).toNat < 2 ^ 11 := BitVec.isLt _
  have hbias : ((Format.binary64.exponentBias : ℤ) + Format.binary64.mantissaBitsWithoutImplicit) =
    1075 := rfl
  simp only [UnpackedFloat.unpack, hbias]
  split_ifs with hinf hfrac hzero hnone
  · trivial
  · trivial
  · trivial
  · have hexponent : (unpackExponent b).toNat = 0 := by
      rw [hzero]
      rfl
    exact ⟨⟨by omega, by omega, by omega⟩, by omega⟩
  · have hnonzero : (unpackExponent b).toNat ≠ 0 := fun h => hzero (BitVec.eq_of_toNat_eq h)
    have hlarge : (unpackExponent b).toNat ≠ 2 ^ 11 - 1 := fun h => hinf (BitVec.eq_of_toNat_eq h)
    rw [Canonical, toNat_leading]
    exact ⟨⟨by omega, by omega, by omega⟩, by omega⟩

namespace Significand

variable {m n : ℕ} {e f : ℤ}

/-- Below the exponent of a significand is all that is below the significand. -/
theorem lt_of_exponent_lt (hm : Significand m e) (hn : Significand n f) (h : e < f) :
    m * 2 ^ (e + 1074).toNat < n * 2 ^ (f + 1074).toNat := by
  have hfull : 2 ^ 52 ≤ n := by
    have := hn.full
    have := hm.le_exponent
    omega
  have hshift : (e + 1074).toNat + 1 ≤ (f + 1074).toNat := by
    have := hm.le_exponent
    omega
  calc m * 2 ^ (e + 1074).toNat
      < 2 ^ 53 * 2 ^ (e + 1074).toNat := Nat.mul_lt_mul_of_pos_right hm.lt (Nat.two_pow_pos _)
    _ = 2 ^ 52 * 2 ^ ((e + 1074).toNat + 1) := by ring
    _ ≤ n * 2 ^ (f + 1074).toNat := Nat.mul_le_mul hfull (Nat.pow_le_pow_right (by omega) hshift)

/-- Significands compare by their exponents first. -/
theorem compares (hm : Significand m e) (hn : Significand n f) :
    ((compare e f).then (compare m n)).Compares (m * 2 ^ (e + 1074).toNat)
      (n * 2 ^ (f + 1074).toNat) := by
  obtain h | rfl | h := lt_trichotomy e f
  · rw [compare_lt_iff_lt.mpr h]
    exact hm.lt_of_exponent_lt hn h
  · have hmono : StrictMono fun k : ℕ => k * 2 ^ (e + 1074).toNat :=
      strictMono_mul_right_of_pos (Nat.two_pow_pos _)
    rw [compare_eq_iff_eq.mpr rfl]
    exact hmono.compares.mpr ((compare_iff m n).mp rfl)
  · rw [compare_gt_iff_gt.mpr h]
    exact hn.lt_of_exponent_lt hm h

theorem exponent_le_iff (h : Significand m e) {k : ℤ} (hk : -1074 ≤ k) :
    e ≤ k ↔ m * 2 ^ (e + 1074).toNat < 2 ^ (53 + (k + 1074).toNat) := by
  constructor
  · intro he
    calc m * 2 ^ (e + 1074).toNat
        < 2 ^ 53 * 2 ^ (e + 1074).toNat := Nat.mul_lt_mul_of_pos_right h.lt (Nat.two_pow_pos _)
      _ ≤ 2 ^ 53 * 2 ^ (k + 1074).toNat :=
          Nat.mul_le_mul_left _ (Nat.pow_le_pow_right (by omega) (by omega))
      _ = 2 ^ (53 + (k + 1074).toNat) := (Nat.pow_add ..).symm
  · contrapose!
    intro he
    have hfull : 2 ^ 52 ≤ m := h.full.resolve_right (by omega)
    calc 2 ^ (53 + (k + 1074).toNat)
        = 2 ^ 52 * 2 ^ ((k + 1074).toNat + 1) := by ring
      _ ≤ m * 2 ^ (e + 1074).toNat :=
          Nat.mul_le_mul hfull (Nat.pow_le_pow_right (by omega) (by omega))

theorem le_971_iff (h : Significand m e) : e ≤ 971 ↔ m * 2 ^ (e + 1074).toNat < overflow := by
  have hexponent : 53 + ((971 : ℤ) + 1074).toNat = 2098 := rfl
  unfold overflow
  rw [h.exponent_le_iff (by omega), hexponent]

end Significand

section order

variable {u v : UnpackedFloat}

theorem overflow_pos : 0 < overflow := by
  unfold overflow
  positivity

theorem overflow_le_infinite : overflow ≤ infinite := by
  unfold infinite
  exact Nat.le_mul_of_pos_left _ (by positivity)

theorem infinite_pos : 0 < infinite := overflow_pos.trans_le overflow_le_infinite

theorem abs_place_lt_infinite (hu : Canonical u) (h : ∀ s, u ≠ .infinity s) :
    |place u| < infinite := by
  have hmagnitude : magnitude u < overflow := by
    cases u with
    | infinity s => exact absurd rfl (h s)
    | notANumber => exact overflow_pos
    | zero s => exact overflow_pos
    | finite s m e hm => exact hu.1.le_971_iff.mp hu.2
  have habs : |place u| = magnitude u := by
    unfold place
    cases signOf u with
    | positive => exact abs_of_nonneg (Int.natCast_nonneg _)
    | negative => exact (abs_neg _).trans (abs_of_nonneg (Int.natCast_nonneg _))
  rw [habs]
  exact Int.ofNat_lt.mpr (hmagnitude.trans_le overflow_le_infinite)

theorem place_finite_pos {m : ℕ} (e : ℤ) (hm : 0 < m) : 0 < place (.finite .positive m e hm) :=
  Int.natCast_pos.mpr (magnitude_finite_pos hm)

theorem place_finite_neg {m : ℕ} (e : ℤ) (hm : 0 < m) : place (.finite .negative m e hm) < 0 :=
  neg_neg_of_pos (place_finite_pos e hm)

@[simp] theorem place_notANumber : place .notANumber = 0 := rfl

@[simp] theorem place_zero (s : Sign) : place (.zero s) = 0 := by cases s <;> rfl

/-- Doubles compare like their positions. -/
theorem compares_of_mem_compare (hu : Canonical u) (hv : Canonical v) :
    ∀ o ∈ u.compare v, o.Compares (place u) (place v) := by
  -- the cases are those of the comparison, which looks at infinities first and then at signs
  fun_cases UnpackedFloat.compare u v
  case case1 | case2 => rintro _ ⟨⟩
  case case3 s t =>
    cases s <;> cases t <;> rintro _ ⟨⟩
    · rfl
    · exact neg_lt_self (Int.natCast_pos.mpr infinite_pos)
    · exact neg_lt_self (Int.natCast_pos.mpr infinite_pos)
    · rfl
  case case4 _ hfin =>
    rintro _ ⟨⟩
    exact (abs_lt.mp (abs_place_lt_infinite hv hfin)).2
  case case5 _ hfin =>
    rintro _ ⟨⟩
    exact (abs_lt.mp (abs_place_lt_infinite hv hfin)).1
  case case6 _ hfin =>
    rintro _ ⟨⟩
    exact (abs_lt.mp (abs_place_lt_infinite hu hfin)).2
  case case7 _ hfin =>
    rintro _ ⟨⟩
    exact (abs_lt.mp (abs_place_lt_infinite hu hfin)).1
  case case8 m e hm s =>
    rintro _ ⟨⟩
    exact (place_zero s).trans_lt (place_finite_pos e hm)
  case case9 m e hm s =>
    rintro _ ⟨⟩
    exact (place_finite_neg e hm).trans_eq (place_zero s).symm
  case case10 s m e hm =>
    rintro _ ⟨⟩
    exact (place_zero s).trans_lt (place_finite_pos e hm)
  case case11 s m e hm =>
    rintro _ ⟨⟩
    exact (place_finite_neg e hm).trans_eq (place_zero s).symm
  case case12 s t =>
    rintro _ ⟨⟩
    exact (place_zero s).trans (place_zero t).symm
  case case13 m e hm n f hn =>
    rintro _ ⟨⟩
    have hneg : StrictAnti fun k : ℕ => -(k : ℤ) := fun _ _ hlt => neg_lt_neg (Int.ofNat_lt.mpr hlt)
    exact Ordering.compares_swap.mpr (hneg.compares.mpr (hu.1.compares hv.1))
  case case14 m e hm n f hn =>
    rintro _ ⟨⟩
    exact (place_finite_neg e hm).trans (place_finite_pos f hn)
  case case15 m e hm n f hn =>
    rintro _ ⟨⟩
    exact (place_finite_neg f hn).trans (place_finite_pos e hm)
  case case16 m e hm n f hn =>
    rintro _ ⟨⟩
    exact Nat.strictMono_cast.compares.mpr (hu.1.compares hv.1)

theorem isSome_compare : (u.compare v).isSome = true ↔ u ≠ .notANumber ∧ v ≠ .notANumber := by
  fun_cases UnpackedFloat.compare u v <;> simp_all

end order

/-! ### Comparisons -/

/-- Where a double stands. -/
def position (x : Float) : ℤ := place x.toModel.unpack

section comparisons

variable {x y : Float}

theorem compare_eq (h : Defined x ∧ Defined y) :
    x.toModel.unpack.compare y.toModel.unpack = some (compare (position x) (position y)) := by
  obtain ⟨o, ho⟩ := Option.isSome_iff_exists.mp (isSome_compare.mpr h)
  have hcompares : o.Compares (position x) (position y) :=
    compares_of_mem_compare (canonical_unpack _) (canonical_unpack _) o ho
  rw [ho, (compare_iff _ _).mpr hcompares]

theorem compare_eq_none (h : ¬ (Defined x ∧ Defined y)) :
    x.toModel.unpack.compare y.toModel.unpack = none :=
  Option.not_isSome_iff_eq_none.mp (mt isSome_compare.mp h)

theorem le_iff : x ≤ y ↔ (Defined x ∧ Defined y) ∧ position x ≤ position y := by
  have hle : x ≤ y ↔ (x.toModel.unpack.compare y.toModel.unpack).any (·.isLE) = true :=
    decide_eq_true_iff
  rw [hle]
  by_cases h : Defined x ∧ Defined y
  · rw [compare_eq h, ← compare_le_iff_le, ne_eq, Ordering.ne_gt_iff_isLE]
    simp [h]
  · rw [compare_eq_none h]
    simp [h]

theorem lt_iff : x < y ↔ (Defined x ∧ Defined y) ∧ position x < position y := by
  have hlt : x < y ↔ (x.toModel.unpack.compare y.toModel.unpack == some .lt) = true :=
    decide_eq_true_iff
  rw [hlt]
  by_cases h : Defined x ∧ Defined y
  · rw [compare_eq h, ← compare_lt_iff_lt]
    simp [h]
  · rw [compare_eq_none h]
    simp [h]

end comparisons

end GlobeView.Double
