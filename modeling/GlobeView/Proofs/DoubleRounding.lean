import Mathlib.Data.Nat.Log
import Mathlib.Tactic.Ring
import GlobeView.Double.Decimal

/-! # Rounding on the grid of doubles

A significand that is too long loses bits: its lower bits are shifted out, and what they came to is
kept to round by.  Shifting and rounding is division by a power of two with a half going to the even
neighbour (`roundedMantissa_shiftRight`).

How many bits go depends on the number itself, and so does the grid that it is rounded on.  A
coarser grid begins where the finer one ends, so rounding is monotone across all of them
(`nearestOnGrid_mono`). -/

namespace GlobeView.Double

/-! ### Division -/

section roundDiv

variable {a b d : ℕ}

theorem roundDiv_of_lt (h : 2 * (a % d) < d) : roundDiv a d = a / d := by
  simp only [roundDiv, compare_lt_iff_lt.mpr h]

theorem roundDiv_of_eq (h : 2 * (a % d) = d) : roundDiv a d = a / d + a / d % 2 := by
  simp only [roundDiv, compare_eq_iff_eq.mpr h]

theorem roundDiv_of_gt (h : d < 2 * (a % d)) : roundDiv a d = a / d + 1 := by
  simp only [roundDiv, compare_gt_iff_gt.mpr h]

theorem div_le_roundDiv (a d : ℕ) : a / d ≤ roundDiv a d := by
  simp only [roundDiv]
  split <;> omega

theorem roundDiv_le (a d : ℕ) : roundDiv a d ≤ a / d + 1 := by
  simp only [roundDiv]
  split <;> omega

theorem roundDiv_mono (h : a ≤ b) (d : ℕ) : roundDiv a d ≤ roundDiv b d := by
  obtain hlt | heq := (Nat.div_le_div_right (c := d) h).lt_or_eq
  · calc roundDiv a d
        ≤ a / d + 1 := roundDiv_le a d
      _ ≤ b / d := hlt
      _ ≤ roundDiv b d := div_le_roundDiv b d
  · -- with one quotient the remainders are in order
    have hrest : a % d ≤ b % d := by
      have ha := Nat.div_add_mod a d
      have hb := Nat.div_add_mod b d
      rw [heq] at ha
      omega
    obtain ha | ha | ha := lt_trichotomy (2 * (a % d)) d
    · rw [roundDiv_of_lt ha, heq]
      exact div_le_roundDiv b d
    · obtain hb | hb : 2 * (b % d) = d ∨ d < 2 * (b % d) := by omega
      · rw [roundDiv_of_eq ha, roundDiv_of_eq hb, heq]
      · rw [roundDiv_of_eq ha, roundDiv_of_gt hb, heq]
        omega
    · rw [roundDiv_of_gt ha, roundDiv_of_gt (by omega), heq]

theorem roundDiv_mul_right (a d : ℕ) {j : ℕ} (hj : 0 < j) :
    roundDiv (a * j) (d * j) = roundDiv a d := by
  have hrest : compare (2 * (a % d * j)) (d * j) = compare (2 * (a % d)) d := by
    rw [← Nat.mul_assoc]
    obtain h | h | h := lt_trichotomy (2 * (a % d)) d
    · rw [compare_lt_iff_lt.mpr h, compare_lt_iff_lt.mpr (Nat.mul_lt_mul_of_pos_right h hj)]
    · rw [h, compare_eq_iff_eq.mpr rfl, compare_eq_iff_eq.mpr rfl]
    · rw [compare_gt_iff_gt.mpr h, compare_gt_iff_gt.mpr (Nat.mul_lt_mul_of_pos_right h hj)]
  simp only [roundDiv, Nat.mul_mod_mul_right, Nat.mul_div_mul_right _ _ hj, hrest]

theorem roundDiv_mul_self (a : ℕ) {d : ℕ} (hd : 0 < d) : roundDiv (a * d) d = a := by
  rw [roundDiv_of_lt, Nat.mul_div_cancel _ hd]
  rw [Nat.mul_mod_left]
  exact hd

end roundDiv

/-! ### Shifting bits out -/

open Float.Model.UnpackedFloat

/-- What is left of a significand after some bits are shifted out: the quotient, the highest of
those bits, and whether any of the others is set. -/
theorem shiftRight_exact (m k : ℕ) :
    ExtendedMantissa.ofMantissaAndAccuracy m .exact >>> k =
      ⟨m / 2 ^ k, decide (2 ^ k ≤ 2 * (m % 2 ^ k)), decide (2 * (m % 2 ^ k) % 2 ^ k ≠ 0)⟩ := by
  induction k with
  | zero =>
      show ExtendedMantissa.ofMantissaAndAccuracy m .exact = _
      simp [ExtendedMantissa.ofMantissaAndAccuracy, Nat.mod_one]
  | succ k ih =>
      show (ExtendedMantissa.ofMantissaAndAccuracy m .exact >>> k).shiftRightOne = _
      have hrest : m % 2 ^ k < 2 ^ k := Nat.mod_lt _ (Nat.two_pow_pos k)
      have hhalf : 2 * (m % 2 ^ (k + 1)) = 2 * (m % 2 ^ k) + 2 ^ (k + 1) * (m / 2 ^ k % 2) := by
        rw [Nat.mod_pow_succ, Nat.mul_add, ← Nat.mul_assoc, Nat.mul_comm 2 (2 ^ k), Nat.pow_succ]
      have hlower : 2 * (m % 2 ^ k) < 2 ^ (k + 1) := by
        rw [Nat.pow_succ]
        omega
      rw [ih, hhalf, Nat.add_mul_mod_self_left, Nat.mod_eq_of_lt hlower]
      simp only [ExtendedMantissa.shiftRightOne, Nat.div_div_eq_div_mul, Nat.pow_succ]
      congr 1
      · obtain hbit | hbit := Nat.mod_two_eq_zero_or_one (m / 2 ^ k)
        · simp [hbit]
          omega
        · simp [hbit]
      · rw [← Bool.decide_or, decide_eq_decide]
        obtain hhigh | hlow := le_or_gt (2 ^ k) (2 * (m % 2 ^ k))
        · have hpos : 0 < 2 ^ k := Nat.two_pow_pos k
          omega
        · rw [Nat.mod_eq_of_lt hlow]
          omega

theorem roundedMantissa_shiftRight (m k : ℕ) :
    (ExtendedMantissa.ofMantissaAndAccuracy m .exact >>> k).roundedMantissa =
      roundDiv m (2 ^ k) := by
  have hrest : m % 2 ^ k < 2 ^ k := Nat.mod_lt _ (Nat.two_pow_pos k)
  rw [shiftRight_exact]
  obtain h | h | h := lt_trichotomy (2 * (m % 2 ^ k)) (2 ^ k)
  · rw [roundDiv_of_lt h, decide_eq_false (by omega)]
    cases decide (2 * (m % 2 ^ k) % 2 ^ k ≠ 0) <;> rfl
  · rw [roundDiv_of_eq h, decide_eq_true h.ge, h, Nat.mod_self]
    rfl
  · have hodd : 2 * (m % 2 ^ k) % 2 ^ k ≠ 0 := by
      rw [Nat.mod_eq_sub_mod h.le, Nat.mod_eq_of_lt (by omega)]
      omega
    rw [roundDiv_of_gt h, decide_eq_true h.le, decide_eq_true hodd]
    rfl

/-! ### The grid -/

/-- The grid for a product of doubles, as a power of two: coarse enough that 53 bits are left, and
never finer than the least double is.  Products are counted in units of `2 ^ -2148`, doubles in
units of `2 ^ -1074`. -/
def gridExponent (p : ℕ) : ℕ := max (p.log2 - 52) 1074

/-- The grid point nearest to a product. -/
def nearestOnGrid (p : ℕ) : ℕ := roundDiv p (2 ^ gridExponent p) * 2 ^ (gridExponent p - 1074)

theorem gridExponent_mono {p q : ℕ} (h : p ≤ q) : gridExponent p ≤ gridExponent q := by
  have hlog : p.log2 ≤ q.log2 := by
    simpa only [Nat.log2_eq_log_two] using Nat.log_mono_right h
  unfold gridExponent
  omega

/-- At most 53 bits are left, or one more than there are numbers of 53 bits. -/
theorem roundDiv_grid_le (p : ℕ) : roundDiv p (2 ^ gridExponent p) ≤ 2 ^ 53 := by
  have hexponent : p.log2 + 1 ≤ 53 + gridExponent p := by
    unfold gridExponent
    omega
  have hlt : p < 2 ^ 53 * 2 ^ gridExponent p :=
    calc p
        < 2 ^ (p.log2 + 1) := Nat.lt_log2_self
      _ ≤ 2 ^ (53 + gridExponent p) := Nat.pow_le_pow_right (by omega) hexponent
      _ = 2 ^ 53 * 2 ^ gridExponent p := Nat.pow_add ..
  have hdiv : p / 2 ^ gridExponent p < 2 ^ 53 :=
    (Nat.div_lt_iff_lt_mul (Nat.two_pow_pos _)).mpr hlt
  exact (roundDiv_le ..).trans hdiv

/-- On a grid that is coarser than the finest, 53 bits are left. -/
theorem le_roundDiv_grid {p : ℕ} (h : 1074 < gridExponent p) :
    2 ^ 52 ≤ roundDiv p (2 ^ gridExponent p) := by
  have hp : p ≠ 0 := by
    rintro rfl
    exact absurd h (by decide)
  have hle : 2 ^ 52 * 2 ^ gridExponent p ≤ p :=
    calc 2 ^ 52 * 2 ^ gridExponent p
        = 2 ^ (52 + gridExponent p) := (Nat.pow_add ..).symm
      _ = 2 ^ p.log2 := by
          congr 1
          unfold gridExponent at h ⊢
          omega
      _ ≤ p := Nat.log2_self_le hp
  calc 2 ^ 52
      ≤ p / 2 ^ gridExponent p := (Nat.le_div_iff_mul_le (Nat.two_pow_pos _)).mpr hle
    _ ≤ roundDiv p (2 ^ gridExponent p) := div_le_roundDiv ..

theorem nearestOnGrid_mono {p q : ℕ} (h : p ≤ q) : nearestOnGrid p ≤ nearestOnGrid q := by
  obtain hlt | heq := (gridExponent_mono h).lt_or_eq
  · have hfine : 1074 ≤ gridExponent p := Nat.le_max_right ..
    calc nearestOnGrid p
        ≤ 2 ^ 53 * 2 ^ (gridExponent p - 1074) := Nat.mul_le_mul_right _ (roundDiv_grid_le p)
      _ = 2 ^ 52 * 2 ^ (gridExponent p + 1 - 1074) := by
          rw [Nat.sub_add_comm hfine, Nat.pow_succ 2 (gridExponent p - 1074)]
          omega
      _ ≤ 2 ^ 52 * 2 ^ (gridExponent q - 1074) :=
          Nat.mul_le_mul_left _ (Nat.pow_le_pow_right (by omega) (by omega))
      _ ≤ nearestOnGrid q := Nat.mul_le_mul_right _ (le_roundDiv_grid (by omega))
  · unfold nearestOnGrid
    rw [heq]
    exact Nat.mul_le_mul_right _ (roundDiv_mono h _)

end GlobeView.Double
