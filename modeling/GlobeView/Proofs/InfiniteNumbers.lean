import GlobeView.Proofs.ExactNumbers

/-! # Numbers with infinities

An `Extended` number is a real number, one of the two infinities, or undefined.  What is not real
lies beyond all real numbers in a direction, and an undefined number is beyond them in no direction;
so one rule of signs gives the products and quotients of all of them.

Real numbers are computed with exactly.  Zero has no sign: a quotient by zero is one by a positive
zero.  An infinity keeps its direction where a limit would (`∞ + x`, `-∞ * x`, `x / ∞ = 0`), and
what has no limit is undefined (`∞ - ∞`, `0 * ∞`, the sine of an infinity).  Comparisons go by the
line with its two ends, and hold of nothing undefined. -/

namespace GlobeView

open Scalar

/-- A real number, or what lies beyond all of them in a direction: positive and negative infinity,
and, without a direction, the undefined number. -/
inductive Extended where
  | real (x : ℝ)
  | beyond (direction : SignType)

namespace Extended

/-- The undefined number. -/
def undefined : Extended := beyond 0

/-- Positive infinity; the negative one is `-infinity`. -/
def infinity : Extended := beyond 1

/-- The side of zero on which a number lies. -/
noncomputable def direction : Extended → SignType
  | real x => SignType.sign x
  | beyond d => d

/-- Real numbers are mapped and infinities are kept. -/
def map (f : ℝ → ℝ) : Extended → Extended
  | real x => real (f x)
  | beyond d => beyond d

/-- A function of the real numbers that has no limit at the infinities. -/
def mapReal (f : ℝ → ℝ) : Extended → Extended
  | real x => real (f x)
  | beyond _ => undefined

/-- The opposite number. -/
def neg : Extended → Extended
  | real x => real (-x)
  | beyond d => beyond (-d)

/-- Infinities absorb real numbers; opposite ones have no sum. -/
def add : Extended → Extended → Extended
  | real x, real y => real (x + y)
  | real _, beyond e => beyond e
  | beyond d, real _ => beyond d
  | beyond d, beyond e => if d = e then beyond d else undefined

/-- Products with an infinity follow the rule of signs, also where that gives no sign. -/
noncomputable def mul : Extended → Extended → Extended
  | real x, real y => real (x * y)
  | a, b => beyond (a.direction * b.direction)

/-- Quotients; zero counts as positive below the line, and nothing but zero is left of a real number
over an infinity. -/
noncomputable def div : Extended → Extended → Extended
  | real x, real y => if y = 0 then beyond (SignType.sign x) else real (x / y)
  | real _, beyond e => if e = 0 then undefined else real 0
  | beyond d, real y => if y = 0 then beyond d else beyond (d * SignType.sign y)
  | beyond _, beyond _ => undefined

/-- The strict order of the line with its two ends. -/
def Lt : Extended → Extended → Prop
  | real x, real y => x < y
  | real _, beyond e => e = 1
  | beyond d, real _ => d = -1
  | beyond d, beyond e => d = -1 ∧ e = 1

/-- The order of the line with its two ends. -/
def Le : Extended → Extended → Prop
  | real x, real y => x ≤ y
  | real _, beyond e => e = 1
  | beyond d, real _ => d = -1
  | beyond d, beyond e => d ≠ 0 ∧ e ≠ 0 ∧ d ≤ e

/-- The equality test, which fails on undefined numbers. -/
noncomputable def beq : Extended → Extended → Bool
  | real x, real y => x == y
  | beyond d, beyond e => d == e && d != 0
  | _, _ => false

noncomputable instance scalar : Scalar Extended where
  add := add
  sub a b := add a b.neg
  mul := mul
  div := div
  neg := neg
  lt := Lt
  le := Le
  beq := beq
  ofScientific m s e := real (OfScientific.ofScientific m s e)
  ofNat n := real n
  decLt _ _ := Classical.propDecidable _
  decLe _ _ := Classical.propDecidable _
  abs
    | real x => real |x|
    | beyond d => beyond (d * d)
  sqrt
    | real x => if x < 0 then undefined else real (Scalar.sqrt x)
    | beyond d => if d = 1 then infinity else undefined
  sin := mapReal Scalar.sin
  cos := mapReal Scalar.cos
  hypot
    -- one infinite leg is enough, whatever the other is
    | real x, real y => real (Scalar.hypot x y)
    | real _, beyond e => beyond (e * e)
    | beyond d, real _ => beyond (d * d)
    | beyond d, beyond e => beyond (Max.max (d * d) (e * e))
  round := map Scalar.round
  modulo
    | real x, real y => if y = 0 then undefined else real (Scalar.modulo x y)
    | real x, beyond e => if e = 0 then undefined else if x < 0 then infinity else real x
    | beyond _, _ => undefined
  isFinite
    | real _ => true
    | beyond _ => false
  tau := real Scalar.tau
  degree := real Scalar.degree
  toWord
    | real x => Scalar.toWord x
    | beyond d => if d = 1 then 4294967295 else 0

/-! ### Real numbers -/

theorem numeral (n : ℕ) : @OfNat.ofNat Extended n (Scalar.instOfNat n) = real n := rfl

theorem zero_eq : @OfNat.ofNat Extended 0 (Scalar.instOfNat 0) = real 0 :=
  congrArg real Nat.cast_zero

theorem one_eq : @OfNat.ofNat Extended 1 (Scalar.instOfNat 1) = real 1 :=
  congrArg real Nat.cast_one

@[simp] theorem isFinite_real (x : ℝ) : isFinite (real x) = true := rfl

@[simp] theorem isFinite_beyond (d : SignType) : isFinite (beyond d) = false := rfl

@[simp] theorem real_lt_real (x y : ℝ) : real x < real y ↔ x < y := Iff.rfl

@[simp] theorem real_le_real (x y : ℝ) : real x ≤ real y ↔ x ≤ y := Iff.rfl

@[simp] theorem real_beq_real (x y : ℝ) : (real x == real y) = (x == y) := rfl

theorem real_add_real (x y : ℝ) : real x + real y = real (x + y) := rfl

theorem real_mul_real (x y : ℝ) : real x * real y = real (x * y) := rfl

theorem real_div_real (x : ℝ) {y : ℝ} (hy : y ≠ 0) : real x / real y = real (x / y) := if_neg hy

@[simp] theorem isUndefined_real (x : ℝ) : isUndefined (real x) = false := by
  simp [isUndefined]

theorem max_real (x y : ℝ) : Scalar.max (real x) (real y) = real (Max.max x y) := by
  simp only [Scalar.max, isUndefined_real, Bool.false_eq_true, if_false, real_lt_real]
  split_ifs with h
  · rw [max_eq_left h.le]
  · rw [max_eq_right (not_lt.mp h)]

theorem min_real (x y : ℝ) : Scalar.min (real x) (real y) = real (Min.min x y) := by
  simp only [Scalar.min, isUndefined_real, Bool.false_eq_true, if_false, real_lt_real]
  split_ifs with h
  · rw [min_eq_left h.le]
  · rw [min_eq_right (not_lt.mp h)]

/-! ### Infinite and undefined numbers -/

theorem pos_iff {a : Extended} : 0 < a ↔ a = infinity ∨ ∃ x, a = real x ∧ 0 < x := by
  rw [zero_eq]
  cases a with
  | real x => simp [infinity]
  | beyond d =>
      have hlt : real 0 < beyond d ↔ d = 1 := Iff.rfl
      simp [hlt, infinity]

theorem not_le_undefined (a : Extended) : ¬ a ≤ undefined := by
  cases a with
  | real x => exact fun h : (0 : SignType) = 1 => by cases h
  | beyond d => exact fun h : d ≠ 0 ∧ (0 : SignType) ≠ 0 ∧ d ≤ 0 => h.2.1 rfl

theorem mul_undefined (a : Extended) : a * undefined = undefined := by
  cases a with
  | real x => exact congrArg beyond (mul_zero _)
  | beyond d => exact congrArg beyond (mul_zero _)

theorem beq_iff {a b : Extended} : (a == b) = true ↔ a = b ∧ a ≠ undefined := by
  cases a with
  | real x =>
      cases b with
      | real y => simp [undefined]
      | beyond e => exact ⟨fun h => (Bool.false_ne_true h).elim, fun h => by cases h.1⟩
  | beyond d =>
      cases b with
      | real y => exact ⟨fun h => (Bool.false_ne_true h).elim, fun h => by cases h.1⟩
      | beyond e =>
          have hbeq : (beyond d == beyond e) = (d == e && d != 0) := rfl
          simp [hbeq, undefined]

instance partialEquivBEq : PartialEquivBEq Extended where
  symm h := by
    obtain ⟨rfl, hdefined⟩ := beq_iff.mp h
    exact beq_iff.mpr ⟨rfl, hdefined⟩
  trans hab hbc := by
    obtain ⟨rfl, -⟩ := beq_iff.mp hab
    exact hbc

end Extended
end GlobeView
