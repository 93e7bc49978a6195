import GlobeView.Proofs.ExactNumbers

/-! # Numbers that may be undefined

The formulas of the globe compute with whatever they are given, also where it is not finite.  A
`Number` is a real number or undefined; one undefined number stands for all that are not finite.

* Whatever is computed from an undefined number is undefined, and so is a quotient by zero
  (`isFinite_add` and its like say when a result is defined).
* No comparison with an undefined number holds (`isFinite_of_lt`), so that `¬ b ≤ a` is more than
  `a < b`: it holds also where one of the two is undefined (`not_le_of_undefined`).
* `Scalar.max` gives an undefined number up for the other one (`isFinite_max`). -/

namespace GlobeView

open Scalar

/-- A real number, or none. -/
inductive Number where
  | undefined
  | real (x : ℝ)

namespace Number

/-- The image under a function of real numbers. -/
def map (f : ℝ → ℝ) : Number → Number
  | real x => real (f x)
  | undefined => undefined

/-- The image of two numbers under an operation on real numbers. -/
def map₂ (f : ℝ → ℝ → ℝ) : Number → Number → Number
  | real x, real y => real (f x y)
  | _, _ => undefined

/-- Two numbers that are defined stand in a relation. -/
def Both (r : ℝ → ℝ → Prop) : Number → Number → Prop
  | real x, real y => r x y
  | _, _ => False

/-- The image of two numbers under an operation that needs a second operand other than zero. -/
noncomputable def mapNonzero (f : ℝ → ℝ → ℝ) : Number → Number → Number
  | real x, real y => if y = 0 then undefined else real (f x y)
  | _, _ => undefined

noncomputable instance scalar : Scalar Number where
  add := map₂ (· + ·)
  sub := map₂ (· - ·)
  mul := map₂ (· * ·)
  div := mapNonzero (· / ·)
  neg := map (- ·)
  lt := Both (· < ·)
  le := Both (· ≤ ·)
  beq
    | real x, real y => x == y
    | _, _ => false
  ofScientific m s e := real (OfScientific.ofScientific m s e)
  ofNat n := real n
  decLt _ _ := Classical.propDecidable _
  decLe _ _ := Classical.propDecidable _
  abs := map Scalar.abs
  sqrt
    | real x => if x < 0 then undefined else real (Scalar.sqrt x)
    | undefined => undefined
  sin := map Scalar.sin
  cos := map Scalar.cos
  hypot := map₂ Scalar.hypot
  round := map Scalar.round
  modulo := mapNonzero Scalar.modulo
  isFinite
    | real _ => true
    | undefined => false
  tau := real Scalar.tau
  degree := real Scalar.degree
  toWord
    | real x => Scalar.toWord x
    | undefined => 0

/-! ### Real numbers -/

theorem numeral (n : ℕ) : @OfNat.ofNat Number n (Scalar.instOfNat n) = real n := rfl

theorem decimal (m : ℕ) (s : Bool) (e : ℕ) :
    (OfScientific.ofScientific m s e : Number) = real (OfScientific.ofScientific m s e) := rfl

@[simp] theorem isFinite_real (x : ℝ) : isFinite (real x) = true := rfl

@[simp] theorem isFinite_undefined : isFinite undefined = false := rfl

@[simp] theorem isFinite_numeral (n : ℕ) :
    isFinite (@OfNat.ofNat Number n (Scalar.instOfNat n)) = true := rfl

@[simp] theorem isFinite_decimal (m : ℕ) (s : Bool) (e : ℕ) :
    isFinite (OfScientific.ofScientific m s e : Number) = true := rfl

@[simp] theorem isFinite_count (n : ℕ) : isFinite (Scalar.ofNat n : Number) = true := rfl

@[simp] theorem real_lt_real (x y : ℝ) : real x < real y ↔ x < y := Iff.rfl

@[simp] theorem real_le_real (x y : ℝ) : real x ≤ real y ↔ x ≤ y := Iff.rfl

@[simp] theorem not_lt_undefined (a : Number) : ¬ a < undefined := by
  cases a <;> exact id

@[simp] theorem not_undefined_lt (a : Number) : ¬ undefined < a := id

@[simp] theorem not_le_undefined (a : Number) : ¬ a ≤ undefined := by
  cases a <;> exact id

theorem exists_real {a : Number} (ha : isFinite a = true) : ∃ x, a = real x := by
  cases a with
  | undefined => cases ha
  | real x => exact ⟨x, rfl⟩

theorem eq_undefined {a : Number} (ha : ¬ isFinite a = true) : a = undefined := by
  cases a with
  | undefined => rfl
  | real x => exact absurd rfl ha

/-! ### When a result is defined -/

section defined
variable (a b : Number)

@[simp] theorem isFinite_map (f : ℝ → ℝ) : isFinite (map f a) = isFinite a := by
  cases a <;> rfl

@[simp] theorem isFinite_map₂ (f : ℝ → ℝ → ℝ) :
    isFinite (map₂ f a b) = (isFinite a && isFinite b) := by
  cases a <;> cases b <;> rfl

@[simp] theorem isFinite_add : isFinite (a + b) = (isFinite a && isFinite b) := isFinite_map₂ ..

@[simp] theorem isFinite_sub : isFinite (a - b) = (isFinite a && isFinite b) := isFinite_map₂ ..

@[simp] theorem isFinite_mul : isFinite (a * b) = (isFinite a && isFinite b) := isFinite_map₂ ..

@[simp] theorem isFinite_sin : isFinite (Scalar.sin a) = isFinite a := isFinite_map ..

@[simp] theorem isFinite_cos : isFinite (Scalar.cos a) = isFinite a := isFinite_map ..

@[simp] theorem isFinite_hypot :
    isFinite (Scalar.hypot a b) = (isFinite a && isFinite b) := isFinite_map₂ ..

@[simp] theorem isFinite_radians : isFinite (Scalar.radians a) = isFinite a := by
  simp [Scalar.radians, Scalar.degree]

@[simp] theorem isFinite_neg : isFinite (-a) = isFinite a := isFinite_map ..

theorem real_div_real (x : ℝ) {y : ℝ} (hy : y ≠ 0) : real x / real y = real (x / y) := if_neg hy

@[simp] theorem isFinite_half : isFinite (a / 2) = isFinite a := by
  cases a with
  | undefined => rfl
  | real x =>
      rw [numeral, real_div_real x (by norm_num)]
      rfl

theorem isUndefined_eq : Scalar.isUndefined a = !isFinite a := by
  cases a with
  | undefined => rfl
  | real x => exact congrArg (!·) (beq_self_eq_true x)

theorem isFinite_max : isFinite (Scalar.max a b) = (isFinite a || isFinite b) := by
  unfold Scalar.max
  rw [isUndefined_eq]
  cases a <;> cases b <;> simp [apply_ite isFinite]

end defined

/-! ### Comparisons -/

section comparisons
variable {a b : Number}

theorem isFinite_of_lt (h : a < b) : isFinite a = true ∧ isFinite b = true := by
  cases a with
  | undefined => exact absurd h (not_undefined_lt b)
  | real x =>
      cases b with
      | undefined => exact absurd h (not_lt_undefined _)
      | real y => exact ⟨rfl, rfl⟩

/-- Of defined numbers, one that is not at least the other is less. -/
theorem not_le_iff_lt (ha : isFinite a = true) (hb : isFinite b = true) : ¬ b ≤ a ↔ a < b := by
  obtain ⟨x, rfl⟩ := exists_real ha
  obtain ⟨y, rfl⟩ := exists_real hb
  rw [real_le_real, real_lt_real, not_le]

theorem not_le_of_undefined (ha : ¬ isFinite a = true) : ¬ b ≤ a := by
  rw [eq_undefined ha]
  exact not_le_undefined b

theorem not_le_zero_of_pos (h : 0 < a) : ¬ a ≤ 0 := by
  obtain ⟨x, rfl⟩ := exists_real (isFinite_of_lt h).2
  rw [numeral, real_lt_real] at h
  rw [numeral, real_le_real]
  exact h.not_ge

/-- What needs a second operand other than zero is defined if that one is positive. -/
theorem isFinite_mapNonzero (f : ℝ → ℝ → ℝ) (ha : isFinite a = true) (hb : isFinite b = true)
    (hpos : ¬ b ≤ 0) : isFinite (mapNonzero f a b) = true := by
  obtain ⟨x, rfl⟩ := exists_real ha
  obtain ⟨y, rfl⟩ := exists_real hb
  have hy : y ≠ 0 := by
    rintro rfl
    exact hpos (by rw [numeral, Nat.cast_zero, real_le_real])
  rw [mapNonzero, if_neg hy, isFinite_real]

theorem isFinite_div (ha : isFinite a = true) (hb : isFinite b = true) (hpos : ¬ b ≤ 0) :
    isFinite (a / b) = true :=
  isFinite_mapNonzero _ ha hb hpos

theorem isFinite_modulo (ha : isFinite a = true) (hb : isFinite b = true) (hpos : ¬ b ≤ 0) :
    isFinite (Scalar.modulo a b) = true :=
  isFinite_mapNonzero _ ha hb hpos

end comparisons

end Number
end GlobeView
