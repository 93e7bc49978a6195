import Mathlib.Analysis.SpecialFunctions.Trigonometric.Basic
import GlobeView.Controller

/-! # The globe over the real numbers

The formulas of the globe are written over any scalars.  Read over the real numbers they do not
round, and what is true of the geometry itself can be said about the definitions that run.

Every operation of a scalar is here the one that its documentation describes, and every number is
finite.  A numeral of the library denotes the number that it spells (`numeral`). -/

namespace GlobeView

namespace Exact

open Scalar

noncomputable instance scalar : Scalar ℝ where
  ofNat n := n
  decLt := inferInstance
  decLe := inferInstance
  abs x := |x|
  sqrt := Real.sqrt
  sin := Real.sin
  cos := Real.cos
  hypot x y := √(x ^ 2 + y ^ 2)
  round x := if x < 0 then -(⌊-x + 1 / 2⌋ : ℝ) else ⌊x + 1 / 2⌋
  modulo a b := a - |b| * ⌊a / |b|⌋
  isFinite _ := true
  tau := 2 * Real.pi
  degree := Real.pi / 180
  toWord x := UInt32.ofNat (Min.min ⌊x⌋₊ 4294967295)

theorem numeral (n : ℕ) : @OfNat.ofNat ℝ n (Scalar.instOfNat n) = (n : ℝ) := rfl

@[simp] theorem zero_eq : @OfNat.ofNat ℝ 0 (Scalar.instOfNat 0) = 0 := Nat.cast_zero

@[simp] theorem one_eq : @OfNat.ofNat ℝ 1 (Scalar.instOfNat 1) = 1 := Nat.cast_one

@[simp] theorem isFinite_eq (x : ℝ) : isFinite x = true := rfl

@[simp] theorem isUndefined_eq (x : ℝ) : isUndefined x = false := by
  simp [isUndefined]

theorem max_eq (a b : ℝ) : Scalar.max a b = Max.max a b := by
  simp only [Scalar.max, isUndefined_eq, Bool.false_eq_true, if_false]
  split_ifs with h
  · exact (max_eq_left h.le).symm
  · exact (max_eq_right (not_lt.mp h)).symm

theorem min_eq (a b : ℝ) : Scalar.min a b = Min.min a b := by
  simp only [Scalar.min, isUndefined_eq, Bool.false_eq_true, if_false]
  split_ifs with h
  · exact (min_eq_left h.le).symm
  · exact (min_eq_right (not_lt.mp h)).symm

end Exact

/-- Sizes that test equal are equal. -/
instance : LawfulBEq (SurfaceSize ℝ) where
  eq_of_beq {size size'} h := by
    have hsides : (size.display == size'.display) = true ∧ (size.render == size'.render) = true :=
      (Bool.and_eq_true _ _).mp h
    have hdisplay := eq_of_beq hsides.1
    have hrender := eq_of_beq hsides.2
    exact (SurfaceSize.mk.injEq ..).mpr ⟨hdisplay, hrender⟩
  rfl {size} := by
    show (size.display == size.display && size.render == size.render) = true
    rw [beq_self_eq_true, beq_self_eq_true, Bool.and_self]

/-! ### Lengths and places at another scale -/

namespace Vec2

theorem scale_scale (a : Vec2 ℝ) (s t : ℝ) : (a.scale s).scale t = a.scale (s * t) := by
  simp only [scale, mul_assoc]

@[simp] theorem distance_self (a : Vec2 ℝ) : a.distance a = 0 := by
  show √((a.x - a.x) ^ 2 + (a.y - a.y) ^ 2) = 0
  simp

theorem distance_nonneg (a b : Vec2 ℝ) : 0 ≤ a.distance b := Real.sqrt_nonneg _

theorem distance_scale (a b : Vec2 ℝ) {s : ℝ} (hs : 0 ≤ s) :
    (a.scale s).distance (b.scale s) = a.distance b * s := by
  show √((a.x * s - b.x * s) ^ 2 + (a.y * s - b.y * s) ^ 2) =
    √((a.x - b.x) ^ 2 + (a.y - b.y) ^ 2) * s
  have hsquares : (a.x * s - b.x * s) ^ 2 + (a.y * s - b.y * s) ^ 2 =
      ((a.x - b.x) ^ 2 + (a.y - b.y) ^ 2) * s ^ 2 := by ring
  rw [hsquares, Real.sqrt_mul' _ (sq_nonneg s), Real.sqrt_sq hs]

end Vec2

theorem SurfaceSize.scaleFactor_eq {size : SurfaceSize ℝ} (hdisplay : 0 < size.display) :
    size.scaleFactor = size.render / size.display := by
  rw [scaleFactor, if_pos (by simpa using hdisplay)]

/-- A drawing square of another side shows everything at the same depth and in proportion. -/
theorem View.project_scale (phi theta width s : ℝ) (location : LatLon ℝ) :
    let p := View.project ⟨phi, theta, width⟩ location
    let p' := View.project ⟨phi, theta, width * s⟩ location
    p'.point = p.point.scale s ∧ p'.z = p.z := by
  simp only [View.project, Projected.point, Vec2.scale, Exact.numeral, Vec2.mk.injEq]
  push_cast
  refine ⟨⟨?_, ?_⟩, trivial⟩ <;> ring

/-- Where the meridian crosses the equator the globe that was not turned faces the viewer. -/
theorem View.project_center (width : ℝ) :
    View.project ⟨0, 0, width⟩ ⟨0, 0⟩ = ⟨width / 2, width / 2, 1⟩ := by
  simp [View.project, LatLon.onSphere, LatLon.latRadians, LatLon.lonRadians, Scalar.radians,
    Vec3.rotateX, Scalar.sin, Scalar.cos]

theorem View.depth_center (phi width : ℝ) :
    (View.project ⟨phi, 0, width⟩ ⟨0, 0⟩).z = Real.cos phi := by
  simp [View.project, LatLon.onSphere, LatLon.latRadians, LatLon.lonRadians, Scalar.radians,
    Vec3.rotateX, Scalar.sin, Scalar.cos]

theorem View.project_east (width : ℝ) :
    View.project ⟨0, 0, width⟩ ⟨0, 90⟩ = ⟨width / 2 + width / 2, width / 2, 0⟩ := by
  have hquarter : (90 : ℝ) * (Real.pi / 180) = Real.pi / 2 := by ring
  simp [View.project, LatLon.onSphere, LatLon.latRadians, LatLon.lonRadians, Scalar.radians,
    Vec3.rotateX, Scalar.sin, Scalar.cos, Scalar.degree, hquarter]

theorem HitOptions.radius_scale (o : HitOptions ℝ) (size : ℝ) {s : ℝ} (hs : 0 ≤ s) :
    o.radius size s = o.radius size 1 * s := by
  simp only [radius, Exact.max_eq, mul_one]
  exact (max_mul_of_nonneg _ _ hs).symm

end GlobeView
