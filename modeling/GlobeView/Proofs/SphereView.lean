import GlobeView.Proofs.ExactNumbers

/-! # The view of the sphere

A location lies on the unit sphere, the tilt turns the sphere about the x axis, and the view drops
the depth and scales the rest into the drawing square.

* The tilt is a rotation: it keeps inner products (`Vec3.dot_rotateX`) and is undone by the opposite
  tilt (`Vec3.rotateX_neg`).  So what the view shows is as long as the location is far from the
  centre (`LatLon.dot_onSphere`), one.
* Opposite locations are opposite on the sphere (`LatLon.onSphere_antipode`) and stay so when they are
  tilted (`Vec3.rotateX_opposite`).
* The square shows two of three coordinates, and the third is given by the length up to its sign.  On
  the near side the sign is known, so that the square tells locations of the sphere apart
  (`Vec3.eq_of_front`). -/

namespace GlobeView

open Scalar

namespace Vec3

/-- The point on the other side of the origin. -/
def opposite (a : Vec3 ℝ) : Vec3 ℝ := ⟨-a.x, -a.y, -a.z⟩

theorem rotateX_eq (a : Vec3 ℝ) (angle : ℝ) :
    a.rotateX angle =
      ⟨a.x, a.y * Real.cos angle - a.z * Real.sin angle,
        a.y * Real.sin angle + a.z * Real.cos angle⟩ := rfl

theorem dot_rotateX (a b : Vec3 ℝ) (angle : ℝ) :
    (a.rotateX angle).dot (b.rotateX angle) = a.dot b := by
  have hcircle := Real.sin_sq_add_cos_sq angle
  simp only [rotateX_eq, dot]
  linear_combination (a.y * b.y + a.z * b.z) * hcircle

theorem rotateX_neg (a : Vec3 ℝ) (angle : ℝ) : (a.rotateX angle).rotateX (-angle) = a := by
  have hcircle := Real.sin_sq_add_cos_sq angle
  cases a with
  | mk x y z =>
      simp only [rotateX_eq, Real.sin_neg, Real.cos_neg, Vec3.mk.injEq, true_and]
      constructor
      · linear_combination y * hcircle
      · linear_combination z * hcircle

theorem rotateX_opposite (a : Vec3 ℝ) (angle : ℝ) :
    a.opposite.rotateX angle = (a.rotateX angle).opposite := by
  simp only [rotateX_eq, opposite, Vec3.mk.injEq, true_and]
  constructor <;> ring

/-- Two points of the near side that are equally far from the origin and differ in depth at most are
the same. -/
theorem eq_of_front {a b : Vec3 ℝ} (hdot : a.dot a = b.dot b) (hx : a.x = b.x) (hy : a.y = b.y)
    (ha : 0 < a.z) (hb : 0 < b.z) : a = b := by
  have hdepth : a.z ^ 2 = b.z ^ 2 := by
    simp only [dot, hx, hy] at hdot
    linear_combination hdot
  have hz : a.z = b.z := (pow_left_inj₀ ha.le hb.le two_ne_zero).mp hdepth
  exact (Vec3.mk.injEq ..).mpr ⟨hx, hy, hz⟩

end Vec3

namespace LatLon

/-- The location on the other side of the globe. -/
noncomputable def antipode (p : LatLon ℝ) : LatLon ℝ := ⟨-p.lat, p.lon + 180⟩

theorem onSphere_eq (p : LatLon ℝ) (phi : ℝ) :
    p.onSphere phi =
      ⟨Real.cos p.latRadians * Real.sin (p.lonRadians + phi), Real.sin p.latRadians,
        Real.cos p.latRadians * Real.cos (p.lonRadians + phi)⟩ := rfl

theorem dot_onSphere (p : LatLon ℝ) (phi : ℝ) : (p.onSphere phi).dot (p.onSphere phi) = 1 := by
  have hring := Real.sin_sq_add_cos_sq (p.lonRadians + phi)
  have hlat := Real.sin_sq_add_cos_sq p.latRadians
  simp only [onSphere_eq, Vec3.dot]
  linear_combination Real.cos p.latRadians ^ 2 * hring + hlat

theorem latRadians_antipode (p : LatLon ℝ) : p.antipode.latRadians = -p.latRadians :=
  neg_mul _ _

theorem lonRadians_antipode (p : LatLon ℝ) : p.antipode.lonRadians = p.lonRadians + Real.pi := by
  show (p.lon + 180) * (Real.pi / 180) = p.lon * (Real.pi / 180) + Real.pi
  ring

theorem onSphere_antipode (p : LatLon ℝ) (phi : ℝ) :
    p.antipode.onSphere phi = (p.onSphere phi).opposite := by
  have hturn : p.lonRadians + Real.pi + phi = p.lonRadians + phi + Real.pi := by ring
  rw [onSphere_eq, onSphere_eq, latRadians_antipode, lonRadians_antipode, hturn]
  simp only [Vec3.opposite, Real.sin_neg, Real.cos_neg, Real.sin_add_pi, Real.cos_add_pi, mul_neg]

end LatLon

namespace View

variable (v : View ℝ) (a b : LatLon ℝ)

/-- A location as the viewer sees it: turned by the yaw and tilted. -/
noncomputable def seen : Vec3 ℝ := (a.onSphere v.phi).rotateX v.theta

/-- The square shows what is seen, in units of its half side and with `y` downwards. -/
theorem project_eq :
    v.project a =
      ⟨v.width / 2 + (v.seen a).x * (v.width / 2), v.width / 2 - (v.seen a).y * (v.width / 2),
        (v.seen a).z⟩ := by
  have htwo : @OfNat.ofNat ℝ 2 (Scalar.instOfNat 2) = 2 := Nat.cast_ofNat
  unfold project
  rw [htwo]
  rfl

theorem dot_seen : (v.seen a).dot (v.seen a) = 1 := by
  rw [seen, Vec3.dot_rotateX, LatLon.dot_onSphere]

theorem seen_antipode : v.seen a.antipode = (v.seen a).opposite := by
  rw [seen, LatLon.onSphere_antipode, Vec3.rotateX_opposite, seen]

variable {v a b}

theorem onSphere_eq_of_seen (h : v.seen a = v.seen b) : a.onSphere v.phi = b.onSphere v.phi := by
  rw [← (a.onSphere v.phi).rotateX_neg v.theta, ← (b.onSphere v.phi).rotateX_neg v.theta]
  exact congrArg (Vec3.rotateX · (-v.theta)) h

theorem isFront_project : (v.project a).isFront = true ↔ 0 < (v.seen a).z := by
  simp [Projected.isFront, project_eq]

theorem isFront_antipode (hlimb : (v.seen a).z ≠ 0) :
    (v.project a.antipode).isFront = !(v.project a).isFront := by
  have hsides : 0 < -(v.seen a).z ↔ ¬ 0 < (v.seen a).z := by
    rw [neg_pos, not_lt]
    exact ⟨le_of_lt, fun hle => hle.lt_of_ne hlimb⟩
  rw [Bool.eq_iff_iff, Bool.not_eq_true', Bool.eq_false_iff, ne_eq, isFront_project,
    isFront_project, seen_antipode]
  exact hsides

/-- A square with an extent tells what it shows of the near side apart. -/
theorem seen_eq_of_point (hwidth : 0 < v.width) (ha : (v.project a).isFront = true)
    (hb : (v.project b).isFront = true) (h : (v.project a).point = (v.project b).point) :
    v.seen a = v.seen b := by
  have hhalf : v.width / 2 ≠ 0 := (half_pos hwidth).ne'
  simp only [Projected.point, project_eq, Vec2.mk.injEq] at h
  have hx : (v.seen a).x = (v.seen b).x := mul_right_cancel₀ hhalf (add_left_cancel h.1)
  have hy : (v.seen a).y = (v.seen b).y := mul_right_cancel₀ hhalf (sub_right_injective h.2)
  have hdot : (v.seen a).dot (v.seen a) = (v.seen b).dot (v.seen b) := by
    rw [dot_seen, dot_seen]
  exact Vec3.eq_of_front hdot hx hy (isFront_project.mp ha) (isFront_project.mp hb)

/-- **The view is orthographic and faithful.**  From the middle of the square, what is shown of a
location and its depth, in units of the half side, are as long as the half side; so depths lie
between minus one and one, and everything is shown in the inscribed disc.  The antipode is shown in
the opposite place of the square at the opposite depth; unless both lie on the limb, exactly one of
the two faces the viewer.  And in a square with an extent, two locations that face the viewer and are
shown at the same point have the same place on the turned sphere. -/
theorem project_faithful :
    (∀ (v : View ℝ) (location : LatLon ℝ),
      let r := v.width / 2
      let p := v.project location
      let q := v.project ⟨-location.lat, location.lon + 180⟩
      (p.x - r) ^ 2 + (p.y - r) ^ 2 + (r * p.z) ^ 2 = r ^ 2 ∧ |p.z| ≤ 1 ∧
        (p.x - r) ^ 2 + (p.y - r) ^ 2 ≤ r ^ 2 ∧
        q.x = 2 * r - p.x ∧ q.y = 2 * r - p.y ∧ q.z = -p.z ∧
        (p.z ≠ 0 → q.isFront = !p.isFront)) ∧
    ∀ (v : View ℝ) (a b : LatLon ℝ), 0 < v.width → (v.project a).isFront = true →
      (v.project b).isFront = true → (v.project a).point = (v.project b).point →
        a.onSphere v.phi = b.onSphere v.phi := by
  constructor
  · intro v location r p q
    have hp : p = ⟨r + (v.seen location).x * r, r - (v.seen location).y * r, (v.seen location).z⟩ :=
      v.project_eq location
    have hq : q = ⟨r - (v.seen location).x * r, r + (v.seen location).y * r,
        -(v.seen location).z⟩ := by
      have hantipode := v.project_eq location.antipode
      rw [seen_antipode, Vec3.opposite, neg_mul, neg_mul, ← sub_eq_add_neg, sub_neg_eq_add]
        at hantipode
      exact hantipode
    have hlength := v.dot_seen location
    simp only [Vec3.dot] at hlength
    have hsphere : (p.x - r) ^ 2 + (p.y - r) ^ 2 + (r * p.z) ^ 2 = r ^ 2 := by
      simp only [hp]
      linear_combination r ^ 2 * hlength
    have hdepth : |p.z| ≤ 1 := by
      rw [← sq_le_one_iff_abs_le_one, hp]
      nlinarith [sq_nonneg (v.seen location).x, sq_nonneg (v.seen location).y]
    have hdisc : (p.x - r) ^ 2 + (p.y - r) ^ 2 ≤ r ^ 2 := by
      linarith [sq_nonneg (r * p.z)]
    refine ⟨hsphere, hdepth, hdisc, ?_, ?_, ?_, ?_⟩
    · rw [hp, hq]
      ring
    · rw [hp, hq]
      ring
    · rw [hp, hq]
    · exact fun hlimb => isFront_antipode hlimb
  · intro v a b hwidth ha hb h
    exact onSphere_eq_of_seen (seen_eq_of_point hwidth ha hb h)

/-- The same place by way of the pole: it is shown where the first one is, and is the same place of
the sphere; the antipode of both faces away. -/
theorem project_faithful_over_pole :
    let v : View ℝ := ⟨0, 0, 200⟩
    let a : LatLon ℝ := ⟨0, 0⟩
    let b : LatLon ℝ := ⟨180, 180⟩
    0 < v.width ∧ (v.project a).isFront = true ∧ (v.project b).isFront = true ∧
      (v.project a).point = (v.project b).point ∧ a.onSphere v.phi = b.onSphere v.phi ∧
      (v.project a).z ≠ 0 ∧ (v.project ⟨-a.lat, a.lon + 180⟩).isFront = false := by
  intro v a b
  obtain ⟨hsphere, hfaithful⟩ := project_faithful
  have ha : v.project a = ⟨200 / 2, 200 / 2, 1⟩ := project_center 200
  have hb : v.project b = ⟨200 / 2, 200 / 2, 1⟩ := by
    have hhalf : (180 : ℝ) * (Real.pi / 180) = Real.pi := by ring
    simp [project, v, b, LatLon.onSphere, LatLon.latRadians, LatLon.lonRadians, Scalar.radians,
      Vec3.rotateX, Scalar.sin, Scalar.cos, Scalar.degree, hhalf]
  have hwidth : 0 < v.width := by norm_num [v]
  have hfront : (v.project a).isFront = true := by simp [ha, Projected.isFront]
  have hfront' : (v.project b).isFront = true := by simp [hb, Projected.isFront]
  have hpoint : (v.project a).point = (v.project b).point := by rw [ha, hb]
  have hlimb : (v.project a).z ≠ 0 := by rw [ha]; exact one_ne_zero
  obtain ⟨_, _, _, _, _, _, hantipode⟩ := hsphere v a
  refine ⟨hwidth, hfront, hfront', hpoint, hfaithful v a b hwidth hfront hfront' hpoint, hlimb, ?_⟩
  rw [hantipode hlimb, hfront]
  rfl

end View
end GlobeView
