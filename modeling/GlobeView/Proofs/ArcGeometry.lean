import GlobeView.Proofs.OverlayGrammar
import GlobeView.Proofs.ParticlePhase

/-! # The shape of an arc

The control point of an arc is found by way of a normal of length one, which is then made longer
again.  Over the real numbers both lengths cancel: the control point is off the middle of the chord by
the chord itself, turned by a quarter and scaled by the curvature (`arcControl?_eq_some`).

What there is to say about the curve follows from there.  Its point at parameter `t` is the point of
the chord at `t`, moved at right angles to the chord by a share `2 t (1 - t)` of the way to the
control point (`quadraticPoint_eq`).  Along the chord and across it distances add by their squares
(`Vec2.distance_across`), so that this share is also the distance from the line of the chord. -/

namespace GlobeView

open Scalar

namespace Vec2

/-! ### Lengths and directions -/

/-- The inner product. -/
def dot (a b : Vec2 ℝ) : ℝ := a.x * b.x + a.y * b.y

/-- A quarter turn counter-clockwise. -/
def turned (a : Vec2 ℝ) : Vec2 ℝ := ⟨-a.y, a.x⟩

/-- The point of the line through `a` and `b` that has gone the share `s` of the way. -/
noncomputable def along (a b : Vec2 ℝ) (s : ℝ) : Vec2 ℝ := a + (b - a).scale s

/-- The points of a triangle are the averages of its corners. -/
def InTriangle (a b c p : Vec2 ℝ) : Prop :=
  ∃ u v w : ℝ, (0 ≤ u ∧ 0 ≤ v ∧ 0 ≤ w) ∧ u + v + w = 1 ∧ p = a.scale u + b.scale v + c.scale w

/-- The distance of a point from the line through `a` and `b` is the least one from its points. -/
def LineDistance (a b p : Vec2 ℝ) (d : ℝ) : Prop :=
  IsLeast (Set.range fun s => p.distance (a.along b s)) d

variable (a b : Vec2 ℝ) (s t : ℝ)

theorem add_eq : a + b = ⟨a.x + b.x, a.y + b.y⟩ := rfl

theorem sub_eq : a - b = ⟨a.x - b.x, a.y - b.y⟩ := rfl

theorem midpoint_eq : a.midpoint b = ⟨(a.x + b.x) / 2, (a.y + b.y) / 2⟩ := by
  have hhalf : ∀ x : ℝ, x * 0.5 = x / 2 := fun x => by norm_num [div_eq_mul_inv]
  show (⟨(a.x + b.x) * 0.5, (a.y + b.y) * 0.5⟩ : Vec2 ℝ) = _
  rw [hhalf, hhalf]

theorem length_eq : a.length = √(a.dot a) := by
  show √(a.x ^ 2 + a.y ^ 2) = √(a.x * a.x + a.y * a.y)
  rw [sq, sq]

theorem distance_eq : a.distance b = (a - b).length := rfl

theorem length_eq_zero : a.length = 0 ↔ a = ⟨0, 0⟩ := by
  have hnonneg : 0 ≤ a.dot a := add_nonneg (mul_self_nonneg _) (mul_self_nonneg _)
  rw [length_eq, Real.sqrt_eq_zero hnonneg, dot,
    add_eq_zero_iff_of_nonneg (mul_self_nonneg _) (mul_self_nonneg _), mul_self_eq_zero,
    mul_self_eq_zero]
  cases a
  simp

theorem length_scale : (a.scale s).length = |s| * a.length := by
  have hsquares : (a.scale s).dot (a.scale s) = s ^ 2 * a.dot a := by
    simp only [dot, scale]
    ring
  rw [length_eq, length_eq, hsquares, Real.sqrt_mul (sq_nonneg s), Real.sqrt_sq_eq_abs]

theorem length_turned : a.turned.length = a.length := by
  rw [length_eq, length_eq]
  congr 1
  simp only [dot, turned]
  ring

theorem distance_pos_iff : 0 < a.distance b ↔ a ≠ b := by
  rw [(distance_nonneg a b).lt_iff_ne', distance_eq, ne_eq, length_eq_zero]
  cases a
  cases b
  simp [sub_eq, sub_eq_zero]

/-- From a point beside a line to a point of it: so much along the line, and so much across. -/
theorem distance_across (offset : ℝ) :
    (a.along b t + (b - a).turned.scale offset).distance (a.along b s) =
      √((t - s) ^ 2 + offset ^ 2) * b.distance a := by
  have hsquares : ∀ p : Vec2 ℝ,
      p = a.along b t + (b - a).turned.scale offset - a.along b s →
        p.dot p = ((t - s) ^ 2 + offset ^ 2) * (b - a).dot (b - a) := by
    rintro _ rfl
    simp only [dot, along, turned, scale, add_eq, sub_eq]
    ring
  rw [distance_eq, distance_eq, length_eq, length_eq, hsquares _ rfl,
    Real.sqrt_mul (by positivity)]

theorem lineDistance_across (offset : ℝ) :
    LineDistance a b (a.along b t + (b - a).turned.scale offset) (|offset| * b.distance a) := by
  constructor
  · refine ⟨t, ?_⟩
    show Vec2.distance _ _ = _
    rw [distance_across, sub_self, zero_pow two_ne_zero, zero_add, Real.sqrt_sq_eq_abs]
  · rintro _ ⟨s, rfl⟩
    show _ ≤ Vec2.distance _ _
    rw [distance_across]
    refine mul_le_mul_of_nonneg_right (Real.abs_le_sqrt ?_) (distance_nonneg b a)
    exact le_add_of_nonneg_left (sq_nonneg _)

theorem unitPerp?_of_pos {a : Vec2 ℝ} (h : 0 < a.length) :
    a.unitPerp? = some (a.turned.scale a.length⁻¹) := by
  have hproper : ¬ (a.length ≤ @OfNat.ofNat ℝ 0 (Scalar.instOfNat 0) ∨
      isFinite a.length = false) := by
    rw [Exact.zero_eq]
    simp [h]
  simp only [unitPerp?, if_neg hproper, turned, scale, div_eq_mul_inv]

end Vec2

/-! ### Control points -/

section control

variable {start finish : Vec2 ℝ} (curvature : ℝ)

/-- The control point of a chord: off its middle by the turned chord, as the curvature says. -/
noncomputable def bowed (start finish : Vec2 ℝ) (curvature : ℝ) : Vec2 ℝ :=
  start.midpoint finish + (finish - start).turned.scale curvature

/-- The lengths of the chord and of its normal cancel. -/
theorem arcControl?_eq_some (h : start ≠ finish) :
    arcControl? start finish curvature = some (bowed start finish curvature) := by
  have hlength : 0 < (finish - start).length := (Vec2.distance_pos_iff finish start).mpr h.symm
  have hcancel : (finish - start).length⁻¹ * ((finish - start).length * curvature) = curvature :=
    inv_mul_cancel_left₀ hlength.ne' curvature
  simp only [arcControl?, Vec2.unitPerp?_of_pos hlength, Option.map_some, Vec2.scale_scale, hcancel,
    bowed]

theorem arcControl?_eq_none_iff : arcControl? start finish curvature = none ↔ start = finish := by
  constructor
  · contrapose!
    intro h
    rw [arcControl?_eq_some curvature h]
    exact Option.some_ne_none _
  · rintro rfl
    have hlength : (start - start).length = 0 := Vec2.distance_self start
    have hnone : (start - start).unitPerp? = none := by
      simp [Vec2.unitPerp?, hlength]
    rw [arcControl?, hnone, Option.map_none]

/-- The control point is off the middle at right angles to the chord. -/
theorem dot_bowed (start finish : Vec2 ℝ) :
    (bowed start finish curvature - start.midpoint finish).dot (finish - start) = 0 := by
  simp only [bowed, Vec2.dot, Vec2.turned, Vec2.scale, Vec2.add_eq, Vec2.sub_eq]
  ring

theorem distance_bowed (start finish : Vec2 ℝ) :
    (bowed start finish curvature).distance (start.midpoint finish) =
      |curvature| * finish.distance start := by
  have hoffset : bowed start finish curvature - start.midpoint finish =
      (finish - start).turned.scale curvature := by
    simp only [bowed, Vec2.add_eq, Vec2.sub_eq, add_sub_cancel_left]
  rw [Vec2.distance_eq, hoffset, Vec2.length_scale, Vec2.length_turned, Vec2.distance_eq]

/-- From the other end the same chord bows to the other side. -/
theorem bowed_add_bowed (start finish : Vec2 ℝ) :
    bowed start finish curvature + bowed finish start curvature = start + finish := by
  simp only [bowed, Vec2.midpoint_eq, Vec2.turned, Vec2.scale, Vec2.add_eq, Vec2.sub_eq,
    Vec2.mk.injEq]
  constructor <;> ring

end control

/-! ### Curves -/

section curve

variable (start control finish : Vec2 ℝ) (curvature t : ℝ)

theorem quadraticPoint_eq_average :
    quadraticPoint start control finish t =
      start.scale ((1 - t) ^ 2) + control.scale (2 * (1 - t) * t) + finish.scale (t ^ 2) := by
  simp only [quadraticPoint, Exact.numeral, Vec2.scale, Vec2.add_eq, Vec2.mk.injEq]
  push_cast
  constructor <;> ring

theorem inTriangle_quadraticPoint (h₀ : 0 ≤ t) (h₁ : t ≤ 1) :
    Vec2.InTriangle start control finish (quadraticPoint start control finish t) := by
  have hrest : 0 ≤ 1 - t := sub_nonneg.mpr h₁
  refine ⟨(1 - t) ^ 2, 2 * (1 - t) * t, t ^ 2, ⟨by positivity, by positivity, by positivity⟩, by ring,
    quadraticPoint_eq_average start control finish t⟩

theorem quadraticPoint_eq :
    quadraticPoint start (bowed start finish curvature) finish t =
      start.along finish t + (finish - start).turned.scale (2 * t * (1 - t) * curvature) := by
  simp only [quadraticPoint_eq_average, bowed, Vec2.midpoint_eq, Vec2.along, Vec2.turned, Vec2.scale,
    Vec2.add_eq, Vec2.sub_eq, Vec2.mk.injEq]
  constructor <;> ring

theorem share_le_half : 2 * t * (1 - t) ≤ 1 / 2 := by
  nlinarith [sq_nonneg (2 * t - 1)]

theorem lineDistance_quadraticPoint (h₀ : 0 ≤ t) (h₁ : t ≤ 1) :
    Vec2.LineDistance start finish (quadraticPoint start (bowed start finish curvature) finish t)
      (2 * t * (1 - t) * (|curvature| * finish.distance start)) := by
  have hshare : 0 ≤ 2 * t * (1 - t) := mul_nonneg (by positivity) (sub_nonneg.mpr h₁)
  have hoffset : |2 * t * (1 - t) * curvature| * finish.distance start =
      2 * t * (1 - t) * (|curvature| * finish.distance start) := by
    rw [abs_mul, abs_of_nonneg hshare, mul_assoc]
  rw [quadraticPoint_eq, ← hoffset]
  exact Vec2.lineDistance_across start finish t (2 * t * (1 - t) * curvature)

end curve

/-! ### Particles -/

namespace Renderer

/-- A connection between two places in view bows off its chord, if they are not shown at the same
point. -/
theorem control?_eq_some {r : Renderer ℝ} {view : View ℝ} {c : Connection ℝ}
    (hstart : r.limbThreshold < (view.project c.start).z)
    (hfinish : r.limbThreshold < (view.project c.finish).z)
    (hends : (view.project c.start).point ≠ (view.project c.finish).point) :
    r.control? view c = some
      (bowed (view.project c.start).point (view.project c.finish).point r.arcCurvature) := by
  have hview : ((view.project c.start).isNearFront r.limbThreshold &&
      (view.project c.finish).isNearFront r.limbThreshold) = true := by
    simp [Projected.isNearFront, hstart, hfinish]
  rw [control?, if_pos hview, arcControl?_eq_some _ hends]

/-- An arc that is drawn bows off its chord, and its particle is on the curve. -/
theorem exists_particle {r : Renderer ℝ} {view : View ℝ} {connections : List (Connection ℝ)}
    {heat : List (HeatPoint ℝ)} {elapsed : ℝ} {i : ℕ} {start control finish : Vec2 ℝ}
    {color : Rgba ℝ} {lineWidth : ℝ}
    (h : (r.render view connections heat elapsed).commands[i]? =
      some (.arc start control finish color lineWidth)) :
    arcControl? start finish r.arcCurvature = some control ∧
      ∃ index < connections.length,
        (r.render view connections heat elapsed).commands[i + 1]? =
          some (.particle
            (quadraticPoint start control finish
              (particleProgress elapsed index r.particlePeriod r.particlePhaseStep))
            r.colors.particleRadius r.colors.particle) := by
  obtain ⟨opening, arcs, hcommands, hprogram⟩ := r.program_render view connections heat elapsed
  rw [hcommands] at h ⊢
  obtain ⟨j, rfl, harcs⟩ := hprogram.behind_opening h (.inl rfl)
  obtain ⟨index, c, control', hc, hcontrol, harc, -, hnext⟩ := hprogram.arcs.arc_spec harcs rfl
  cases harc
  refine ⟨?_, index, (List.getElem?_eq_some_iff.mp hc).1, ?_⟩
  · simp only [control?] at hcontrol
    split_ifs at hcontrol
    exact hcontrol
  · rw [Nat.zero_add] at hnext
    rw [Nat.add_assoc, List.getElem?_append_right (Nat.le_add_right _ _), Nat.add_sub_cancel_left,
      hnext]
    rfl

end Renderer

/-- **Arcs bow off their chords as the curvature says.**  There is no control point exactly between
equal ends.  Else it lies at right angles off the middle of the chord, by the chord's length times
the curvature, and on the other side when the ends are swapped.  The curve starts and ends where
the chord does.  In between it stays in the triangle, and its distance from the line of the chord is a
share `2 t (1 - t)` of that of the control point, which is never more than half of it.

Each arc of an overlay has that shape, and the particle behind it is on the curve at all times. -/
theorem arcs_bow :
    (∀ (start finish : Vec2 ℝ) (curvature : ℝ),
      (arcControl? start finish curvature = none ↔ start = finish) ∧
      ∀ control, arcControl? start finish curvature = some control →
        let middle := start.midpoint finish
        let offset := |curvature| * finish.distance start
        let curve := quadraticPoint start control finish
        ((control - middle).dot (finish - start) = 0 ∧ control.distance middle = offset) ∧
        (∃ mirrored, arcControl? finish start curvature = some mirrored ∧
          control + mirrored = start + finish) ∧
        (curve 0 = start ∧ curve 1 = finish) ∧
        ∀ t, 0 ≤ t → t ≤ 1 →
          Vec2.InTriangle start control finish (curve t) ∧
          Vec2.LineDistance start finish (curve t) (2 * t * (1 - t) * offset) ∧
          2 * t * (1 - t) * offset ≤ offset / 2) ∧
    ∀ (r : Renderer ℝ) (view : View ℝ) (connections : List (Connection ℝ))
      (heat : List (HeatPoint ℝ)) (elapsed : ℝ) (i : ℕ) (start control finish : Vec2 ℝ)
      (color : Rgba ℝ) (lineWidth : ℝ),
      let commands := (r.render view connections heat elapsed).commands
      commands[i]? = some (.arc start control finish color lineWidth) →
        arcControl? start finish r.arcCurvature = some control ∧
        ∃ index < connections.length,
          let t := particleProgress elapsed index r.particlePeriod r.particlePhaseStep
          (0 ≤ t ∧ t < 1) ∧
            commands[i + 1]? = some (.particle (quadraticPoint start control finish t)
              r.colors.particleRadius r.colors.particle) := by
  constructor
  · intro start finish curvature
    refine ⟨arcControl?_eq_none_iff curvature, fun control hcontrol => ?_⟩
    have hends : start ≠ finish := by
      intro heq
      rw [(arcControl?_eq_none_iff curvature).mpr heq] at hcontrol
      cases hcontrol
    obtain rfl : bowed start finish curvature = control :=
      Option.some.inj ((arcControl?_eq_some curvature hends).symm.trans hcontrol)
    intro middle offset curve
    have hoffset : 0 ≤ offset := mul_nonneg (abs_nonneg _) (Vec2.distance_nonneg _ _)
    refine ⟨⟨dot_bowed curvature start finish, distance_bowed curvature start finish⟩,
      ⟨_, arcControl?_eq_some curvature hends.symm, bowed_add_bowed curvature start finish⟩,
      ⟨?_, ?_⟩, fun t h₀ h₁ => ⟨?_, ?_, ?_⟩⟩
    · simp [curve, quadraticPoint_eq_average, Vec2.scale, Vec2.add_eq]
    · simp [curve, quadraticPoint_eq_average, Vec2.scale, Vec2.add_eq]
    · exact inTriangle_quadraticPoint start _ finish t h₀ h₁
    · exact lineDistance_quadraticPoint start finish curvature t h₀ h₁
    · calc 2 * t * (1 - t) * offset
          ≤ 1 / 2 * offset := mul_le_mul_of_nonneg_right (share_le_half t) hoffset
        _ = offset / 2 := by ring
  · intro r view connections heat elapsed i start control finish color lineWidth commands h
    obtain ⟨hcontrol, index, hindex, hnext⟩ := Renderer.exists_particle h
    exact ⟨hcontrol, index, hindex, particleProgress_mem _ _ _ _, hnext⟩

/-- A slanted chord that bows twice its length to the right, halfway along; and the only connection of
an overlay, whose particle has gone a quarter of its way. -/
theorem arcs_bow_slanted :
    (let start : Vec2 ℝ := ⟨0, 0⟩
     let control : Vec2 ℝ := ⟨19 / 2, -4⟩
     let finish : Vec2 ℝ := ⟨3, 4⟩
     (0 : ℝ) ≤ 1 / 2 ∧ (1 / 2 : ℝ) ≤ 1 ∧ arcControl? start finish (-2) = some control ∧
       control.distance (start.midpoint finish) = 10 ∧
       Vec2.LineDistance start finish (quadraticPoint start control finish (1 / 2)) 5) ∧
    let r : Renderer ℝ := .ofConfig .default
    let commands := (r.render ⟨0, 0, 200⟩ [⟨⟨0, 0⟩, ⟨0, 90⟩⟩] [] 500).commands
    ∃ start control finish color lineWidth,
      commands[1]? = some (.arc start control finish color lineWidth) ∧
        commands[2]? = some (.particle (quadraticPoint start control finish (1 / 4))
          r.colors.particleRadius r.colors.particle) := by
  constructor
  · intro start control finish
    have h₀ : (0 : ℝ) ≤ 1 / 2 := by norm_num
    have h₁ : (1 / 2 : ℝ) ≤ 1 := by norm_num
    have hends : start ≠ finish := by simp [start, finish]
    have hcontrol : arcControl? start finish (-2) = some control := by
      rw [arcControl?_eq_some _ hends]
      simp only [bowed, start, control, finish, Vec2.midpoint_eq, Vec2.turned, Vec2.scale,
        Vec2.add_eq, Vec2.sub_eq, Option.some.injEq, Vec2.mk.injEq]
      norm_num
    have hchord : |(-2 : ℝ)| * finish.distance start = 10 := by
      have hsquares : (finish - start).dot (finish - start) = 5 ^ 2 := by
        simp only [start, finish, Vec2.dot, Vec2.sub_eq]
        norm_num
      rw [Vec2.distance_eq, Vec2.length_eq, hsquares, Real.sqrt_sq (by norm_num)]
      norm_num
    obtain ⟨⟨-, hoffset⟩, -, -, hcurve⟩ := (arcs_bow.1 start finish (-2)).2 control hcontrol
    obtain ⟨-, hline, -⟩ := hcurve (1 / 2) h₀ h₁
    have hhalf : 2 * (1 / 2) * (1 - 1 / 2) * (|(-2 : ℝ)| * finish.distance start) = 5 := by
      rw [hchord]
      norm_num
    exact ⟨h₀, h₁, hcontrol, hoffset.trans hchord, hhalf ▸ hline⟩
  · intro r commands
    let view : View ℝ := ⟨0, 0, 200⟩
    let c : Connection ℝ := ⟨⟨0, 0⟩, ⟨0, 90⟩⟩
    have hstart : view.project c.start = ⟨200 / 2, 200 / 2, 1⟩ := View.project_center 200
    have hfinish : view.project c.finish = ⟨200 / 2 + 200 / 2, 200 / 2, 0⟩ := View.project_east 200
    have hlimb : r.limbThreshold < 0 := by
      show -(0.5 : ℝ) < 0
      norm_num
    obtain ⟨control, hcontrol⟩ : ∃ control, r.control? view c = some control :=
      ⟨_, Renderer.control?_eq_some (by rw [hstart]; exact hlimb.trans one_pos)
        (by rw [hfinish]; exact hlimb) (by rw [hstart, hfinish]; norm_num [Projected.point])⟩
    have hcommands : commands =
        [.clear 200, r.arcOf view control c, r.particleOf view 500 0 control c] := by
      have harc := r.commands_arc view 500 0 c
      rw [hcontrol] at harc
      show (r.render view [c] [] 500).commands = _
      rw [Renderer.render_eq]
      show OverlayCommand.clear 200 :: ([] ++ ((r.arc view 500 0 c).commands ++ [])) = _
      rw [harc]
      rfl
    have harc : commands[1]? = some (r.arcOf view control c) := by
      rw [hcommands]
      rfl
    obtain ⟨-, index, hindex, -, hparticle⟩ := arcs_bow.2 r view [c] [] 500 1 _ _ _ _ _ harc
    obtain rfl : index = 0 := Nat.lt_one_iff.mp hindex
    have hquarter : particleProgress 500 0 r.particlePeriod r.particlePhaseStep = 1 / 4 := by
      have hperiod : (0 : ℝ) < r.particlePeriod := by
        show (0 : ℝ) < 2000
        norm_num
      rw [particleProgress_eq_fract 500 0 r.particlePhaseStep hperiod, particleLaps,
        Int.fract_eq_iff]
      refine ⟨by norm_num, by norm_num, 0, ?_⟩
      show (500 + ((0 : ℕ) : ℝ) * r.particlePhaseStep) / 2000 - 1 / 4 = _
      norm_num
    rw [hquarter] at hparticle
    exact ⟨_, _, _, _, _, harc, hparticle⟩

end GlobeView
