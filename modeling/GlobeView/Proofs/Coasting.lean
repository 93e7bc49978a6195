import Mathlib.Algebra.Order.BigOperators.Group.Finset
import GlobeView.Proofs.ExactNumbers
import GlobeView.Proofs.OverlayAccounting
import GlobeView.Proofs.PointerCoherence
import GlobeView.Proofs.Sizes
import GlobeView.Proofs.Steering

/-! # Coasting

A globe that nobody holds is damped at every tick and held at a floor.  Which of the two a tick does
is decided on the magnitude of the velocity; the floor itself is positive, so that a globe that was
pushed backwards turns around when it reaches it.

* Damping and floor come to one formula: after `n` ticks the velocity is the first one times the
  `n`-th power of the damping, or the floor where the magnitude of that is below it
  (`Spin.Damped.iterate_coast`).  The damping does not raise a magnitude, so once a power is below
  the floor all later ones are.
* The angle is the first one and all velocities since (`Rotation.iterate_tick`).
* Only ticks turn a free globe, so a run without a press is so many ticks
  (`Controller.rotation_run_of_free`). -/

namespace GlobeView

namespace Spin

/-- A damping that does not speed up and a floor that is not below rest: the ranges of an accepted
configuration. -/
structure Damped (s : Spin ℝ) : Prop where
  damping_pos : 0 < s.damping
  damping_le_one : s.damping ≤ 1
  minVelocity_nonneg : 0 ≤ s.minVelocity

theorem damped_of_check {cfg : Config ℝ} (h : cfg.check = .ok ()) : (ofConfig cfg).Damped := by
  have hranges : ("damping", .unitInterval, cfg.damping) ∈ cfg.ranges ∧
      ("min_velocity", .nonNegative, cfg.minVelocity) ∈ cfg.ranges := by
    simp [Config.ranges]
  have hdamping := Config.holds_of_check h hranges.1
  have hfloor := Config.holds_of_check h hranges.2
  simp only [Expected.holds, Bool.and_eq_true, decide_eq_true_eq, Exact.zero_eq, Exact.one_eq]
    at hdamping hfloor
  exact ⟨hdamping.1, hdamping.2, hfloor.1⟩

variable {s : Spin ℝ} {v : ℝ}

theorem coast_eq (s : Spin ℝ) (v : ℝ) :
    s.coast v = if |v * s.damping| < s.minVelocity then s.minVelocity else v * s.damping := by
  show (if |v * s.damping| < s.minVelocity then s.minVelocity else v * s.damping) = _
  congr

namespace Damped

variable (h : s.Damped)
include h

theorem abs_mul_damping (v : ℝ) : |v * s.damping| = |v| * s.damping := by
  rw [abs_mul, abs_of_pos h.damping_pos]

theorem coast_of_le (hv : s.minVelocity ≤ |v| * s.damping) : s.coast v = v * s.damping := by
  rw [coast_eq, h.abs_mul_damping, if_neg (not_lt.mpr hv)]

theorem coast_of_lt (hv : |v| * s.damping < s.minVelocity) : s.coast v = s.minVelocity := by
  rw [coast_eq, h.abs_mul_damping, if_pos hv]

theorem coast_minVelocity : s.coast s.minVelocity = s.minVelocity := by
  have habs : |s.minVelocity| = s.minVelocity := abs_of_nonneg h.minVelocity_nonneg
  have hdamped : |s.minVelocity| * s.damping ≤ s.minVelocity := by
    rw [habs]
    exact mul_le_of_le_one_right h.minVelocity_nonneg h.damping_le_one
  obtain hlt | heq := hdamped.lt_or_eq
  · exact h.coast_of_lt hlt
  · rw [h.coast_of_le heq.ge, ← habs]
    simpa [habs] using heq

theorem iterate_coast_minVelocity (n : ℕ) : s.coast^[n] s.minVelocity = s.minVelocity :=
  Function.iterate_fixed h.coast_minVelocity n

/-- A tick leaves at least the floor, in one direction or the other. -/
theorem minVelocity_le_abs_coast (v : ℝ) : s.minVelocity ≤ |s.coast v| := by
  obtain hv | hv := le_or_gt s.minVelocity (|v| * s.damping)
  · rw [h.coast_of_le hv, h.abs_mul_damping]
    exact hv
  · rw [h.coast_of_lt hv]
    exact le_abs_self _

/-- Above the floor a tick does not make the globe faster. -/
theorem abs_coast_le (hv : s.minVelocity ≤ |v|) : |s.coast v| ≤ |v| := by
  obtain hfast | hslow := le_or_gt s.minVelocity (|v| * s.damping)
  · rw [h.coast_of_le hfast, h.abs_mul_damping]
    exact mul_le_of_le_one_right (abs_nonneg v) h.damping_le_one
  · rw [h.coast_of_lt hslow, abs_of_nonneg h.minVelocity_nonneg]
    exact hv

theorem iterate_coast (v : ℝ) (n : ℕ) :
    s.coast^[n + 1] v =
      if s.minVelocity ≤ |v| * s.damping ^ (n + 1) then v * s.damping ^ (n + 1)
      else s.minVelocity := by
  induction n with
  | zero =>
      rw [zero_add, Function.iterate_one, pow_one]
      split_ifs with hv
      · exact h.coast_of_le hv
      · exact h.coast_of_lt (not_le.mp hv)
  | succ n ih =>
      have hpower : |v * s.damping ^ (n + 1)| * s.damping = |v| * s.damping ^ (n + 2) := by
        rw [abs_mul, abs_of_pos (pow_pos h.damping_pos _), pow_succ _ (n + 1), mul_assoc]
      have hdecays : |v| * s.damping ^ (n + 2) ≤ |v| * s.damping ^ (n + 1) := by
        rw [pow_succ _ (n + 1), ← mul_assoc]
        exact mul_le_of_le_one_right
          (mul_nonneg (abs_nonneg v) (pow_pos h.damping_pos _).le) h.damping_le_one
      rw [Function.iterate_succ_apply', ih]
      split_ifs with hbefore hnow hnow
      · rw [h.coast_of_le (hpower ▸ hnow), mul_assoc, ← pow_succ]
      · exact h.coast_of_lt (hpower ▸ not_le.mp hnow)
      · -- a power above the floor has only powers above the floor before it
        exact absurd (hnow.trans hdecays) hbefore
      · exact h.coast_minVelocity

end Damped
end Spin

namespace Rotation

variable {s : Spin ℝ} {r : Rotation ℝ}

theorem tick_of_free (hfree : r.isDragging = false) :
    r.tick s = { r with velocity := s.coast r.velocity, phi := r.phi + s.coast r.velocity } := by
  rw [tick, hfree]
  rfl

theorem iterate_tick (hfree : r.isDragging = false) (n : ℕ) :
    (tick s)^[n] r =
      { r with
        velocity := s.coast^[n] r.velocity
        phi := r.phi + ∑ k ∈ Finset.range n, s.coast^[k + 1] r.velocity } := by
  induction n with
  | zero => simp
  | succ n ih =>
      rw [Function.iterate_succ_apply', ih, tick_of_free, Finset.sum_range_succ, ← add_assoc,
        Function.iterate_succ_apply' s.coast]
      exact hfree

theorem dragEnd_of_free {α : Type} {r : Rotation α} (hfree : r.isDragging = false) :
    r.dragEnd = r := by
  rw [dragEnd, ← hfree]

theorem dragMove_of_free {α : Type} [Scalar α] {r : Rotation α} (s : Spin α) (dx : α)
    (hfree : r.isDragging = false) : r.dragMove s dx = r := by
  rw [dragMove, hfree]
  rfl

end Rotation

namespace Controller

variable {σ α : Type} [Scalar α] [PhaseSource σ α]

/-- Unless it is pressed, a free globe is turned by ticks only. -/
theorem rotation_act_of_free {a : Action α} (ha : ∀ position, a ≠ .pointer (.down position))
    {c : Controller σ α} (hfree : c.rotation.isDragging = false) :
    (c.act a).rotation = if a.isTick then c.rotation.tick c.spin else c.rotation := by
  have hact : (c.act a).rotation =
      (a.drive?.toList.foldl (Steering.step c.spin) c.steering).rotation :=
    congrArg Steering.rotation (steering_act a c)
  rw [hact]
  cases a with
  | pointer event =>
      cases event with
      | down position => exact absurd rfl (ha position)
      | move position => exact Rotation.dragMove_of_free _ _ hfree
      | up position => exact Rotation.dragEnd_of_free hfree
      | leave => exact Rotation.dragEnd_of_free hfree
  | _ => rfl

theorem rotation_run_of_free {actions : List (Action α)}
    (hpress : ∀ position, .pointer (.down position) ∉ actions) {c : Controller σ α}
    (hfree : c.rotation.isDragging = false) :
    (c.run actions).rotation =
      (Rotation.tick c.spin)^[actions.countP Action.isTick] c.rotation := by
  induction actions generalizing c with
  | nil => rfl
  | cons a rest ih =>
      have ha : ∀ position, a ≠ .pointer (.down position) := by
        rintro position rfl
        exact hpress position List.mem_cons_self
      have hrest : ∀ position, .pointer (.down position) ∉ rest := fun position hmem =>
        hpress position (List.mem_cons_of_mem a hmem)
      have hrotation := rotation_act_of_free ha hfree
      have hstill : (c.act a).rotation.isDragging = false := by
        rw [hrotation]
        split_ifs
        · exact (Rotation.isDragging_tick _ _).trans hfree
        · exact hfree
      show ((c.act a).run rest).rotation = _
      rw [ih hrest hstill, act_spin, hrotation, List.countP_cons]
      split_ifs <;> rfl

/-- **The closed form of coasting.**  Take a damping in `(0, 1]`, a floor that is not negative and a
globe that nobody holds.  After one tick or more its velocity is the first one times as many
dampings, unless the magnitude of that is below the floor, and then the floor; its angle is the
first one and the velocities after each of the ticks.  So it does not get faster while it is above the
floor, it keeps the floor once it has it, and with a positive floor every tick turns it by at least
that much.  A run of a controller in which the globe is not pressed comes to its ticks, whatever
else happens in it. -/
theorem coasting_closed_form {s : Spin ℝ} (hpos : 0 < s.damping) (hone : s.damping ≤ 1)
    (hfloor : 0 ≤ s.minVelocity) {r : Rotation ℝ} (hfree : r.isDragging = false) :
    let after (n : ℕ) : Rotation ℝ := (Rotation.tick s)^[n] r
    (∀ n, 1 ≤ n →
      (after n).velocity =
          (if s.minVelocity ≤ |r.velocity| * s.damping ^ n then r.velocity * s.damping ^ n
          else s.minVelocity) ∧
        (after n).phi = r.phi + ∑ k ∈ Finset.range n, (after (k + 1)).velocity) ∧
    (∀ n, s.minVelocity ≤ |(after n).velocity| →
      |(after (n + 1)).velocity| ≤ |(after n).velocity|) ∧
    (∀ n, (after n).velocity = s.minVelocity →
      ∀ m, n ≤ m → (after m).velocity = s.minVelocity) ∧
    (0 < s.minVelocity → ∀ n, s.minVelocity ≤ |(after (n + 1)).phi - (after n).phi|) ∧
    ∀ (σ : Type) [PhaseSource σ ℝ] (c : Controller σ ℝ) (actions : List (Action ℝ)),
      c.spin = s → c.rotation = r → (∀ position, .pointer (.down position) ∉ actions) →
        (c.run actions).rotation = after (actions.countP Action.isTick) := by
  intro after
  have h : s.Damped := ⟨hpos, hone, hfloor⟩
  have hvelocity (n : ℕ) : (after n).velocity = s.coast^[n] r.velocity := by
    rw [show after n = _ from Rotation.iterate_tick hfree n]
  have hphi (n : ℕ) : (after n).phi = r.phi + ∑ k ∈ Finset.range n, s.coast^[k + 1] r.velocity := by
    rw [show after n = _ from Rotation.iterate_tick hfree n]
  refine ⟨?_, ?_, ?_, ?_, ?_⟩
  · intro n hn
    obtain ⟨n, rfl⟩ := Nat.exists_eq_add_of_le' hn
    refine ⟨(hvelocity _).trans (h.iterate_coast r.velocity n), ?_⟩
    rw [hphi]
    simp only [hvelocity]
  · intro n hn
    rw [hvelocity] at hn
    rw [hvelocity, hvelocity, Function.iterate_succ_apply']
    exact h.abs_coast_le hn
  · intro n hn m hm
    obtain ⟨k, rfl⟩ := Nat.exists_eq_add_of_le' hm
    rw [hvelocity] at hn
    rw [hvelocity, Function.iterate_add_apply, hn, h.iterate_coast_minVelocity]
  · intro _ n
    rw [hphi, hphi, Finset.sum_range_succ, ← add_assoc, add_sub_cancel_left,
      Function.iterate_succ_apply']
    exact h.minVelocity_le_abs_coast _
  · rintro σ _ c actions rfl rfl hpress
    exact rotation_run_of_free hpress hfree

/-- A globe that was pushed backwards reaches the floor at its second tick, and the third one turns
it around. -/
theorem coasting_closed_form_turnaround :
    let cfg : Config ℝ := { Config.default with damping := 0.5, minVelocity := 0.25 }
    let s := Spin.ofConfig cfg
    let r : Rotation ℝ := ⟨0, 0, -1, false⟩
    let after (n : ℕ) : Rotation ℝ := (Rotation.tick s)^[n] r
    cfg.check = .ok () ∧ 0 < s.damping ∧ s.damping ≤ 1 ∧ 0 ≤ s.minVelocity ∧
      r.isDragging = false ∧ (after 2).velocity = -0.25 ∧ (after 3).velocity = 0.25 ∧
      (after 3).phi = -0.5 := by
  intro cfg s r after
  have hcheck : cfg.check = .ok () := by
    simp [Config.check, Config.violation?, Config.ranges, cfg, Config.default, Expected.holds]
    norm_num
  have h : s.Damped := Spin.damped_of_check hcheck
  have hfree : r.isDragging = false := rfl
  obtain ⟨hclosed, _⟩ :=
    coasting_closed_form h.damping_pos h.damping_le_one h.minVelocity_nonneg hfree
  have hvelocity (n : ℕ) (hn : 1 ≤ n) : (after n).velocity =
      if (0.25 : ℝ) ≤ |-1| * 0.5 ^ n then -1 * 0.5 ^ n else 0.25 := (hclosed n hn).1
  have hfirst : (after 1).velocity = -0.5 := by
    rw [hvelocity 1 le_rfl]
    norm_num
  have hsecond : (after 2).velocity = -0.25 := by
    rw [hvelocity 2 (by norm_num)]
    norm_num
  have hthird : (after 3).velocity = 0.25 := by
    rw [hvelocity 3 (by norm_num)]
    norm_num
  refine ⟨hcheck, h.damping_pos, h.damping_le_one, h.minVelocity_nonneg, hfree, hsecond, hthird, ?_⟩
  calc (after 3).phi
      = 0 + ∑ k ∈ Finset.range 3, (after (k + 1)).velocity := (hclosed 3 (by norm_num)).2
    _ = -0.5 := by
        simp only [Finset.sum_range_succ, Finset.sum_range_zero, zero_add, hfirst, hsecond, hthird]
        norm_num

end Controller
end GlobeView
