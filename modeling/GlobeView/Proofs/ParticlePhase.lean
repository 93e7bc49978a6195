import GlobeView.Proofs.ExactNumbers
import GlobeView.Proofs.Sizes

/-! # The phase of a particle

A particle goes along its arc once in every period.  Counted in laps (`particleLaps`) its way is
even: time adds to it, and so does the place of the connection in its list, by one phase step each.
How far along the arc the particle is, is what the last lap has come to
(`particleProgress_eq_fract`), for whatever the laps are, also fewer than none.

Two particles are in step when their laps differ by a whole number.  That difference does not
depend on the time (`particleLaps_sub`). -/

namespace GlobeView

open Scalar

/-- How often the particle of connection `index` has gone along its arc. -/
noncomputable def particleLaps (elapsed : ℝ) (index : ℕ) (period phaseStep : ℝ) : ℝ :=
  (elapsed + index * phaseStep) / period

section laps

variable (elapsed : ℝ) (index : ℕ) {period : ℝ} (phaseStep : ℝ)

theorem particleLaps_add (hperiod : 0 < period) (n : ℤ) :
    particleLaps (elapsed + n * period) index period phaseStep =
      particleLaps elapsed index period phaseStep + n := by
  unfold particleLaps
  field_simp
  ring

theorem particleLaps_sub (i j : ℕ) :
    particleLaps elapsed i period phaseStep - particleLaps elapsed j period phaseStep =
      ((i : ℝ) - j) * phaseStep / period := by
  unfold particleLaps
  rw [← sub_div]
  ring

/-- The particle is where its last lap has come to. -/
theorem particleProgress_eq_fract (hperiod : 0 < period) :
    particleProgress elapsed index period phaseStep =
      Int.fract (particleLaps elapsed index period phaseStep) := by
  have hrunning : ¬ period ≤ @OfNat.ofNat ℝ 0 (Scalar.instOfNat 0) := by
    rw [Exact.zero_eq]
    exact not_le.mpr hperiod
  rw [particleProgress, if_neg hrunning]
  show (elapsed + index * phaseStep - |period| * ⌊(elapsed + index * phaseStep) / |period|⌋) /
    period = _
  rw [abs_of_pos hperiod, sub_div, mul_div_cancel_left₀ _ hperiod.ne']
  exact Int.self_sub_floor _

theorem particleProgress_mem (period : ℝ) :
    0 ≤ particleProgress elapsed index period phaseStep ∧
      particleProgress elapsed index period phaseStep < 1 := by
  by_cases hperiod : 0 < period
  · rw [particleProgress_eq_fract elapsed index phaseStep hperiod]
    exact ⟨Int.fract_nonneg _, Int.fract_lt_one _⟩
  · have hstopped : period ≤ @OfNat.ofNat ℝ 0 (Scalar.instOfNat 0) := by
      rw [Exact.zero_eq]
      exact not_lt.mp hperiod
    rw [particleProgress, if_pos hstopped, Exact.zero_eq]
    exact ⟨le_rfl, one_pos⟩

/-- Two particles are in step at a time exactly if their lead is a whole number of periods. -/
theorem particleProgress_eq_iff (hperiod : 0 < period) (i j : ℕ) :
    particleProgress elapsed i period phaseStep = particleProgress elapsed j period phaseStep ↔
      ∃ n : ℤ, ((i : ℝ) - j) * phaseStep = n * period := by
  rw [particleProgress_eq_fract elapsed i phaseStep hperiod,
    particleProgress_eq_fract elapsed j phaseStep hperiod, Int.fract_eq_fract]
  refine exists_congr fun n => ?_
  rw [particleLaps_sub, div_eq_iff hperiod.ne']

end laps

theorem Config.check_particles {cfg : Config ℝ} (h : cfg.check = .ok ()) :
    0 < cfg.particlePeriod ∧
      ∀ phaseStep, { cfg with particlePhaseStep := phaseStep }.check = .ok () := by
  -- the phase step is in none of the ranges
  exact ⟨by simpa using cfg.pos_of_check h "particle_period_ms" (by simp [ranges]), fun _ => h⟩

/-- **Particles go round evenly and keep their distances.**  How far along its arc a particle is lies
in `[0, 1)`: it is the fractional part of the time, with the lead of the connection, in periods.
Whole periods later it is the same.  Two particles that are in step once are in step always, and
they are if their lead over one another is a whole number of periods.  All this holds for phase
steps of either sign, and a configuration may have any of them. -/
theorem particles_keep_phase :
    (∀ period phaseStep : ℝ, 0 < period →
      let progress (elapsed : ℝ) (index : ℕ) := particleProgress elapsed index period phaseStep
      (∀ elapsed index,
        (0 ≤ progress elapsed index ∧ progress elapsed index < 1) ∧
          progress elapsed index = Int.fract ((elapsed + index * phaseStep) / period) ∧
          ∀ n : ℤ, progress (elapsed + n * period) index = progress elapsed index) ∧
      ∀ i j,
        ((∃ elapsed, progress elapsed i = progress elapsed j) ↔
          ∀ elapsed, progress elapsed i = progress elapsed j) ∧
        ((∀ elapsed, progress elapsed i = progress elapsed j) ↔
          ∃ n : ℤ, ((i : ℝ) - j) * phaseStep = n * period)) ∧
    ∀ cfg : Config ℝ, cfg.check = .ok () → 0 < cfg.particlePeriod ∧
      ∀ phaseStep, { cfg with particlePhaseStep := phaseStep }.check = .ok () := by
  refine ⟨fun period phaseStep hperiod => ?_, fun cfg h => Config.check_particles h⟩
  intro progress
  have hstep (elapsed : ℝ) (i j : ℕ) : progress elapsed i = progress elapsed j ↔
      ∃ n : ℤ, ((i : ℝ) - j) * phaseStep = n * period :=
    particleProgress_eq_iff elapsed phaseStep hperiod i j
  constructor
  · intro elapsed index
    have hfract (elapsed : ℝ) := particleProgress_eq_fract elapsed index phaseStep hperiod
    refine ⟨particleProgress_mem elapsed index phaseStep period, hfract elapsed, fun n => ?_⟩
    calc progress (elapsed + n * period) index
        = Int.fract (particleLaps (elapsed + n * period) index period phaseStep) := hfract _
      _ = Int.fract (particleLaps elapsed index period phaseStep) := by
          rw [particleLaps_add elapsed index phaseStep hperiod, Int.fract_add_intCast]
      _ = progress elapsed index := (hfract elapsed).symm
  · intro i j
    refine ⟨⟨fun ⟨elapsed, h⟩ later => ?_, fun h => ⟨0, h 0⟩⟩, ⟨fun h => ?_, fun h elapsed => ?_⟩⟩
    · exact (hstep later i j).mpr ((hstep elapsed i j).mp h)
    · exact (hstep 0 i j).mp (h 0)
    · exact (hstep elapsed i j).mpr h

/-- With a phase step backwards the second particle starts close to the end of its arc.  The one
twenty places further is in step with the first, and the second is not. -/
theorem particles_keep_phase_backwards :
    (0 : ℝ) < 2000 ∧ particleProgress (0 : ℝ) 1 2000 (-100) = 19 / 20 ∧
      (∀ elapsed : ℝ,
        particleProgress elapsed 20 2000 (-100) = particleProgress elapsed 0 2000 (-100)) ∧
      ∀ elapsed : ℝ,
        particleProgress elapsed 1 2000 (-100) ≠ particleProgress elapsed 0 2000 (-100) := by
  have hperiod : (0 : ℝ) < 2000 := by norm_num
  obtain ⟨hprogress, hstep⟩ := particles_keep_phase.1 2000 (-100) hperiod
  refine ⟨hperiod, (hprogress 0 1).2.1.trans ?_, (hstep 20 0).2.mpr ⟨-1, by norm_num⟩,
    fun elapsed h => ?_⟩
  · rw [Int.fract_eq_iff]
    exact ⟨by norm_num, by norm_num, -1, by norm_num⟩
  · obtain ⟨n, hn⟩ := (hstep 1 0).2.mp ((hstep 1 0).1.mp ⟨elapsed, h⟩)
    have hwhole : ((-1 : ℤ) : ℝ) = ((20 * n : ℤ) : ℝ) := by
      push_cast at hn ⊢
      linarith
    have hcontra : (-1 : ℤ) = 20 * n := Int.cast_injective hwhole
    omega

end GlobeView
