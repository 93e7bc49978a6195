import GlobeView.Proofs.InfiniteNumbers
import GlobeView.Proofs.HeatMap

/-! # How heat adds up and fades

Read over exact numbers, bursts at one location add up to their sum, held at one, in whatever order
they come: holding the sum at one after each of them is holding it once at the end, because no burst
takes heat away (`HeatField.heated_bursts`).

With a decay below one everything fades.  A location that the last of several steps leaves was left
by all steps before it, since its heat only falls; so what is left after `n` steps can be told from
the heat before them and the `n`-th power of the decay (`HeatField.points_steps`).

Amounts and decays may be infinite or undefined; the heat itself is a real number. -/

namespace GlobeView

open Scalar Extended

namespace Extended

theorem floor_eq : (HeatField.floor : Extended) = real 0.001 := rfl

theorem exists_real_of_mem {a : Extended} (hpos : 0 < a) (hle : a ≤ 1) :
    ∃ x, a = real x ∧ 0 < x ∧ x ≤ 1 := by
  rw [one_eq] at hle
  obtain rfl | ⟨x, rfl, hx⟩ := pos_iff.mp hpos
  · have hdown : (1 : SignType) = -1 := hle
    cases hdown
  · exact ⟨x, rfl, hx, hle⟩

/-- A decay factor is a real number in `[0, 1]`, unless it is undefined. -/
theorem clamp_unit (decay : Extended) :
    clamp decay 0 1 = undefined ∨ ∃ x, clamp decay 0 1 = real x ∧ 0 ≤ x ∧ x ≤ 1 := by
  have hbelow : ¬ real 1 < real 0 := by rw [real_lt_real]; norm_num
  unfold clamp
  simp only [zero_eq, one_eq]
  by_cases hlow : decay < real 0
  · rw [if_pos hlow, if_neg hbelow]
    exact .inr ⟨0, rfl, le_rfl, zero_le_one⟩
  rw [if_neg hlow]
  by_cases hhigh : real 1 < decay
  · rw [if_pos hhigh]
    exact .inr ⟨1, rfl, zero_le_one, le_rfl⟩
  rw [if_neg hhigh]
  cases decay with
  | real x => exact .inr ⟨x, rfl, not_lt.mp hlow, not_lt.mp hhigh⟩
  | beyond d =>
      have hup : ¬ d = 1 := hhigh
      have hdown : ¬ d = -1 := hlow
      cases d with
      | zero => exact .inl rfl
      | pos => exact absurd rfl hup
      | neg => exact absurd rfl hdown

theorem clamp_real {x : ℝ} (hx : 0 ≤ x) (hx1 : x ≤ 1) : clamp (real x) 0 1 = real x := by
  have hlow : ¬ real x < real 0 := hx.not_gt
  have hhigh : ¬ real 1 < real x := hx1.not_gt
  simp only [clamp, zero_eq, one_eq, if_neg hlow, if_neg hhigh]

instance : HeatNumbers Extended where
  zero_add {a} ha := by
    obtain rfl | ⟨x, rfl, -⟩ := pos_iff.mp ha
    · rfl
    · rw [zero_eq, real_add_real, zero_add]
  add_pos {a b} ha hb := by
    obtain rfl | ⟨x, rfl, hx⟩ := pos_iff.mp ha <;> obtain rfl | ⟨y, rfl, hy⟩ := pos_iff.mp hb
    · exact pos_iff.mpr (.inl rfl)
    · exact pos_iff.mpr (.inl rfl)
    · exact pos_iff.mpr (.inl rfl)
    · exact pos_iff.mpr (.inr ⟨x + y, rfl, by positivity⟩)
  min_one {a} ha := by
    rw [zero_eq, one_eq]
    obtain rfl | ⟨x, rfl, hx⟩ := pos_iff.mp ha
    · have hbelow : ¬ infinity < real 1 := fun h : (1 : SignType) = -1 => by cases h
      have hheld : Scalar.min infinity (real 1) = real 1 := by
        rw [Scalar.min, isUndefined_real, if_neg Bool.false_ne_true, if_neg hbelow]
      rw [hheld, real_lt_real, real_le_real]
      exact ⟨zero_lt_one, le_rfl⟩
    · rw [min_real]
      exact ⟨lt_min hx zero_lt_one, min_le_right x 1⟩
  pos_of_floor_le {a} ha := by
    rw [floor_eq] at ha
    apply pos_iff.mpr
    cases a with
    | real x =>
        have hx : (0.001 : ℝ) ≤ x := ha
        exact .inr ⟨x, rfl, lt_of_lt_of_le (by norm_num) hx⟩
    | beyond d =>
        have hd : d = 1 := ha
        exact .inl (congrArg beyond hd)
  not_floor_le_zero_mul decay h := by
    obtain hundefined | ⟨x, hreal, -⟩ := clamp_unit decay
    · rw [hundefined, mul_undefined] at h
      exact not_le_undefined _ h
    · rw [hreal, floor_eq, zero_eq, real_mul_real, zero_mul, real_le_real] at h
      norm_num at h
  mul_clamp_le_one {a} decay hpos hle hfloor := by
    obtain ⟨x, rfl, hx, hx1⟩ := exists_real_of_mem hpos hle
    obtain hundefined | ⟨y, hreal, hy, hy1⟩ := clamp_unit decay
    · rw [hundefined, mul_undefined] at hfloor
      exact absurd hfloor (not_le_undefined _)
    · rw [hreal, real_mul_real, one_eq, real_le_real]
      exact mul_le_one₀ hx1 hy hy1

end Extended

namespace HeatField

theorem Sound.exists_heatAt {decay : Extended} {f : HeatField Extended} (h : f.Sound decay)
    (location : LatLon Extended) : ∃ value : ℝ, f.heatAt location = real value ∧ value ≤ 1 := by
  obtain hnone | ⟨p, hp, hlisted⟩ := lookup_cases location f.points
  · exact ⟨0, hnone.trans zero_eq, zero_le_one⟩
  · obtain ⟨value, hvalue, -, hle⟩ := exists_real_of_mem (h.range p hp).1 (h.range p hp).2
    exact ⟨value, hlisted.trans hvalue, hle⟩

/-! ### Bursts -/

/-- The field after bursts in order, each an amount at a location. -/
def recordAll {α : Type} [Scalar α] (bursts : List (LatLon α × α)) (f : HeatField α) :
    HeatField α :=
  f.changes (bursts.map fun burst => .record burst.1 burst.2)

/-- What a burst has for a location: its amount, if that is finite and positive and recorded
there. -/
noncomputable def share (location : LatLon Extended) : LatLon Extended × Extended → ℝ
  | (spot, real amount) => if spot == location ∧ 0 < amount then amount else 0
  | (_, beyond _) => 0

theorem share_real (location spot : LatLon Extended) (amount : ℝ) :
    share location (spot, real amount) = if spot == location ∧ 0 < amount then amount else 0 := rfl

theorem share_nonneg (location : LatLon Extended) (burst : LatLon Extended × Extended) :
    0 ≤ share location burst := by
  obtain ⟨spot, amount⟩ := burst
  cases amount with
  | beyond d => exact le_rfl
  | real x =>
      rw [share_real]
      split_ifs with hcounts
      · exact hcounts.2.le
      · exact le_rfl

theorem heated_burst (location spot : LatLon Extended) (decay amount : Extended) {value : ℝ}
    (hvalue : value ≤ 1) :
    (if (Change.record spot amount).concerns location then
        (Change.record spot amount).heated decay (real value)
      else real value) = real (Min.min 1 (value + share location (spot, amount))) := by
  have hkept : real value = real (Min.min 1 (value + 0)) := by
    rw [add_zero, min_eq_right hvalue]
  cases amount with
  | beyond d => exact (ite_self _).trans hkept
  | real x =>
      have hcounts : (isFinite (real x) && decide (0 < real x)) = true ↔ 0 < x := by
        rw [zero_eq, isFinite_real, Bool.true_and, decide_eq_true_iff, real_lt_real]
      rw [Change.concerns, Change.heated, share_real]
      by_cases hspot : (spot == location) = true
      · by_cases hx : 0 < x
        · rw [if_pos hspot, if_pos (hcounts.mpr hx), if_pos ⟨hspot, hx⟩, one_eq, real_add_real,
            min_real, min_comm]
        · rw [if_pos hspot, if_neg (mt hcounts.mp hx), if_neg fun h => hx h.2]
          exact hkept
      · rw [if_neg hspot, if_neg fun h => hspot h.1]
        exact hkept

/-- Bursts add the sum of their shares, and that sum is held at one. -/
theorem heated_bursts (location : LatLon Extended) (decay : Extended)
    (bursts : List (LatLon Extended × Extended)) {value : ℝ} (hvalue : value ≤ 1) :
    ((bursts.map fun burst => Change.record burst.1 burst.2).filter
        (·.concerns location)).foldl (fun value c => c.heated decay value) (real value) =
      real (Min.min 1 (value + (bursts.map (share location)).sum)) := by
  induction bursts generalizing value with
  | nil =>
      show real value = real (Min.min 1 (value + 0))
      rw [add_zero, min_eq_right hvalue]
  | cons burst rest ih =>
      obtain ⟨spot, amount⟩ := burst
      -- after the first burst the heat is held at one already, which the later ones do not undo
      have hburst := heated_burst location spot decay amount hvalue
      have hrest : 0 ≤ (rest.map (share location)).sum :=
        List.sum_nonneg (List.forall_mem_map.mpr fun burst _ => share_nonneg location burst)
      have hheld (sum : ℝ) : Min.min 1 (Min.min 1 sum + (rest.map (share location)).sum) =
          Min.min 1 (sum + (rest.map (share location)).sum) := by
        rw [← min_add_add_right, ← min_assoc, min_eq_left (le_add_of_nonneg_right hrest)]
      rw [List.map_cons, List.map_cons, List.sum_cons, ← add_assoc, ← hheld,
        ← ih (min_le_left ..), ← hburst, List.filter_cons]
      split_ifs <;> rfl

/-! ### Steps -/

/-- What is left after steps can be told from the heat before them: a location that the last step
leaves was left by all steps before it. -/
theorem points_steps {d : ℝ} (hd : 0 ≤ d) (hd1 : d ≤ 1) {f : HeatField Extended}
    (hf : f.decay = real d) (hrange : ∀ p ∈ f.points, 0 < p.2 ∧ p.2 ≤ 1) (n : ℕ) :
    (f.changes (List.replicate (n + 1) .step)).decay = real d ∧
    (f.changes (List.replicate (n + 1) .step)).points =
      (f.points.filter fun p => 0.001 ≤ p.2 * real (d ^ (n + 1))).map
        fun p => (p.1, p.2 * real (d ^ (n + 1))) := by
  -- the heat of a location falls from step to step
  have hfalls (p : LatLon Extended × Extended) (hp : p ∈ f.points) (k : ℕ) :
      p.2 * real (d ^ k) * real d = p.2 * real (d ^ (k + 1)) ∧
        (0.001 ≤ p.2 * real (d ^ (k + 1)) → 0.001 ≤ p.2 * real (d ^ k)) := by
    obtain ⟨value, hvalue, hpos, -⟩ := exists_real_of_mem (hrange p hp).1 (hrange p hp).2
    have hpow : value * d ^ (k + 1) ≤ value * d ^ k :=
      mul_le_mul_of_nonneg_left (pow_le_pow_of_le_one hd hd1 (Nat.le_succ k)) hpos.le
    rw [hvalue, real_mul_real, real_mul_real, real_mul_real, mul_assoc, ← pow_succ]
    exact ⟨rfl, fun hleft => le_trans (α := ℝ) hleft hpow⟩
  induction n with
  | zero =>
      refine ⟨hf, ?_⟩
      show faded f.decay f.points = _
      rw [hf, pow_one, faded, List.filter_map]
      rfl
  | succ n ih =>
      obtain ⟨hdecay, hpoints⟩ := ih
      rw [List.replicate_succ' (n := n + 1), changes_append]
      refine ⟨hdecay, ?_⟩
      show faded (f.changes (List.replicate (n + 1) .step)).decay
        (f.changes (List.replicate (n + 1) .step)).points = _
      rw [hdecay, hpoints, faded, List.map_map, List.filter_map, List.filter_filter]
      have hleft : (f.points.filter fun p => decide (0.001 ≤ p.2 * real (d ^ (n + 1)) * real d) &&
            decide (0.001 ≤ p.2 * real (d ^ (n + 1)))) =
          f.points.filter fun p => 0.001 ≤ p.2 * real (d ^ (n + 2)) := by
        refine List.filter_congr fun p hp => ?_
        obtain ⟨hnext, hbefore⟩ := hfalls p hp (n + 1)
        rw [hnext, ← Bool.decide_and, decide_eq_decide]
        exact and_iff_left_of_imp hbefore
      refine (congrArg _ hleft).trans (List.map_congr_left fun p hp => ?_)
      exact congrArg (Prod.mk p.1) (hfalls p (List.mem_of_mem_filter hp) (n + 1)).1

/-- **Heat adds up in any order and fades away.**  After bursts without a step between them the heat
of a location is what it was and the sum of the finite positive amounts recorded there, held at one,
whatever the order of the bursts.  With a decay `d` in `[0, 1)`, what is left after `n` steps is
what was listed, times `d ^ n`, where that is at least 0.001; so nothing is left once `d ^ n` is
below 0.001, which comes true. -/
theorem heat_adds_up_and_fades :
    (∀ (decay : Extended) (history : List (Change Extended))
        (bursts : List (LatLon Extended × Extended)) (location : LatLon Extended),
      let f := (ofDecay decay).changes history
      ∃ old : ℝ, f.heatAt location = real old ∧
        (f.recordAll bursts).heatAt location =
          real (Min.min 1 (old + (bursts.map (share location)).sum)) ∧
        ∀ reordered, reordered.Perm bursts →
          (f.recordAll reordered).heatAt location = (f.recordAll bursts).heatAt location) ∧
    ∀ (d : ℝ) (history : List (Change Extended)), 0 ≤ d → d < 1 →
      let f := (ofDecay (real d)).changes history
      let after (n : ℕ) := f.changes (List.replicate n .step)
      (∀ n, 1 ≤ n → (after n).points =
        (f.points.filter fun p => 0.001 ≤ p.2 * real (d ^ n)).map
          fun p => (p.1, p.2 * real (d ^ n))) ∧
      (∀ n, d ^ n < 0.001 → (after n).isEmpty = true) ∧
      ∃ n, d ^ n < 0.001 := by
  constructor
  · intro decay history bursts location f
    have h : f.Sound decay := (sound_ofDecay decay).changes history
    obtain ⟨old, hold, hle⟩ := h.exists_heatAt location
    have hsum (given : List (LatLon Extended × Extended)) :
        (f.recordAll given).heatAt location =
          real (Min.min 1 (old + (given.map (share location)).sum)) := by
      rw [recordAll, h.heatAt_changes, hold]
      exact heated_bursts location _ given hle
    refine ⟨old, hold, hsum bursts, fun reordered hperm => ?_⟩
    rw [hsum, hsum, (hperm.map (share location)).sum_eq]
  · intro d history hd hd1 f after
    have h : f.Sound (real d) := (sound_ofDecay (real d)).changes history
    have hdecay : f.decay = real d := h.decay_eq.trans (clamp_real hd hd1.le)
    have hleft (n : ℕ) (hn : 1 ≤ n) : (after n).points =
        (f.points.filter fun p => 0.001 ≤ p.2 * real (d ^ n)).map
          fun p => (p.1, p.2 * real (d ^ n)) := by
      obtain ⟨k, rfl⟩ := Nat.exists_eq_add_of_le' hn
      exact (points_steps hd hd1.le hdecay h.range k).2
    refine ⟨hleft, fun n hlow => ?_, exists_pow_lt_of_lt_one (by norm_num) hd1⟩
    have hn : 1 ≤ n := by
      rw [Nat.one_le_iff_ne_zero]
      rintro rfl
      norm_num at hlow
    have hgone : (f.points.filter fun p => 0.001 ≤ p.2 * real (d ^ n)) = [] := by
      refine List.filter_eq_nil_iff.mpr fun p hp hleft => ?_
      obtain ⟨value, hvalue, hpos, hle⟩ := exists_real_of_mem (h.range p hp).1 (h.range p hp).2
      rw [hvalue, decide_eq_true_iff] at hleft
      have hfloor : 0.001 ≤ value * d ^ n := hleft
      have hless : value * d ^ n ≤ d ^ n := mul_le_of_le_one_left (pow_nonneg hd n) hle
      exact absurd (hfloor.trans hless) hlow.not_ge
    rw [isEmpty, hleft n hn, hgone]
    rfl

/-- Two bursts make three quarters, whatever comes between them elsewhere or without an end; heat of
one half fades to an eighth in two steps and away in ten. -/
theorem heat_adds_up_and_fades_halved :
    let here : LatLon Extended := ⟨real 0, real 0⟩
    let there : LatLon Extended := ⟨real 0, real 1⟩
    let bursts : List (LatLon Extended × Extended) :=
      [(here, real (1 / 4)), (there, real 1), (here, infinity), (here, real (1 / 2))]
    let f : HeatField Extended := (ofDecay (real (1 / 2))).changes [.record here (real (1 / 2))]
    ((ofDecay undefined).recordAll bursts).heatAt here = real (3 / 4) ∧
      bursts.reverse.Perm bursts ∧
      ((ofDecay undefined).recordAll bursts.reverse).heatAt here = real (3 / 4) ∧
      (0 : ℝ) ≤ 1 / 2 ∧ (1 / 2 : ℝ) < 1 ∧ 1 ≤ 2 ∧
      (f.changes [.step, .step]).points = [(here, real (1 / 8))] ∧
      (1 / 2 : ℝ) ^ 10 < 0.001 ∧ (f.changes (List.replicate 10 .step)).isEmpty = true := by
  intro here there bursts f
  obtain ⟨hadds, hfades⟩ := heat_adds_up_and_fades
  obtain ⟨old, hold, hsum, horder⟩ := hadds undefined [] bursts here
  obtain ⟨hleft, hgone, _⟩ :=
    hfades (1 / 2) [.record here (real (1 / 2))] (by norm_num) (by norm_num)
  have hcold : old = 0 := (Extended.real.inj (zero_eq.symm.trans hold)).symm
  have hhere : (here == here) = true :=
    LatLon.beq_self (isUndefined_real 0) (isUndefined_real 0)
  have hthere : ¬ (there == here) = true := by
    intro h
    have hlon : (real 1 == real 0) = true := ((Bool.and_eq_true _ _).mp h).2
    rw [real_beq_real, beq_iff_eq] at hlon
    exact one_ne_zero hlon
  have hshares : (bursts.map (share here)).sum = 3 / 4 := by
    have hfirst : share here (here, real (1 / 4)) = 1 / 4 := if_pos ⟨hhere, by norm_num⟩
    have hlast : share here (here, real (1 / 2)) = 1 / 2 := if_pos ⟨hhere, by norm_num⟩
    have helsewhere : share here (there, real 1) = 0 := if_neg fun h => hthere h.1
    have hinfinite : share here (here, infinity) = 0 := rfl
    simp only [bursts, List.map_cons, List.map_nil, List.sum_cons, List.sum_nil, hfirst, hlast,
      helsewhere, hinfinite]
    norm_num
  have hlisted : f.points = [(here, real (1 / 2))] := by
    have hcounts : (isFinite (real (1 / 2)) && decide ((0 : Extended) < real (1 / 2))) = true := by
      rw [zero_eq, isFinite_real, Bool.true_and, decide_eq_true_iff, real_lt_real]
      norm_num
    have hheld : Scalar.min (real (1 / 2)) 1 = real (1 / 2) := by
      rw [one_eq, min_real, min_eq_left (by norm_num)]
    show (HeatField.record here (real (1 / 2)) _).points = _
    rw [HeatField.record, if_pos hcounts]
    exact congrArg (fun value => [(here, value)]) hheld
  rw [hcold, hshares] at hsum
  have hthree : Min.min 1 (0 + 3 / 4 : ℝ) = 3 / 4 := by norm_num
  rw [hthree] at hsum
  have hreversed : bursts.reverse.Perm bursts := List.reverse_perm bursts
  have hsecond := hleft 2 (by norm_num)
  have hsmall : (1 / 2 : ℝ) ^ 10 < 0.001 := by norm_num
  refine ⟨hsum, hreversed, (horder _ hreversed).trans hsum, by norm_num, by norm_num, by decide, ?_,
    hsmall, hgone 10 hsmall⟩
  refine hsecond.trans ?_
  have heighth : (real (1 / 2) : Extended) * real ((1 / 2) ^ 2) = real (1 / 8) := by
    rw [real_mul_real]
    norm_num
  have hkept : decide ((0.001 : Extended) ≤ real (1 / 2) * real ((1 / 2) ^ 2)) = true := by
    have hfloor : (0.001 : ℝ) ≤ 1 / 8 := by norm_num
    rw [heighth]
    exact decide_eq_true hfloor
  show List.map _ (List.filter _ f.points) = _
  rw [hlisted, List.filter_cons, if_pos hkept]
  exact congrArg (fun value => [(here, value)]) heighth

end HeatField
end GlobeView
