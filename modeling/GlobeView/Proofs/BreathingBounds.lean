import GlobeView.Proofs.ExactNumbers
import GlobeView.Proofs.ControllerRuns

/-! # Markers breathe within bounds

A frame shows the markers that the globe was given last (`Controller.run_markers`), each at its
place of the list and at its own location.  Its size is the base size times a factor, and the bounds
of the factor need nothing of the sine but that it stays within one of zero: they hold for every
phase and every elapsed time, so that neither the history of the phases nor the times of the frames
matter (`Phases.breathes_animateFrom`). -/

namespace GlobeView

open Scalar

/-- The real numbers with some wave for their sine. -/
@[reducible] noncomputable def Exact.withSine (wave : ℝ → ℝ) : Scalar ℝ :=
  { Exact.scalar with sin := wave }

/-! ### The size of a marker -/

/-- What a frame may show of a marker: its location, and a size that the base size, if it is not
negative, bounds on both sides. -/
structure Marker.Breathes (m : Marker ℝ) (drawn : AnimatedMarker ℝ) : Prop where
  location : drawn.location = m.location
  not_small : 0 ≤ m.size → 0.7 * m.size ≤ drawn.size
  not_large : 0 ≤ m.size → drawn.size ≤ (if m.pulse then 2.3 else 1.3) * m.size

section breathing

variable {wave : ℝ → ℝ} (hwave : ∀ x, -1 ≤ wave x ∧ wave x ≤ 1)

include hwave

theorem sizeFactor_mem (phase elapsed : ℝ) (pulse : Bool) :
    letI := Exact.withSine wave
    0.7 ≤ sizeFactor phase elapsed pulse ∧
      sizeFactor phase elapsed pulse ≤ if pulse then 2.3 else 1.3 := by
  obtain ⟨hslow, hslow'⟩ := hwave (elapsed * (2 : ℕ) + phase)
  obtain ⟨hfast, hfast'⟩ := hwave (elapsed * (10 : ℕ))
  cases pulse with
  | false =>
      show 0.7 ≤ ((1 : ℕ) : ℝ) + wave (elapsed * (2 : ℕ) + phase) * 0.3 + (0 : ℕ) ∧
        ((1 : ℕ) : ℝ) + wave (elapsed * (2 : ℕ) + phase) * 0.3 + (0 : ℕ) ≤ 1.3
      push_cast at *
      constructor <;> linarith
  | true =>
      show 0.7 ≤ ((1 : ℕ) : ℝ) + wave (elapsed * (2 : ℕ) + phase) * 0.3 +
          (wave (elapsed * (10 : ℕ)) * 0.5 + 0.5) ∧
        ((1 : ℕ) : ℝ) + wave (elapsed * (2 : ℕ) + phase) * 0.3 +
          (wave (elapsed * (10 : ℕ)) * 0.5 + 0.5) ≤ 2.3
      push_cast at *
      constructor <;> linarith

variable {σ : Type} [PhaseSource σ ℝ]

theorem Phases.breathes_animateFrom (elapsed : ℝ) (index : ℕ) (markers : List (Marker ℝ))
    (p : Phases σ ℝ) :
    letI := Exact.withSine wave
    List.Forall₂ Marker.Breathes markers (p.animateFrom elapsed index markers).1 := by
  induction markers generalizing index p with
  | nil => exact .nil
  | cons m rest ih =>
      obtain ⟨hsmall, hlarge⟩ := sizeFactor_mem hwave (p.phase index).1 elapsed m.pulse
      refine .cons ⟨rfl, fun hsize => ?_, fun hsize => ?_⟩ (ih (index + 1) _)
      · exact (mul_comm _ _).trans_le (mul_le_mul_of_nonneg_left hsmall hsize)
      · exact (mul_le_mul_of_nonneg_left hlarge hsize).trans_eq (mul_comm _ _)

end breathing

/-! ### The markers of a run -/

namespace Controller

section markers

variable {α : Type}

/-- The markers that a globe is given after an action, from those before it. -/
def Action.markersAfter : Action α → List (Marker α) → List (Marker α)
  | .setScene scene, _ => scene.markers
  | .setMarkers markers, _ => markers
  | _, before => before

/-- The markers that a globe was given last in a run, none at first. -/
def lastMarkers (actions : List (Action α)) : List (Marker α) :=
  actions.foldl (fun before a => a.markersAfter before) []

variable {σ : Type} [Scalar α] [PhaseSource σ α]

theorem act_markers (a : Action α) (c : Controller σ α) :
    (c.act a).scene.markers = a.markersAfter c.scene.markers := by
  cases a with
  | pointer event =>
      obtain ⟨_, _, _, _, _, _, h⟩ := c.handle_shape event
      rw [act, h]
      rfl
  | resize container now => rw [act, resize_eq]; rfl
  | settle container now => rw [act, settle_eq]; rfl
  | setScene scene => rw [act, setScene, refreshHover_eq, setHover_eq]; rfl
  | setMarkers markers => rw [act, setMarkers, refreshHover_eq, setHover_eq]; rfl
  | _ => rfl

theorem run_markers (actions : List (Action α)) (c : Controller σ α) :
    (c.run actions).scene.markers =
      actions.foldl (fun before a => a.markersAfter before) c.scene.markers := by
  induction actions generalizing c with
  | nil => rfl
  | cons a rest ih =>
      rw [List.foldl_cons, ← act_markers]
      exact ih (c.act a)

end markers

/-- **Frames show the current markers, breathing within bounds.**  Over the real numbers, with any
wave between one and minus one for the sine: after any run of any globe, and at any time, a tick
shows the markers that the globe was given last, all of them and in order, each at its own location
and between 0.7 and 1.3 times its base size, or up to 2.3 times if it pulses. -/
theorem frames_breathe_within_bounds {wave : ℝ → ℝ} (hwave : ∀ x, -1 ≤ wave x ∧ wave x ≤ 1)
    {σ : Type} [PhaseSource σ ℝ] (config : Config ℝ) (source : σ) (actions : List (Action ℝ))
    (frame : Frame ℝ) :
    letI := Exact.withSine wave
    let c := (create config source).run actions
    c.scene.markers = lastMarkers actions ∧
      List.Forall₂ Marker.Breathes (lastMarkers actions) (c.tick frame).1.sphere.markers := by
  let := Exact.withSine wave
  intro c
  have hmarkers : c.scene.markers = lastMarkers actions := run_markers actions _
  refine ⟨hmarkers, ?_⟩
  rw [← hmarkers]
  exact Phases.breathes_animateFrom hwave _ 0 c.scene.markers c.phases

/-- With the sine itself: a frame two seconds before the first one, with a marker more. -/
theorem frames_breathe_within_bounds_backward :
    let config : Config ℝ := .default
    let frame : Frame ℝ := ⟨1, 0, 3⟩
    let calm : Marker ℝ := ⟨⟨10, 20⟩, 0.1, none, false⟩
    let flashing : Marker ℝ := ⟨⟨-5, 80⟩, 0.2, some "here", true⟩
    let actions : List (Action ℝ) :=
      [.setMarkers [calm], .tick ⟨0, 0, 5⟩, .setMarkers [calm, flashing]]
    let shown := (((create config Unseeded.mk).run actions).tick frame).1.sphere.markers
    (∀ x, -1 ≤ Real.sin x ∧ Real.sin x ≤ 1) ∧ 0 ≤ calm.size ∧ 0 ≤ flashing.size ∧
      ∃ a b, shown = [a, b] ∧ a.location = calm.location ∧ 0.07 ≤ a.size ∧ a.size ≤ 0.13 ∧
        b.location = flashing.location ∧ 0.14 ≤ b.size ∧ b.size ≤ 0.46 := by
  intro config frame calm flashing actions shown
  have hsine (x : ℝ) : -1 ≤ Real.sin x ∧ Real.sin x ≤ 1 :=
    ⟨Real.neg_one_le_sin x, Real.sin_le_one x⟩
  have hcalm : (0 : ℝ) ≤ 0.1 := by norm_num
  have hflashing : (0 : ℝ) ≤ 0.2 := by norm_num
  have hscalar : Exact.withSine Real.sin = Exact.scalar := rfl
  obtain ⟨-, hdrawn⟩ := frames_breathe_within_bounds hsine config Unseeded.mk actions frame
  have hlast : lastMarkers actions = [calm, flashing] := rfl
  rw [hscalar, hlast] at hdrawn
  obtain ⟨a, _, ha, hrest, hshown⟩ := List.forall₂_cons_left_iff.mp hdrawn
  obtain ⟨b, _, hb, hnone, rfl⟩ := List.forall₂_cons_left_iff.mp hrest
  obtain rfl := List.forall₂_nil_left_iff.mp hnone
  refine ⟨hsine, hcalm, hflashing, a, b, hshown, ha.location, ?_, ?_, hb.location, ?_, ?_⟩
  · exact (by norm_num : (0.07 : ℝ) = 0.7 * 0.1).trans_le (ha.not_small hcalm)
  · exact (ha.not_large hcalm).trans_eq (by norm_num [calm])
  · exact (by norm_num : (0.14 : ℝ) = 0.7 * 0.2).trans_le (hb.not_small hflashing)
  · exact (hb.not_large hflashing).trans_eq (by norm_num [flashing])

end Controller
end GlobeView
