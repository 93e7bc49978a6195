import GlobeView.Proofs.InfiniteNumbers

/-! # Sizes from any container

The sides of a container are whatever was measured: zero, negative, infinite or undefined.  Each is
read as an extent, a real number of at least zero (`Extended.extent`), before anything is computed
from it, so that the sizes are real numbers (`surfaceSize_eq`).

The displayed side is positive, because a base without extent gives way to the fallback.  So the side
of the buffer is, as the lesser of two positive numbers, and the scale factor is their quotient, which
gives the buffer back when it is multiplied with the displayed side.

Sizes that are real test equal to themselves.  That is all that a second observation of a container
needs to find nothing new (`Sizer.observe_again`). -/

namespace GlobeView

open Scalar Extended

/-- A side as far as it can be measured: what is not finite and positive counts as nothing. -/
noncomputable def Extended.extent : Extended → ℝ
  | real x => if 0 < x then x else 0
  | beyond _ => 0

theorem Extended.extent_nonneg (side : Extended) : 0 ≤ side.extent := by
  cases side with
  | real x =>
      show 0 ≤ if 0 < x then x else 0
      split_ifs with hpos
      · exact hpos.le
      · exact le_rfl
  | beyond d => exact le_rfl

theorem measurable_eq (side : Extended) : measurable side = real side.extent := by
  cases side with
  | real x => simp [measurable, extent, zero_eq, apply_ite real]
  | beyond d => simp [measurable, extent, zero_eq]

/-- The side of a container that a mode looks at. -/
noncomputable def SizingMode.extent (mode : SizingMode) (c : ContainerSize Extended) : ℝ :=
  match mode with
  | .fit => Min.min c.width.extent c.height.extent
  | .cover => Max.max c.width.extent c.height.extent

theorem SizingMode.extent_nonneg (mode : SizingMode) (c : ContainerSize Extended) :
    0 ≤ mode.extent c := by
  cases mode with
  | fit => exact le_min c.width.extent_nonneg c.height.extent_nonneg
  | cover => exact le_max_of_le_left c.width.extent_nonneg

/-- The base size: the extent of the container, or the fallback if it has none. -/
noncomputable def SizingMode.base (mode : SizingMode) (fallback : ℝ)
    (c : ContainerSize Extended) : ℝ :=
  if mode.extent c = 0 then fallback else mode.extent c

theorem SizingMode.baseSize_eq (mode : SizingMode) (fallback : ℝ) (c : ContainerSize Extended) :
    mode.baseSize (real fallback) c = real (mode.base fallback c) := by
  have hchoice (size : Extended) (hsize : size = real (mode.extent c)) :
      (if 0 < size then size else real fallback) = real (mode.base fallback c) := by
    simp only [hsize, zero_eq, base, real_lt_real]
    obtain hzero | hpos := (mode.extent_nonneg c).eq_or_lt
    · rw [if_neg hzero.not_lt, if_pos hzero.symm]
    · rw [if_pos hpos, if_neg hpos.ne']
  apply hchoice
  rw [measurable_eq, measurable_eq]
  cases mode with
  | fit => exact min_real _ _
  | cover => exact max_real _ _

theorem SizingMode.base_pos (mode : SizingMode) {fallback : ℝ} (h : 0 < fallback)
    (c : ContainerSize Extended) : 0 < mode.base fallback c := by
  unfold base
  split_ifs with hzero
  · exact h
  · exact (mode.extent_nonneg c).lt_of_ne' hzero

section sizes

variable (mode : SizingMode) (scale cap fallback : ℝ) (c : ContainerSize Extended)

theorem surfaceSize_eq :
    surfaceSize mode (real scale) (real cap) (real fallback) c =
      ⟨real (scale * mode.base fallback c), real (Min.min (scale * mode.base fallback c) cap)⟩ := by
  simp only [surfaceSize, mode.baseSize_eq, real_mul_real, min_real, mul_comm scale]

variable {scale cap fallback}

theorem display_pos (hscale : 0 < scale) (hfallback : 0 < fallback) :
    0 < scale * mode.base fallback c := mul_pos hscale (mode.base_pos hfallback c)

/-- A container with two sides that can be measured is not displayed larger when it has to fit. -/
theorem base_fit_le_cover {w h : ℝ} (hw : 0 < w) (hh : 0 < h) (fallback : ℝ) :
    SizingMode.fit.base fallback ⟨real w, real h⟩ ≤
      SizingMode.cover.base fallback ⟨real w, real h⟩ := by
  have hfit : SizingMode.fit.extent ⟨real w, real h⟩ = Min.min w h := by
    simp [SizingMode.extent, extent, hw, hh]
  have hcover : SizingMode.cover.extent ⟨real w, real h⟩ = Max.max w h := by
    simp [SizingMode.extent, extent, hw, hh]
  rw [SizingMode.base, SizingMode.base, hfit, hcover, if_neg (lt_min hw hh).ne',
    if_neg (lt_max_of_lt_left hw).ne']
  exact min_le_max

end sizes

namespace SurfaceSize

variable {display render : ℝ}

theorem scaleFactor_real (h : 0 < display) :
    scaleFactor ⟨real display, real render⟩ = real (render / display) := by
  have hpos : (0 : Extended) < real display := by rwa [zero_eq, real_lt_real]
  rw [scaleFactor, if_pos hpos, real_div_real render h.ne']

theorem beq_self_real : ((⟨real display, real render⟩ : SurfaceSize Extended) ==
    ⟨real display, real render⟩) = true := by
  show ((real display == real display) && (real render == real render)) = true
  simp

end SurfaceSize

/-- Observing a container again answers nothing and changes nothing but the timer. -/
theorem Sizer.observe_again {α : Type} [Scalar α] (s : Sizer α) {c : ContainerSize α}
    (hdefined : (s.target c == s.target c) = true) (now later : α) :
    let first := (s.observe c now).2
    first.observe c later = (none, { first with settleAt := some (later + first.settleDelay) }) := by
  by_cases hsame : (s.target c == s.size) = true
  · have hfirst : s.observe c now = (none, { s with settleAt := some (now + s.settleDelay) }) :=
      if_pos hsame
    rw [hfirst]
    exact if_pos hsame
  · have hfirst : s.observe c now =
        (some (s.target c),
          { s with
            settleAt := some (now + s.settleDelay)
            size := s.target c
            lastResize := now }) :=
      if_neg hsame
    rw [hfirst]
    exact if_pos hdefined

/-- **Sizes from any container.**  Take a scale, a cap and a fallback that are positive real numbers.
Whatever the sides of a container are, the displayed side is the scale times the extent that the mode
looks at, or times the fallback if there is none; the side of the buffer is positive, at most the cap
and at most the displayed side, and equal to the displayed side exactly if that is within the cap;
and the scale factor lies in `(0, 1]` and takes the displayed side to that of the buffer.  A container
with two positive finite sides is not shown larger, nor drawn larger, when it has to fit.  And a
container that is observed again, at any time and whatever the sizes were before, changes nothing but
the timer. -/
theorem sizes_from_any_container {scale cap fallback : ℝ} (hscale : 0 < scale) (hcap : 0 < cap)
    (hfallback : 0 < fallback) :
    let sizes (mode : SizingMode) (c : ContainerSize Extended) :=
      surfaceSize mode (real scale) (real cap) (real fallback) c
    (∀ mode c, ∃ display render factor : ℝ,
      sizes mode c = ⟨real display, real render⟩ ∧
        (sizes mode c).scaleFactor = real factor ∧
        display = scale * (if mode.extent c = 0 then fallback else mode.extent c) ∧
        0 < render ∧ render ≤ cap ∧ render ≤ display ∧ (render = display ↔ display ≤ cap) ∧
        0 < factor ∧ factor ≤ 1 ∧ factor * display = render) ∧
    (∀ w h : ℝ, 0 < w → 0 < h →
      (sizes .fit ⟨real w, real h⟩).display ≤ (sizes .cover ⟨real w, real h⟩).display ∧
      (sizes .fit ⟨real w, real h⟩).render ≤ (sizes .cover ⟨real w, real h⟩).render) ∧
    ∀ (s : Sizer Extended) (c : ContainerSize Extended) (now later : Extended),
      s.scale = real scale → s.cap = real cap → s.fallback = real fallback →
        let first := (s.observe c now).2
        first.observe c later =
          (none, { first with settleAt := some (later + first.settleDelay) }) := by
  intro sizes
  refine ⟨?_, ?_, ?_⟩
  · intro mode c
    have hdisplay := display_pos mode c hscale hfallback
    have hsize : sizes mode c = _ := surfaceSize_eq mode scale cap fallback c
    refine ⟨_, _, _, hsize, ?_, rfl, lt_min hdisplay hcap, min_le_right _ _, min_le_left _ _,
      min_eq_left_iff, ?_, ?_, div_mul_cancel₀ _ hdisplay.ne'⟩
    · rw [hsize]
      exact SurfaceSize.scaleFactor_real hdisplay
    · exact div_pos (lt_min hdisplay hcap) hdisplay
    · exact div_le_one_of_le₀ (min_le_left _ _) hdisplay.le
  · intro w h hw hh
    have hbase := mul_le_mul_of_nonneg_left (base_fit_le_cover hw hh fallback) hscale.le
    simp only [sizes, surfaceSize_eq, real_le_real]
    exact ⟨hbase, min_le_min_right cap hbase⟩
  · intro s c now later hs hc hf
    apply s.observe_again
    rw [Sizer.target, hs, hc, hf, surfaceSize_eq]
    exact SurfaceSize.beq_self_real

/-- A container that cannot be measured has the size of the fallback; one with a hidden side as well
if it has to fit, but not if it is covered. -/
theorem sizes_from_any_container_hidden :
    let sizes (mode : SizingMode) (c : ContainerSize Extended) :=
      surfaceSize mode (real 2) (real 1000) (real 300) c
    let unmeasured : ContainerSize Extended := ⟨undefined, infinity⟩
    let hidden : ContainerSize Extended := ⟨real 0, real 800⟩
    let s : Sizer Extended :=
      ⟨.fit, real 2, real 1000, real 300, real 0.15, ⟨undefined, undefined⟩, real 0, none⟩
    (0 : ℝ) < 2 ∧ (0 : ℝ) < 1000 ∧ (0 : ℝ) < 300 ∧
      sizes .fit unmeasured = ⟨real 600, real 600⟩ ∧ (sizes .fit unmeasured).scaleFactor = real 1 ∧
      sizes .fit hidden = ⟨real 600, real 600⟩ ∧
      (∃ render factor : ℝ, sizes .cover hidden = ⟨real 1600, real render⟩ ∧ render < 1600 ∧
        (sizes .cover hidden).scaleFactor = real factor ∧ factor * 1600 = render) ∧
      ((s.observe unmeasured (real 1)).2.observe unmeasured (real 2)).1 = none := by
  intro sizes unmeasured hidden s
  have hscale : (0 : ℝ) < 2 := by norm_num
  have hcap : (0 : ℝ) < 1000 := by norm_num
  have hfallback : (0 : ℝ) < 300 := by norm_num
  obtain ⟨hsizes, _, hagain⟩ := sizes_from_any_container hscale hcap hfallback
  have hnothing : SizingMode.fit.extent unmeasured = 0 := min_self 0
  have hfit : SizingMode.fit.extent hidden = 0 := by simp [SizingMode.extent, extent, hidden]
  have hcover : SizingMode.cover.extent hidden = 800 := by simp [SizingMode.extent, extent, hidden]
  have hsecond := hagain s unmeasured (real 1) (real 2) rfl rfl rfl
  have hsmall (c : ContainerSize Extended) (hc : SizingMode.fit.extent c = 0) :
      sizes .fit c = ⟨real 600, real 600⟩ ∧ (sizes .fit c).scaleFactor = real 1 := by
    obtain ⟨display, render, factor, hsize, hfactor, hdisplay, _, _, _, hiff, _, _, hback⟩ :=
      hsizes .fit c
    obtain rfl : display = 600 := by
      rw [hdisplay, if_pos hc]
      norm_num
    obtain rfl : render = 600 := hiff.mpr (by norm_num)
    obtain rfl : factor = 1 := by linarith
    exact ⟨hsize, hfactor⟩
  refine ⟨hscale, hcap, hfallback, (hsmall _ hnothing).1, (hsmall _ hnothing).2,
    (hsmall _ hfit).1, ?_, congrArg Prod.fst hsecond⟩
  obtain ⟨display, render, factor, hsize, hfactor, hdisplay, _, _, hle, hiff, _, _, hback⟩ :=
    hsizes .cover hidden
  obtain rfl : display = 1600 := by
    rw [hdisplay, hcover]
    norm_num
  have hcapped : render ≠ 1600 := fun heq => by linarith [hiff.mp heq]
  exact ⟨render, factor, hsize, hle.lt_of_ne hcapped, hfactor, hback⟩

end GlobeView
