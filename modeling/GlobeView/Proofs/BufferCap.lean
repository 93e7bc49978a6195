import GlobeView.Proofs.SizeAgreement
import GlobeView.Proofs.WholeDoubles

/-! # Whole pixels and the cap

The side of a surface is held below the cap of the configuration, and a buffer is allocated with as
many whole pixels as are nearest to that side, at least one.  The two do not commute: the side that
is nearest to the cap may lie above it.

A longer side has no fewer pixels (`SurfaceSize.Drawable.pixels_mono`), and the longest side that a
configuration gives is that of the largest container (`Config.render_le_largest`).  So the buffers
of a globe stay within the cap exactly if that one does, which it does if the cap is rounded down
(`Controller.bufferPixels_le_renderCap_iff`). -/

namespace GlobeView

open Double

/-! ### Pixels of a side -/

/-- A side that is finite and has no sign. -/
structure SurfaceSize.Drawable (size : SurfaceSize Float) : Prop where
  unsigned : Unsigned size.render
  finite : size.render.isFinite = true

/-- The length of a side as a number. -/
def SurfaceSize.side (size : SurfaceSize Float) : ℚ := value size.render

/-- Rounding goes up from a half on. -/
theorem floor_add_half_le_iff {x : ℚ} (h : 0 ≤ x) :
    (⌊x + 1 / 2⌋₊ : ℚ) ≤ x ↔ Int.fract x < 1 / 2 := by
  have hpos : 0 ≤ x + 1 / 2 := by positivity
  have hsplit : (⌊x⌋ : ℚ) + Int.fract x = x := Int.floor_add_fract x
  rw [natCast_floor_eq_intCast_floor hpos]
  constructor
  · intro hle
    by_contra hhalf
    have hup : ⌊x⌋ + 1 ≤ ⌊x + 1 / 2⌋ := Int.le_floor.mpr (by push_cast; linarith)
    have hcast : (⌊x⌋ : ℚ) + 1 ≤ ⌊x + 1 / 2⌋ := by exact_mod_cast hup
    linarith [Int.fract_lt_one x]
  · intro hhalf
    have hdown : ⌊x + 1 / 2⌋ ≤ ⌊x⌋ := Int.le_of_lt_add_one (Int.floor_lt.mpr (by
      push_cast
      linarith))
    have hcast : (⌊x + 1 / 2⌋ : ℚ) ≤ ⌊x⌋ := by exact_mod_cast hdown
    exact hcast.trans (Int.floor_le x)

namespace SurfaceSize.Drawable

variable {size size' : SurfaceSize Float}

theorem side_nonneg (h : size.Drawable) : 0 ≤ size.side := (h.unsigned.stands h.finite).value_nonneg

/-- A side in whole pixels: the nearest number of them, at least one, as far as a word of 32 bits
holds it. -/
theorem pixels (h : size.Drawable) :
    size.bufferPixels.toNat = min (max ⌊size.side + 1 / 2⌋₊ 1) 4294967295 := by
  have hside := h.unsigned.stands h.finite
  have hone : Stands (Scalar.ofNat 1 : Float) (1 * unit) := ⟨by decide +kernel, by decide +kernel⟩
  have hlonger := (hside.round h.unsigned).max hone
  rw [Nat.mul_max_mul_right] at hlonger
  have hpixels : size.bufferPixels =
      (Scalar.max (Double.round size.render) (Scalar.ofNat 1 : Float)).toUInt32 := rfl
  rw [hpixels, hlonger.toNat_toUInt32, Nat.mul_div_cancel _ unit_pos, side, hside.floor_value]

theorem pixels_mono (h : size.Drawable) (h' : size'.Drawable) (hle : size.side ≤ size'.side) :
    size.bufferPixels.toNat ≤ size'.bufferPixels.toNat := by
  have hfloor : ⌊size.side + 1 / 2⌋₊ ≤ ⌊size'.side + 1 / 2⌋₊ := by gcongr
  rw [h.pixels, h'.pixels]
  omega

theorem pixels_le_iff (h : size.Drawable) (limit : ℚ) :
    (size.bufferPixels.toNat : ℚ) ≤ limit ↔
      1 ≤ limit ∧ ((⌊size.side + 1 / 2⌋₊ : ℚ) ≤ limit ∨ 4294967295 ≤ limit) := by
  have hlong : 4294967295 ≤ limit → 1 ≤ limit := fun hle => le_trans (by norm_num) hle
  rw [h.pixels, Nat.cast_min, Nat.cast_max, Nat.cast_one, Nat.cast_ofNat, min_le_iff, max_le_iff]
  tauto

/-- The buffer is no longer than the side if the side is at least a pixel long and is rounded down.
A side beyond what a word holds has a shorter buffer anyway. -/
theorem pixels_le_side_iff (h : size.Drawable) :
    (size.bufferPixels.toNat : ℚ) ≤ size.side ↔
      1 ≤ size.side ∧ (Int.fract size.side < 1 / 2 ∨ 4294967295 ≤ size.side) := by
  rw [h.pixels_le_iff, floor_add_half_le_iff h.side_nonneg]

theorem pixels_le (h : size.Drawable) :
    (size.bufferPixels.toNat : ℚ) ≤ max 1 (size.side + 1 / 2) := by
  have hpos : 0 ≤ size.side + 1 / 2 := add_nonneg h.side_nonneg (by norm_num)
  calc (size.bufferPixels.toNat : ℚ)
      ≤ (max ⌊size.side + 1 / 2⌋₊ 1 : ℕ) := by
        rw [h.pixels]
        exact_mod_cast min_le_left _ _
    _ = max (⌊size.side + 1 / 2⌋₊ : ℚ) 1 := by rw [Nat.cast_max, Nat.cast_one]
    _ ≤ max (size.side + 1 / 2) 1 := by gcongr; exact Nat.floor_le hpos
    _ = max 1 (size.side + 1 / 2) := max_comm _ _

end SurfaceSize.Drawable

/-! ### The sizes of a configuration -/

/-- As large as doubles go. -/
def ContainerSize.largest : ContainerSize Float := ⟨greatest, greatest⟩

theorem isFinite_measurable (side : Float) : (measurable side).isFinite = true := by
  unfold measurable
  split_ifs with hmeasured
  · exact (Bool.and_eq_true _ _ ▸ hmeasured).1
  · decide +kernel

theorem SizingMode.isFinite_baseSize (mode : SizingMode) {fallback : Float}
    (h : fallback.isFinite = true) (container : ContainerSize Float) :
    (mode.baseSize fallback container).isFinite = true := by
  have hwidth := isFinite_measurable container.width
  have hheight := isFinite_measurable container.height
  unfold baseSize
  dsimp only
  split_ifs
  · cases mode with
    | fit => exact isFinite_min hwidth hheight
    | cover => exact isFinite_max hwidth hheight
  · exact h

theorem SizingMode.baseSize_square (mode : SizingMode) (fallback : Float) {side : Float}
    (hfinite : side.isFinite = true) (hpos : 0 < side) :
    mode.baseSize fallback ⟨side, side⟩ = side := by
  have hside : measurable side = side := if_pos (by
    rw [Bool.and_eq_true, decide_eq_true_eq]
    exact ⟨hfinite, hpos⟩)
  have hsame : Scalar.min side side = side ∧ Scalar.max side side = side := by
    unfold Scalar.min Scalar.max
    constructor <;> split_ifs <;> rfl
  unfold baseSize
  rw [hside]
  cases mode with
  | fit => simp only [hsame.1, if_pos hpos]
  | cover => simp only [hsame.2, if_pos hpos]

namespace Config

variable {cfg : Config Float}

theorem position_render (hcfg : cfg.check = .ok ()) (container : ContainerSize Float) :
    position (cfg.sizeFor container).render =
      min (position (cfg.sizeFor container).display) (position cfg.renderCap) :=
  position_min (defined_sizeFor hcfg container).1 (.of_pos (sizeFor_factors hcfg container).2.2)

theorem drawable_sizeFor (hcfg : cfg.check = .ok ()) (container : ContainerSize Float) :
    (cfg.sizeFor container).Drawable where
  unsigned := (unsigned_sizeFor hcfg container).2
  finite := by
    have hcap : 0 < cfg.renderCap ∧ cfg.renderCap.isFinite = true :=
      positive_of_check hcfg "render_cap" (by simp [ranges])
    have hle : position (cfg.sizeFor container).render ≤ position cfg.renderCap := by
      rw [position_render hcfg]
      exact min_le_right _ _
    exact (unsigned_sizeFor hcfg container).2.isFinite_of_le (defined_sizeFor hcfg container).2
      ((Unsigned.of_pos hcap.1).stands hcap.2) hle

theorem render_le_renderCap (hcfg : cfg.check = .ok ()) (container : ContainerSize Float) :
    (cfg.sizeFor container).side ≤ value cfg.renderCap := by
  rw [SurfaceSize.side, value_le_iff, position_render hcfg]
  exact min_le_right _ _

theorem render_le_largest (hcfg : cfg.check = .ok ()) (container : ContainerSize Float) :
    (cfg.sizeFor container).side ≤ (cfg.sizeFor .largest).side := by
  have hfallback : cfg.fallbackSize.isFinite = true :=
    (positive_of_check hcfg "fallback_size" (by simp [ranges])).2
  have hscale : 0 < cfg.scale := pos_of_check hcfg "scale" (by simp [ranges])
  have hnonneg : 0 ≤ position cfg.scale :=
    (Unsigned.of_pos hscale).position_eq ▸ Int.natCast_nonneg _
  have hbase : position (cfg.sizingMode.baseSize cfg.fallbackSize container) ≤
      position (cfg.sizingMode.baseSize cfg.fallbackSize .largest) := by
    rw [ContainerSize.largest, SizingMode.baseSize_square _ _ stands_greatest.finite
      (by decide +kernel)]
    exact position_le_greatest (cfg.sizingMode.isFinite_baseSize hfallback container)
  rw [SurfaceSize.side, SurfaceSize.side, value_le_iff, position_render hcfg, position_render hcfg]
  exact min_le_min_right _ (position_mul_mono hbase hnonneg)

end Config

/-! ### Runs -/

namespace Controller

variable {σ : Type} [PhaseSource σ Float] {cfg : Config Float}

theorem surfaceSize_resize (hcfg : cfg.check = .ok ()) (source : σ)
    (container : ContainerSize Float) (now : Float) :
    ((create cfg source).run [.resize container now]).surfaceSize = cfg.sizeFor container := by
  have hexact := Config.sizesExact_of_check hcfg
  show ((create cfg source).resize container now).2.surfaceSize = _
  rw [resize_eq]
  exact ((Sizer.measured_ofConfig cfg).observe hexact container now).1.size

/-- **Buffers and the cap.**  Take an accepted configuration.  The drawing buffers of a globe stay
within its cap in all runs exactly if the cap is at least one pixel, and either the longest side
that the configuration gives is not rounded beyond the cap or the cap is as long as the longest
buffer.  A cap that is rounded down to whole pixels is enough for that; where the longest side
reaches the cap, no other is.  In no run is a buffer of more than one pixel longer than the cap by
more than half a pixel. -/
theorem bufferPixels_le_renderCap_iff (hcfg : cfg.check = .ok ()) (source : σ) :
    let pixels (actions : List (Action Float)) :=
      (((create cfg source).run actions).surfaceSize.bufferPixels.toNat : ℚ)
    let cap := value cfg.renderCap
    let longest := (cfg.sizeFor .largest).side
    ((∀ actions, pixels actions ≤ cap) ↔
      1 ≤ cap ∧ ((⌊longest + 1 / 2⌋₊ : ℚ) ≤ cap ∨ 4294967295 ≤ cap)) ∧
    (Int.fract cap < 1 / 2 → (⌊longest + 1 / 2⌋₊ : ℚ) ≤ cap) ∧
    (longest = cap → (⌊longest + 1 / 2⌋₊ : ℚ) ≤ cap → Int.fract cap < 1 / 2) ∧
    ∀ actions, pixels actions ≤ max 1 (cap + 1 / 2) := by
  intro pixels cap longest
  have hlongest : longest ≤ cap := Config.render_le_renderCap hcfg .largest
  have hnonneg : 0 ≤ longest := (Config.drawable_sizeFor hcfg .largest).side_nonneg
  have hle (actions : List (Action Float)) :
      pixels actions ≤ (cfg.sizeFor .largest).bufferPixels.toNat := by
    obtain ⟨container, hmeasured⟩ :=
      measured_run (Config.sizesExact_of_check hcfg) source actions
    have hsize : ((create cfg source).run actions).surfaceSize = cfg.sizeFor container :=
      hmeasured.size
    simp only [pixels, hsize]
    exact_mod_cast (Config.drawable_sizeFor hcfg container).pixels_mono
      (Config.drawable_sizeFor hcfg .largest) (Config.render_le_largest hcfg container)
  have hreached : pixels [.resize .largest 0] = (cfg.sizeFor .largest).bufferPixels.toNat := by
    simp only [pixels, surfaceSize_resize hcfg]
  refine ⟨?_, ?_, ?_, ?_⟩
  · rw [← (Config.drawable_sizeFor hcfg .largest).pixels_le_iff]
    exact ⟨fun h => hreached ▸ h [.resize .largest 0], fun h actions => (hle actions).trans h⟩
  · intro hdown
    have hfloor : (⌊longest + 1 / 2⌋₊ : ℚ) ≤ ⌊cap + 1 / 2⌋₊ := by gcongr
    exact hfloor.trans ((floor_add_half_le_iff (hnonneg.trans hlongest)).mpr hdown)
  · intro heq hkept
    rw [← heq] at hkept ⊢
    exact (floor_add_half_le_iff hnonneg).mp hkept
  · intro actions
    have hmost := (Config.drawable_sizeFor hcfg .largest).pixels_le
    exact (hle actions).trans (hmost.trans (by gcongr))

/-- The default cap is a whole number of pixels and is kept; one half a pixel above it is not. -/
theorem bufferPixels_le_renderCap_iff_thousand :
    let cfg : Config Float := { Config.default with renderCap := 1000.5 }
    let pixels (cfg : Config Float) (actions : List (Action Float)) :=
      (((create cfg Unseeded.mk).run actions).surfaceSize.bufferPixels.toNat : ℚ)
    (Config.default : Config Float).check = .ok () ∧ cfg.check = .ok () ∧
      (∀ actions, pixels .default actions ≤ 1000) ∧ ∃ actions, 1000.5 < pixels cfg actions := by
  intro cfg pixels
  have hdefault : (Config.default : Config Float).check = .ok () := by decide +kernel
  have hcfg : cfg.check = .ok () := by decide +kernel
  refine ⟨hdefault, hcfg, ?_, ?_⟩
  · have hstands : Stands (Config.default : Config Float).renderCap (1000 * unit) :=
      ⟨by decide +kernel, by decide +kernel⟩
    have hcap : value (Config.default : Config Float).renderCap = 1000 := hstands.value_whole
    obtain ⟨hkept, hdown, -⟩ := bufferPixels_le_renderCap_iff hdefault Unseeded.mk
    rw [hcap] at hkept hdown
    exact hkept.mpr ⟨by norm_num, .inl (hdown (by norm_num))⟩
  · have hstands : Stands cfg.renderCap (2001 * (unit / 2)) :=
      ⟨by decide +kernel, by decide +kernel⟩
    have hlargest : (cfg.sizeFor .largest).render = cfg.renderCap := by decide +kernel
    have hcap : value cfg.renderCap = 2001 / 2 := hstands.value_halves
    have hlongest : (cfg.sizeFor .largest).side = 2001 / 2 := by
      rw [SurfaceSize.side, hlargest, hcap]
    have hkept := (bufferPixels_le_renderCap_iff hcfg Unseeded.mk).1.mp
    rw [hcap, hlongest] at hkept
    by_contra! hall
    obtain ⟨-, hfloor | hlong⟩ := hkept fun actions => (hall actions).trans (by norm_num)
    · norm_num at hfloor
    · norm_num at hlong

/-- A large container has a buffer with more pixels than such a cap. -/
theorem bufferPixels_exceeds_cap :
    let cfg : Config Float := { Config.default with renderCap := 1000.5 }
    let c := (create cfg Unseeded.mk).run [.resize ⟨2000, 2000⟩ 0]
    cfg.check = .ok () ∧ cfg.renderCap < Scalar.ofNat c.surfaceSize.bufferPixels.toNat := by
  decide +kernel

end Controller
end GlobeView
