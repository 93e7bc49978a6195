import GlobeView.Proofs.ExactNumbers
import GlobeView.Proofs.PointerOnMarker

/-! # What is drawn can be picked

The sphere shows a marker where its view projects it, in a drawing buffer that may be smaller than
the square on the display.  The pointer is on the display: it is scaled into the buffer before the
search, and the place of a hit is scaled back out.  Over the real numbers the two undo each other
(`Vec2.scale_back`), so that a pointer at the displayed place of a marker has no distance to it.

* A marker that can be hit and has a positive hit radius is taken by the search where it appears
  (`Marker.isSome_hitPoint?_at`).
* The first marker that the search takes is not behind any that it takes (`PicksFirst.exists_le`).
* A marker that was hit from anywhere has a positive hit radius, because no distance is negative
  (`Marker.radius_pos_of_hitPoint?`).

So what a frame shows can be picked where it shows it, and a hit can be picked again at the place
that it names (`Controller.drawn_can_be_picked`). -/

namespace GlobeView

open Scalar

theorem Vec2.scale_back (a : Vec2 ℝ) {s : ℝ} (hs : s ≠ 0) : (a.scale (1 / s)).scale s = a := by
  rw [scale_scale, one_div_mul_cancel hs]
  simp [scale]

/-! ### The search at the place of a marker -/

section search

variable {α : Type}

/-- The first marker with a property does not stand behind any other that has it. -/
theorem PicksFirst.exists_le {P : Marker α → Prop} {markers : List (Marker α)}
    {answer : Option (MarkerHit α)} (h : PicksFirst P markers answer) {i : ℕ} {m : Marker α}
    (hm : markers[i]? = some m) (hP : P m) : ∃ hit, answer = some hit ∧ hit.index ≤ i := by
  cases answer with
  | none => exact absurd hP (h m (List.mem_of_getElem? hm))
  | some hit =>
      obtain ⟨_, _, hfirst⟩ := h
      refine ⟨hit, rfl, ?_⟩
      by_contra hbehind
      exact hfirst i (not_le.mp hbehind) m hm hP

variable [Scalar α] {view : View α} {scale : α} {o : HitOptions α} {pointer : Vec2 α}

theorem Marker.eq_point_of_hitPoint? {m : Marker α} {p : Vec2 α}
    (h : m.hitPoint? view scale o pointer = some p) : p = (view.project m.location).point := by
  simp only [hitPoint?] at h
  split at h
  · exact (Option.some.inj h).symm
  · cases h

end search

section exact

variable {view : View ℝ} {scale : ℝ} {o : HitOptions ℝ}

/-- A marker that can be hit at all is taken at the place where it appears. -/
theorem Marker.isSome_hitPoint?_at {m : Marker ℝ} (hshown : m.IsShown view)
    (hradius : 0 < o.radius m.size scale) :
    (m.hitPoint? view scale o (view.project m.location).point).isSome = true := by
  rw [isSome_hitPoint?, Vec2.distance_self]
  exact ⟨hshown, not_le.mpr hradius⟩

theorem Marker.radius_pos_of_hitPoint? {m : Marker ℝ} {pointer : Vec2 ℝ}
    (h : (m.hitPoint? view scale o pointer).isSome = true) : 0 < o.radius m.size scale := by
  rw [isSome_hitPoint?] at h
  exact (Vec2.distance_nonneg _ _).trans_lt (not_le.mp h.2)

variable {markers : List (Marker ℝ)} {pointer : Vec2 ℝ} {phi theta : ℝ} {size : SurfaceSize ℝ}

/-- A pointer at the displayed place of a marker picks it, or one that stands in front of it in the
list. -/
theorem exists_hitTest_at (hscale : 0 < size.scaleFactor) {i : ℕ} {m : Marker ℝ}
    (hm : markers[i]? = some m) (hshown : m.IsShown ⟨phi, theta, size.render⟩)
    (hradius : 0 < o.radius m.size size.scaleFactor) :
    let place := (View.project ⟨phi, theta, size.render⟩ m.location).point
    ∃ hit, hitTest markers (place.scale (1 / size.scaleFactor)) phi theta size o = some hit ∧
      hit.index ≤ i := by
  intro place
  have hback : (place.scale (1 / size.scaleFactor)).scale size.scaleFactor = place :=
    place.scale_back hscale.ne'
  rw [hitTest_of_scale rfl (by simpa using hscale), hback]
  exact (picksFirst_firstHit? _ _ _ _ markers).exists_le hm (m.isSome_hitPoint?_at hshown hradius)

theorem hitTest_shown {hit : MarkerHit ℝ}
    (h : hitTest markers pointer phi theta size o = some hit) :
    let view : View ℝ := ⟨phi, theta, size.render⟩
    0 < size.scaleFactor ∧ markers[hit.index]? = some hit.marker ∧ hit.marker.IsShown view ∧
      0 < o.radius hit.marker.size size.scaleFactor ∧
      hit.position = (view.project hit.marker.location).point.scale (1 / size.scaleFactor) := by
  intro view
  have hscale : 0 < size.scaleFactor := by
    by_contra hnot
    have hnone : hitTest markers pointer phi theta size o = none := by
      rw [hitTest, if_neg (by simpa using hnot)]
    rw [hnone] at h
    cases h
  rw [hitTest_of_scale rfl (by simpa using hscale)] at h
  obtain ⟨place, p, hindex, hplace, hp, hposition⟩ := firstHit?_eq_some h
  rw [Nat.zero_add] at hindex
  have htaken : (hit.marker.hitPoint? view size.scaleFactor o
      (pointer.scale size.scaleFactor)).isSome = true := by
    rw [hp]
    rfl
  rw [Marker.eq_point_of_hitPoint? hp, Exact.one_eq] at hposition
  exact ⟨hscale, hindex ▸ hplace, (hit.marker.isSome_hitPoint? _ _ _ _).mp htaken |>.1,
    Marker.radius_pos_of_hitPoint? htaken, hposition⟩

end exact

/-! ### Frames -/

section frames

variable {σ α : Type} [Scalar α] [PhaseSource σ α]

theorem Phases.location_animateFrom (elapsed : α) (index : ℕ) (markers : List (Marker α))
    (p : Phases σ α) :
    (p.animateFrom elapsed index markers).1.map (·.location) = markers.map (·.location) := by
  induction markers generalizing index p with
  | nil => rfl
  | cons m rest ih =>
      rw [animateFrom, List.map_cons, List.map_cons]
      exact congrArg (m.location :: ·) (ih (index + 1) _)

theorem Controller.exists_drawn (frame : Frame α) (c : Controller σ α) {i : ℕ} {m : Marker α}
    (hm : c.scene.markers[i]? = some m) :
    ∃ drawn, (c.tick frame).1.sphere.markers[i]? = some drawn ∧ drawn.location = m.location := by
  have hlocations : (c.tick frame).1.sphere.markers.map (·.location) =
      c.scene.markers.map (·.location) :=
    Phases.location_animateFrom _ 0 c.scene.markers c.phases
  have hplace := congrArg (·[i]?) hlocations
  simp only [List.getElem?_map, hm, Option.map_some, Option.map_eq_some_iff] at hplace
  exact hplace

end frames

namespace Controller

variable {σ : Type} [PhaseSource σ ℝ]

/-- **What is drawn can be picked.**  Take any globe after a tick, with a size whose sides are
positive.  A marker with a tooltip and a positive hit radius is drawn at its place of the list, and
if the view of the drawn sphere projects it to the near side, then a pointer at that point, brought
from the buffer to the display, picks it or a marker in front of it in the list.  And whatever is
picked, by a globe in any state or from any list on any surface, is picked again at the place of the
hit, or a marker in front of it is. -/
theorem drawn_can_be_picked (frame : Frame ℝ) (c : Controller σ ℝ) :
    let sphere := (c.tick frame).1.sphere
    let after := (c.tick frame).2
    let scale := after.surfaceSize.scaleFactor
    (0 < after.surfaceSize.display → 0 < after.surfaceSize.render →
      ∀ i m, after.scene.markers[i]? = some m → m.tooltip.isSome = true →
        0 < after.hitOptions.radius m.size scale →
        ∃ drawn, sphere.markers[i]? = some drawn ∧ drawn.location = m.location ∧
          let p := View.project ⟨sphere.phi, sphere.theta, sphere.width⟩ drawn.location
          (0 < p.z → ∃ hit,
            after.hitTest ⟨p.x / scale, p.y / scale⟩ = some hit ∧ hit.index ≤ i)) ∧
    (∀ (c : Controller σ ℝ) (position : Vec2 ℝ) (hit : MarkerHit ℝ),
      c.hitTest position = some hit →
        ∃ again, c.hitTest hit.position = some again ∧ again.index ≤ hit.index) ∧
    ∀ (markers : List (Marker ℝ)) (pointer : Vec2 ℝ) (phi theta : ℝ) (size : SurfaceSize ℝ)
      (o : HitOptions ℝ) (hit : MarkerHit ℝ),
      GlobeView.hitTest markers pointer phi theta size o = some hit →
        ∃ again, GlobeView.hitTest markers hit.position phi theta size o = some again ∧
          again.index ≤ hit.index := by
  intro sphere after scale
  have hagain (markers : List (Marker ℝ)) (pointer : Vec2 ℝ) (phi theta : ℝ)
      (size : SurfaceSize ℝ) (o : HitOptions ℝ) (hit : MarkerHit ℝ)
      (h : GlobeView.hitTest markers pointer phi theta size o = some hit) :
      ∃ again, GlobeView.hitTest markers hit.position phi theta size o = some again ∧
        again.index ≤ hit.index := by
    obtain ⟨hscale, hplace, hshown, hradius, hposition⟩ := hitTest_shown h
    rw [hposition]
    exact exists_hitTest_at hscale hplace hshown hradius
  refine ⟨?_, fun c position hit => hagain _ _ _ _ _ _ hit, hagain⟩
  intro hdisplay hrender i m hm htooltip hradius
  obtain ⟨drawn, hdrawn, hlocation⟩ := c.exists_drawn frame hm
  refine ⟨drawn, hdrawn, hlocation, ?_⟩
  rw [hlocation]
  intro p hfront
  -- the frame is drawn with the rotation and the size that the pointer is looked up with
  have hdepth :
      0 < (View.project ⟨sphere.phi, sphere.theta, after.surfaceSize.render⟩ m.location).z := hfront
  have hshown : m.IsShown ⟨sphere.phi, sphere.theta, after.surfaceSize.render⟩ :=
    ⟨htooltip, by simpa [Projected.isFront] using hdepth⟩
  have hscale : 0 < scale := by
    rw [show scale = _ from SurfaceSize.scaleFactor_eq hdisplay]
    exact div_pos hrender hdisplay
  have hpoint : p.point.scale (1 / scale) = ⟨p.x / scale, p.y / scale⟩ := by
    simp [Vec2.scale, Projected.point, div_eq_mul_inv]
  rw [← hpoint]
  exact exists_hitTest_at hscale hm hshown hradius

/-- A globe that has begun to turn is drawn in a third of its displayed size; the marker in front of
the one under the pointer has no tooltip. -/
theorem drawn_can_be_picked_behind_plain :
    let cfg : Config ℝ := { Config.default with theta := 0, renderCap := 100 }
    let plain : Marker ℝ := ⟨⟨0, 0⟩, 0.05, none, false⟩
    let here : Marker ℝ := ⟨⟨0, 0⟩, 0.05, some "here", false⟩
    let c := (create cfg Unseeded.mk).setMarkers [plain, here]
    let sphere := (c.tick ⟨0, 0, 0⟩).1.sphere
    let after := (c.tick ⟨0, 0, 0⟩).2
    let scale := after.surfaceSize.scaleFactor
    let p := View.project ⟨sphere.phi, sphere.theta, sphere.width⟩ here.location
    after.surfaceSize = ⟨300, 100⟩ ∧ after.scene.markers[1]? = some here ∧
      here.tooltip.isSome = true ∧ 0 < after.hitOptions.radius here.size scale ∧ 0 < p.z ∧
      ∃ hit, after.hitTest ⟨p.x / scale, p.y / scale⟩ = some hit ∧ hit.index ≤ 1 ∧
        ∃ again, after.hitTest hit.position = some again ∧ again.index ≤ hit.index := by
  intro cfg plain here c sphere after scale p
  obtain ⟨hdrawn, hagain, _⟩ := drawn_can_be_picked ⟨0, 0, 0⟩ c
  have hsize : after.surfaceSize = ⟨300, 100⟩ := by
    show GlobeView.surfaceSize .fit cfg.scale cfg.renderCap cfg.fallbackSize ⟨_, _⟩ = _
    simp only [cfg, Config.default, GlobeView.surfaceSize, SizingMode.baseSize, measurable,
      Exact.min_eq, Exact.isFinite_eq, Exact.numeral]
    norm_num
  have hscale : scale = 1 / 3 := by
    rw [show scale = _ from congrArg SurfaceSize.scaleFactor hsize,
      SurfaceSize.scaleFactor_eq (by norm_num)]
    norm_num
  have hradius : 0 < after.hitOptions.radius here.size scale := by
    show 0 < HitOptions.radius ⟨cfg.minHitRadius, cfg.hitSizeFactor⟩ 0.05 scale
    simp only [HitOptions.radius, cfg, Config.default, Exact.max_eq, Exact.numeral, hscale]
    norm_num
  have hphi : sphere.phi = 0.003 := by
    have hstart : (Rotation.atRest cfg.initialPhi cfg.theta).velocity = 0 := Exact.zero_eq
    have hcoast : (Spin.ofConfig cfg).coast 0 = 0.003 := by
      norm_num [Spin.coast, Spin.ofConfig, cfg, Config.default, Scalar.abs]
    show cfg.initialPhi + (Spin.ofConfig cfg).coast
      (Rotation.atRest cfg.initialPhi cfg.theta).velocity = 0.003
    rw [hstart, hcoast, show cfg.initialPhi = 0 from Exact.zero_eq, zero_add]
  have hfront : 0 < p.z := by
    have hdepth : p.z = Real.cos 0.003 := by
      show (View.project ⟨sphere.phi, 0, sphere.width⟩ ⟨0, 0⟩).z = _
      rw [hphi, View.depth_center]
    rw [hdepth]
    exact Real.cos_pos_of_mem_Ioo ⟨by linarith [Real.pi_gt_three], by linarith [Real.pi_gt_three]⟩
  obtain ⟨drawn, _, hlocation, hpicked⟩ :=
    hdrawn (hsize ▸ by norm_num) (hsize ▸ by norm_num) 1 here rfl rfl hradius
  rw [hlocation] at hpicked
  obtain ⟨hit, hhit, hle⟩ := hpicked hfront
  exact ⟨hsize, rfl, rfl, hradius, hfront, hit, hhit, hle, hagain after _ hit hhit⟩

end Controller
end GlobeView
