import GlobeView.Proofs.UndefinedNumbers
import GlobeView.Proofs.Picking
import GlobeView.Proofs.Sizes

/-! # When the pointer is on a marker

The pointer is on a marker that can be hit at all (`Marker.IsShown`) and whose distance is a number
below its hit radius (`Marker.IsUnder`).  The search passes a marker over when its distance is at
least the hit radius, which is not quite the opposite.

* A pointer with two defined coordinates has a distance to every marker that faces the viewer, and
  the search finds the first marker that it is on.
* A pointer with an undefined coordinate is on nothing.  It has no distance to any marker, so that
  none is passed over for its distance: the search finds the first marker that can be hit at all,
  wherever that is.

So the search is right about the pointer exactly if its coordinates are defined or nothing can be
hit (`picks_isUnder_iff`). -/

namespace GlobeView

open Scalar

section pick

variable {α : Type}

/-- The answer is the first marker of a list that has a property, if there is one. -/
def PicksFirst (P : Marker α → Prop) (markers : List (Marker α)) :
    Option (MarkerHit α) → Prop
  | some hit => markers[hit.index]? = some hit.marker ∧ P hit.marker ∧
      ∀ i < hit.index, ∀ m, markers[i]? = some m → ¬ P m
  | none => ∀ m ∈ markers, ¬ P m

theorem PicksFirst.congr {P Q : Marker α → Prop} {markers : List (Marker α)}
    {answer : Option (MarkerHit α)} (h : PicksFirst P markers answer)
    (hiff : ∀ m ∈ markers, P m ↔ Q m) : PicksFirst Q markers answer := by
  cases answer with
  | none => exact fun m hm hq => h m hm ((hiff m hm).mpr hq)
  | some hit =>
      obtain ⟨hplace, hp, hfirst⟩ := h
      refine ⟨hplace, (hiff _ (List.mem_of_getElem? hplace)).mp hp, ?_⟩
      intro i hi m hm hq
      exact hfirst i hi m hm ((hiff m (List.mem_of_getElem? hm)).mpr hq)

theorem PicksFirst.none_of_forall_not {P Q : Marker α → Prop} {markers : List (Marker α)}
    {answer : Option (MarkerHit α)} (hp : PicksFirst P markers answer)
    (hq : PicksFirst Q markers answer) (hnone : ∀ m, ¬ Q m) : ∀ m ∈ markers, ¬ P m := by
  cases answer with
  | none => exact hp
  | some hit => exact absurd hq.2.1 (hnone _)

variable [Scalar α] (view : View α) (scale : α) (o : HitOptions α) (pointer : Vec2 α)

/-- A marker can be hit: it carries a tooltip and faces the viewer. -/
def Marker.IsShown (m : Marker α) : Prop :=
  m.tooltip.isSome = true ∧ (view.project m.location).isFront = true

/-- The pointer is on a marker: its distance is a number, and less than the hit radius. -/
structure Marker.IsUnder (m : Marker α) : Prop where
  shown : m.IsShown view
  measured : isFinite (pointer.distance (view.project m.location).point) = true
  near : pointer.distance (view.project m.location).point < o.radius m.size scale

/-- What the search takes: a marker that can be hit and is not passed over for its distance. -/
theorem Marker.isSome_hitPoint? (m : Marker α) :
    (m.hitPoint? view scale o pointer).isSome = true ↔
      m.IsShown view ∧
        ¬ o.radius m.size scale ≤ pointer.distance (view.project m.location).point := by
  simp only [hitPoint?]
  split
  · next h => simpa [IsShown] using h
  · next h => simpa [IsShown] using h

theorem firstHit?_eq_none (index : ℕ) {markers : List (Marker α)}
    (h : firstHit? view scale o pointer index markers = none) :
    ∀ m ∈ markers, m.hitPoint? view scale o pointer = none := by
  induction markers generalizing index with
  | nil => exact fun m hm => absurd hm List.not_mem_nil
  | cons m rest ih =>
      unfold firstHit? at h
      split at h
      · cases h
      · next hnone => exact List.forall_mem_cons.mpr ⟨hnone, ih (index + 1) h⟩

theorem firstHit?_first {index : ℕ} {markers : List (Marker α)} {hit : MarkerHit α}
    (h : firstHit? view scale o pointer index markers = some hit) {i : ℕ}
    (hi : index + i < hit.index) {m : Marker α} (hm : markers[i]? = some m) :
    m.hitPoint? view scale o pointer = none := by
  induction markers generalizing index i with
  | nil => cases h
  | cons m' rest ih =>
      unfold firstHit? at h
      split at h
      · obtain rfl := Option.some.inj h
        simp at hi
      · next hnone =>
        cases i with
        | zero =>
            obtain rfl := Option.some.inj hm
            exact hnone
        | succ i => exact ih h (by omega) hm

theorem picksFirst_firstHit? (markers : List (Marker α)) :
    PicksFirst (fun m => (m.hitPoint? view scale o pointer).isSome = true) markers
      (firstHit? view scale o pointer 0 markers) := by
  cases h : firstHit? view scale o pointer 0 markers with
  | none =>
      intro m hm
      simp [firstHit?_eq_none view scale o pointer 0 h m hm]
  | some hit =>
      obtain ⟨place, p, hindex, hplace, hp, _⟩ := firstHit?_eq_some h
      rw [Nat.zero_add] at hindex
      refine ⟨hindex ▸ hplace, by simp [hp], ?_⟩
      intro i hi m hm
      simp [firstHit?_first view scale o pointer h (by omega) hm]

end pick

/-! ### Distances that are defined -/

/-- A depth is defined if both coordinates of the location are, and both angles of the view. -/
theorem View.isFinite_depth (view : View Number) (location : LatLon Number) :
    isFinite (view.project location).z =
      (isFinite location.lat && isFinite location.lon && isFinite view.phi &&
        isFinite view.theta) := by
  simp only [project, LatLon.onSphere, LatLon.latRadians, LatLon.lonRadians, Vec3.rotateX,
    Number.isFinite_add, Number.isFinite_mul, Number.isFinite_sin, Number.isFinite_cos,
    Number.isFinite_radians]
  cases isFinite location.lat <;> cases isFinite location.lon <;> cases isFinite view.phi <;>
    cases isFinite view.theta <;> rfl

theorem View.isFinite_project_of_depth {view : View Number} {location : LatLon Number}
    (h : isFinite (view.project location).z = true) :
    isFinite (view.project location).x = isFinite view.width ∧
      isFinite (view.project location).y = isFinite view.width := by
  simp only [isFinite_depth, Bool.and_eq_true] at h
  obtain ⟨⟨⟨hlat, hlon⟩, hphi⟩, htheta⟩ := h
  simp [project, LatLon.onSphere, LatLon.latRadians, LatLon.lonRadians, Vec3.rotateX, hlat, hlon,
    hphi, htheta]

/-- The place where a marker appears is as defined as the drawing square, if it faces the viewer. -/
theorem View.isFinite_project {view : View Number} {location : LatLon Number}
    (h : (view.project location).isFront = true) :
    isFinite (view.project location).x = isFinite view.width ∧
      isFinite (view.project location).y = isFinite view.width :=
  isFinite_project_of_depth (Number.isFinite_of_lt (of_decide_eq_true h)).2

theorem Vec2.isFinite_distance {view : View Number} {location : LatLon Number}
    (h : (view.project location).isFront = true) (pointer : Vec2 Number) :
    isFinite (pointer.distance (view.project location).point) = true ↔
      (isFinite pointer.x = true ∧ isFinite pointer.y = true) ∧ isFinite view.width = true := by
  obtain ⟨hx, hy⟩ := View.isFinite_project h
  show isFinite (hypot (pointer.x - (view.project location).x)
    (pointer.y - (view.project location).y)) = true ↔ _
  simp only [Number.isFinite_hypot, Number.isFinite_sub, hx, hy, Bool.and_eq_true]
  tauto

/-- The hit radii of an accepted configuration are defined at every defined scale, also for markers
of an undefined size. -/
theorem HitOptions.isFinite_radius {cfg : Config Number} (hcfg : cfg.check = .ok ()) (size : Number)
    {scale : Number} (hscale : isFinite scale = true) :
    isFinite ((HitOptions.ofConfig cfg).radius size scale) = true := by
  have hrange : ("min_hit_radius_px", .nonNegative, cfg.minHitRadius) ∈ cfg.ranges := by
    simp [Config.ranges]
  have hmin := Config.holds_of_check hcfg hrange
  simp only [Expected.holds, Bool.and_eq_true] at hmin
  simp [radius, ofConfig, Number.isFinite_max, hmin.2, hscale]

/-- Both coordinates are numbers. -/
def Vec2.IsDefined (p : Vec2 Number) : Prop := isFinite p.x = true ∧ isFinite p.y = true

theorem Vec2.isDefined_scale {s : Number} (hs : isFinite s = true) (p : Vec2 Number) :
    (p.scale s).IsDefined ↔ p.IsDefined := by
  simp [IsDefined, scale, hs]

/-! ### What is picked -/

section taken

variable {cfg : Config Number} (hcfg : cfg.check = .ok ()) {view : View Number} {scale : Number}
  (hscale : isFinite scale = true) {pointer : Vec2 Number} (m : Marker Number)

include hcfg hscale in
theorem Marker.isSome_hitPoint?_of_defined
    (hdefined : pointer.IsDefined ∧ isFinite view.width = true) :
    (m.hitPoint? view scale (.ofConfig cfg) pointer).isSome = true ↔
      m.IsUnder view scale (.ofConfig cfg) pointer := by
  rw [isSome_hitPoint?]
  constructor
  · rintro ⟨hshown, hnear⟩
    have hmeasured := (Vec2.isFinite_distance hshown.2 pointer).mpr hdefined
    have hradius := HitOptions.isFinite_radius hcfg m.size hscale
    exact ⟨hshown, hmeasured, (Number.not_le_iff_lt hmeasured hradius).mp hnear⟩
  · intro h
    have hradius := HitOptions.isFinite_radius hcfg m.size hscale
    exact ⟨h.shown, (Number.not_le_iff_lt h.measured hradius).mpr h.near⟩

theorem Marker.not_isUnder_of_undefined {o : HitOptions Number}
    (hundefined : ¬ (pointer.IsDefined ∧ isFinite view.width = true)) :
    ¬ m.IsUnder view scale o pointer :=
  fun h => hundefined ((Vec2.isFinite_distance h.shown.2 pointer).mp h.measured)

/-- Of an undefined pointer the search takes whatever can be hit. -/
theorem Marker.isSome_hitPoint?_of_undefined {o : HitOptions Number}
    (hundefined : ¬ (pointer.IsDefined ∧ isFinite view.width = true)) :
    (m.hitPoint? view scale o pointer).isSome = true ↔ m.IsShown view := by
  rw [isSome_hitPoint?, and_iff_left_iff_imp]
  intro hshown
  exact Number.not_le_of_undefined (mt (Vec2.isFinite_distance hshown.2 pointer).mp hundefined)

end taken

theorem picksFirst_hitTest {size : SurfaceSize Number} (hscale : isFinite size.scaleFactor = true)
    (hpos : 0 < size.scaleFactor) (markers : List (Marker Number)) (pointer : Vec2 Number)
    (phi theta : Number) (o : HitOptions Number) :
    PicksFirst
      (fun m => (m.hitPoint? ⟨phi, theta, size.render⟩ size.scaleFactor o
        (pointer.scale size.scaleFactor)).isSome = true)
      markers (hitTest markers pointer phi theta size o) := by
  rw [hitTest_of_scale hscale hpos]
  exact picksFirst_firstHit? ..

/-- **What is picked is under the pointer, if the pointer is defined.**  On a surface with a
positive finite scale and with the hit radii of an accepted configuration, the answer is the first
marker that the pointer is on, or none if it is on none, exactly if the pointer and the drawing
square are defined or no marker can be hit at all.  If they are not, the answer is the first marker
that can be hit. -/
theorem picks_isUnder_iff {cfg : Config Number} (hcfg : cfg.check = .ok ())
    (markers : List (Marker Number)) (pointer : Vec2 Number) (phi theta : Number)
    {size : SurfaceSize Number} (hscale : isFinite size.scaleFactor = true)
    (hpos : 0 < size.scaleFactor) :
    let view : View Number := ⟨phi, theta, size.render⟩
    let answer := hitTest markers pointer phi theta size (.ofConfig cfg)
    let isUnder (m : Marker Number) :=
      m.IsUnder view size.scaleFactor (.ofConfig cfg) (pointer.scale size.scaleFactor)
    let defined := pointer.IsDefined ∧ isFinite size.render = true
    (PicksFirst isUnder markers answer ↔ defined ∨ ∀ m ∈ markers, ¬ m.IsShown view) ∧
      (¬ defined → PicksFirst (Marker.IsShown view) markers answer) := by
  intro view answer isUnder defined
  have hscaled :
      (pointer.scale size.scaleFactor).IsDefined ∧ isFinite view.width = true ↔ defined :=
    and_congr_left' (Vec2.isDefined_scale hscale pointer)
  have htaken := picksFirst_hitTest hscale hpos markers pointer phi theta (.ofConfig cfg)
  have hunder (hd : defined) : PicksFirst isUnder markers answer :=
    htaken.congr fun m _ => m.isSome_hitPoint?_of_defined hcfg hscale (hscaled.mpr hd)
  have hshown (hd : ¬ defined) : PicksFirst (Marker.IsShown view) markers answer :=
    htaken.congr fun m _ => m.isSome_hitPoint?_of_undefined (mt hscaled.mp hd)
  refine ⟨⟨fun h => ?_, ?_⟩, hshown⟩
  · by_cases hd : defined
    · exact .inl hd
    · have hnone (m : Marker Number) : ¬ isUnder m :=
        m.not_isUnder_of_undefined (mt hscaled.mp hd)
      exact .inr ((hshown hd).none_of_forall_not h hnone)
  · rintro (hd | hnone)
    · exact hunder hd
    · by_cases hd : defined
      · exact hunder hd
      · -- nothing can be hit, and nothing is under an undefined pointer
        have hneither (m : Marker Number) (hm : m ∈ markers) : m.IsShown view ↔ isUnder m :=
          iff_of_false (hnone m hm) (m.not_isUnder_of_undefined (mt hscaled.mp hd))
        exact (hshown hd).congr hneither

/-! ### A marker in the middle -/

section middle

open Number (real)

theorem View.project_real (phi theta width lat lon : ℝ) :
    let p := View.project ⟨phi, theta, width⟩ ⟨lat, lon⟩
    View.project ⟨real phi, real theta, real width⟩ ⟨real lat, real lon⟩ =
      ⟨real p.x, real p.y, real p.z⟩ := by
  have hhalf : real width / 2 = real (width / 2) := Number.real_div_real width (by norm_num)
  simp only [View.project, hhalf]
  rfl

/-- A marker with a tooltip where the meridian crosses the equator. -/
noncomputable def middleMarker : Marker Number := ⟨⟨real 0, real 0⟩, real 0.05, some "here", false⟩

theorem isShown_middleMarker (width : ℝ) : middleMarker.IsShown ⟨real 0, real 0, real width⟩ := by
  refine ⟨rfl, ?_⟩
  show (View.project ⟨real 0, real 0, real width⟩ ⟨real 0, real 0⟩).isFront = true
  rw [View.project_real, View.project_center]
  simp [Projected.isFront, Number.numeral]

theorem check_default : (Config.default : Config Number).check = .ok () := by
  simp [Config.check, Config.violation?, Config.ranges, Config.default, Expected.holds,
    Number.numeral, Number.decimal]
  norm_num

/-- A drawing square that is as large as it is shown has a positive finite scale. -/
theorem scaleFactor_uncapped {width : ℝ} (h : 0 < width) :
    let s := SurfaceSize.scaleFactor ⟨real width, real width⟩
    isFinite s = true ∧ 0 < s := by
  have hpos : 0 < real width := by simpa [Number.numeral] using h
  have hscale : SurfaceSize.scaleFactor ⟨real width, real width⟩ = real 1 := by
    rw [SurfaceSize.scaleFactor, if_pos hpos, Number.real_div_real width h.ne', div_self h.ne']
  rw [hscale]
  exact ⟨rfl, by simp [Number.numeral]⟩

/-- A pointer in the middle picks the first marker that it is on, and a pointer with an undefined
coordinate the first that can be hit. -/
theorem picks_isUnder_iff_middle :
    let size : SurfaceSize Number := ⟨real 600, real 600⟩
    let view : View Number := ⟨real 0, real 0, size.render⟩
    let o : HitOptions Number := .ofConfig .default
    let answer (pointer : Vec2 Number) := hitTest [middleMarker] pointer (real 0) (real 0) size o
    let isUnder (pointer : Vec2 Number) (m : Marker Number) :=
      m.IsUnder view size.scaleFactor o (pointer.scale size.scaleFactor)
    (Config.default : Config Number).check = .ok () ∧ isFinite size.scaleFactor = true ∧
      0 < size.scaleFactor ∧
      PicksFirst (isUnder ⟨real 300, real 300⟩) [middleMarker] (answer ⟨real 300, real 300⟩) ∧
      PicksFirst (Marker.IsShown view) [middleMarker] (answer ⟨.undefined, real 0⟩) := by
  intro size view o answer isUnder
  obtain ⟨hfinite, hpos⟩ : isFinite size.scaleFactor = true ∧ 0 < size.scaleFactor :=
    scaleFactor_uncapped (by norm_num)
  have hspec (pointer : Vec2 Number) :=
    picks_isUnder_iff check_default [middleMarker] pointer (real 0) (real 0) hfinite hpos
  refine ⟨check_default, hfinite, hpos, ?_, ?_⟩
  · exact (hspec ⟨real 300, real 300⟩).1.mpr (.inl ⟨⟨rfl, rfl⟩, rfl⟩)
  · exact (hspec ⟨.undefined, real 0⟩).2 fun h => Bool.false_ne_true h.1.1

/-- A pointer need not be on the marker that it picks, nor anywhere: one with an undefined
coordinate picks a marker that faces the viewer. -/
theorem undefined_pointer_picks :
    let size : SurfaceSize Number := ⟨real 600, real 600⟩
    let view : View Number := ⟨real 0, real 0, size.render⟩
    let o : HitOptions Number := .ofConfig .default
    let pointer : Vec2 Number := ⟨.undefined, real 0⟩
    let answer := hitTest [middleMarker] pointer (real 0) (real 0) size o
    (Config.default : Config Number).check = .ok () ∧ isFinite size.scaleFactor = true ∧
      0 < size.scaleFactor ∧ (∃ hit, answer = some hit ∧ hit.marker = middleMarker) ∧
      ¬ PicksFirst
        (fun m => m.IsUnder view size.scaleFactor o (pointer.scale size.scaleFactor))
        [middleMarker] answer := by
  intro size view o pointer answer
  obtain ⟨hfinite, hpos⟩ : isFinite size.scaleFactor = true ∧ 0 < size.scaleFactor :=
    scaleFactor_uncapped (by norm_num)
  have hundefined :
      ¬ ((pointer.scale size.scaleFactor).IsDefined ∧ isFinite view.width = true) :=
    fun h => Bool.false_ne_true ((Vec2.isDefined_scale hfinite pointer).mp h.1).1
  have htaken := picksFirst_hitTest hfinite hpos [middleMarker] pointer (real 0) (real 0) o
  have hshown : PicksFirst (Marker.IsShown view) [middleMarker] answer :=
    htaken.congr fun m _ => m.isSome_hitPoint?_of_undefined hundefined
  have hmiddle : middleMarker.IsShown view := isShown_middleMarker 600
  refine ⟨check_default, hfinite, hpos, ?_, fun hunder => ?_⟩
  · cases hanswer : answer with
    | none =>
        rw [hanswer] at hshown
        exact absurd hmiddle (hshown _ (List.mem_singleton_self _))
    | some hit =>
        rw [hanswer] at hshown
        exact ⟨hit, rfl, List.mem_singleton.mp (List.mem_of_getElem? hshown.1)⟩
  · have hnone := hshown.none_of_forall_not hunder fun m => m.not_isUnder_of_undefined hundefined
    exact hnone _ (List.mem_singleton_self _) hmiddle

end middle

end GlobeView
