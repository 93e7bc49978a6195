import GlobeView.Picking

/-! # What is picked

A hit names a marker of the list at its place, and that marker carries a tooltip
(`hitTest_eq_some`).  On a surface with a positive finite scale the hit is the first one of the search
(`hitTest_of_scale`). -/

namespace GlobeView

variable {α : Type} [Scalar α]

theorem Marker.tooltip_of_hitPoint? {view : View α} {scale : α} {o : HitOptions α}
    {pointer p : Vec2 α} {m : Marker α} (h : m.hitPoint? view scale o pointer = some p) :
    m.tooltip.isSome = true := by
  simp only [hitPoint?] at h
  split at h
  · next hcond =>
    simp only [Bool.and_eq_true] at hcond
    exact hcond.1.1
  · cases h

theorem firstHit?_eq_some {view : View α} {scale : α} {o : HitOptions α} {pointer : Vec2 α}
    {markers : List (Marker α)} {index : Nat} {hit : MarkerHit α}
    (h : firstHit? view scale o pointer index markers = some hit) :
    ∃ place p, hit.index = index + place ∧ markers[place]? = some hit.marker ∧
      hit.marker.hitPoint? view scale o pointer = some p ∧ hit.position = p.scale (1 / scale) := by
  induction markers generalizing index with
  | nil => cases h
  | cons m rest ih =>
      unfold firstHit? at h
      split at h
      · next p hp =>
        obtain rfl := Option.some.inj h
        exact ⟨0, p, rfl, rfl, hp, rfl⟩
      · obtain ⟨place, p, hi, hm, hp, hpos⟩ := ih h
        exact ⟨place + 1, p, by omega, hm, hp, hpos⟩

theorem hitTest_eq_some {markers : List (Marker α)} {pointer : Vec2 α} {phi theta : α}
    {size : SurfaceSize α} {o : HitOptions α} {hit : MarkerHit α}
    (h : hitTest markers pointer phi theta size o = some hit) :
    markers[hit.index]? = some hit.marker ∧ hit.marker.tooltip.isSome = true := by
  simp only [hitTest] at h
  split at h
  · obtain ⟨place, p, hi, hm, hp, _⟩ := firstHit?_eq_some h
    rw [Nat.zero_add] at hi
    rw [hi]
    exact ⟨hm, Marker.tooltip_of_hitPoint? hp⟩
  · cases h

/-- On a surface with a positive finite scale the markers are searched from the first one on. -/
theorem hitTest_of_scale {size : SurfaceSize α} (hfinite : Scalar.isFinite size.scaleFactor = true)
    (hpos : 0 < size.scaleFactor) (markers : List (Marker α)) (pointer : Vec2 α) (phi theta : α)
    (o : HitOptions α) :
    hitTest markers pointer phi theta size o =
      firstHit? ⟨phi, theta, size.render⟩ size.scaleFactor o (pointer.scale size.scaleFactor) 0
        markers := by
  simp [hitTest, hfinite, hpos]

end GlobeView
