import Mathlib.Data.List.Induction
import GlobeView.Proofs.ControllerRuns
import GlobeView.Proofs.Picking

/-! # The pointer, the drag and the hover agree

Six operations update the hover, the stored pointer and the drag flag, each some of them only.
`Coherent` is what they keep jointly: without a stored pointer nothing is hovered or held, the hover
names a place of the marker list, and the hover of a free globe is the marker at its place.  New
markers while the globe is held may leave a hover of an old marker at a place that still exists;
the release looks again.

`isDragging_run` says when the globe is held: when the last press, release or departure of the
pointer was a press. -/

namespace GlobeView

variable {σ α : Type} [Scalar α]

theorem Rotation.isDragging_tick (s : Spin α) (r : Rotation α) :
    (r.tick s).isDragging = r.isDragging := by
  unfold Rotation.tick
  split_ifs <;> rfl

namespace Controller

/-- The stored pointer, the hover and the drag flag agree with each other and with the markers. -/
structure Coherent (c : Controller σ α) : Prop where
  /-- Without a pointer nothing is hovered and nothing held. -/
  quiet : c.pointer = none → c.hover = none ∧ c.rotation.isDragging = false
  /-- The hover names a place of the list. -/
  valid : ∀ h, c.hover = some h → h.index < c.scene.markers.length
  /-- Unless the globe is held, the hover is the marker at its place. -/
  current : c.rotation.isDragging = false → ∀ h, c.hover = some h →
    c.scene.markers[h.index]? = some h.marker ∧ h.marker.tooltip.isSome = true

theorem hitTest_current {position : Vec2 α} {c : Controller σ α} {h : MarkerHit α}
    (hh : c.hitTest position = some h) :
    c.scene.markers[h.index]? = some h.marker ∧ h.marker.tooltip.isSome = true :=
  hitTest_eq_some hh

theorem coherent_of_hitTest (position : Vec2 α) {c : Controller σ α} (hp : c.pointer ≠ none)
    (hh : c.hover = c.hitTest position) : c.Coherent where
  quiet h := absurd h hp
  valid h hs := by
    obtain ⟨hget, _⟩ := hitTest_current (hh.symm.trans hs)
    obtain ⟨hlt, _⟩ := List.getElem?_eq_some_iff.mp hget
    exact hlt
  current _ h hs := hitTest_current (hh.symm.trans hs)

omit [Scalar α] in
theorem coherent_of_none {c : Controller σ α} (hh : c.hover = none)
    (hd : c.rotation.isDragging = false) : c.Coherent where
  quiet _ := ⟨hh, hd⟩
  valid h hs := by rw [hh] at hs; cases hs
  current _ h hs := by rw [hh] at hs; cases hs

omit [Scalar α] in
theorem keptHover_eq_some {c : Controller σ α} {h : MarkerHit α} (hk : c.keptHover = some h) :
    c.hover = some h ∧ h.index < c.scene.markers.length := by
  simpa [keptHover, Option.filter_eq_some_iff] using hk

/-- New data keeps the state coherent: whatever the markers are now, the hover is looked for again or
its place is checked. -/
theorem refreshHover_coherent {c : Controller σ α}
    (hq : c.pointer = none → c.hover = none ∧ c.rotation.isDragging = false) :
    c.refreshHover.Coherent := by
  rw [refreshHover_eq, setHover_eq]
  unfold freshHover
  cases hp : c.pointer with
  | none =>
      obtain ⟨hh, hd⟩ := hq hp
      have hk : c.keptHover = none := by simp [keptHover, hh]
      exact coherent_of_none hk hd
  | some position =>
      by_cases hd : c.rotation.isDragging = true
      · simp only [if_pos hd]
        exact
          { quiet := fun h => by simp at h
            valid := fun h hs => (keptHover_eq_some hs).2
            current := fun h => by simp [hd] at h }
      · simp only [if_neg hd]
        exact coherent_of_hitTest position (by simp) rfl

omit [Scalar α] in
/-- Coherence only looks at the pointer, the hover, the drag flag and the markers. -/
theorem Coherent.congr {c c' : Controller σ α} (h : c.Coherent) (hp : c'.pointer = c.pointer)
    (hh : c'.hover = c.hover) (hd : c'.rotation.isDragging = c.rotation.isDragging)
    (hm : c'.scene.markers = c.scene.markers) : c'.Coherent where
  quiet := by rw [hp, hh, hd]; exact h.quiet
  valid := by rw [hh, hm]; exact h.valid
  current := by rw [hh, hd, hm]; exact h.current

theorem Coherent.handle {c : Controller σ α} (h : c.Coherent) (event : PointerEvent α) :
    (c.handle event).2.Coherent := by
  cases event with
  | down position =>
      exact
        { quiet := fun hp => by cases hp
          valid := h.valid
          current := fun hd => by cases hd }
  | move position =>
      simp only [Controller.handle, pointerMove]
      split_ifs with hd
      · exact
          { quiet := fun hp => by cases hp
            valid := h.valid
            current := fun hfree => by
              simp only [Rotation.dragMove, if_pos hd] at hfree
              rw [hd] at hfree
              cases hfree }
      · rw [updateHover, setHover_eq]
        exact coherent_of_hitTest position (by simp) rfl
  | up position =>
      have hreleased : (c.released position).Coherent :=
        coherent_of_hitTest position (by simp [released]) rfl
      simp only [Controller.handle, pointerUp_eq]
      split
      · rw [click_eq]
        exact hreleased.congr rfl rfl rfl rfl
      · exact hreleased
  | leave =>
      simp only [Controller.handle, pointerLeave, setHover_eq, endDrag_eq]
      exact coherent_of_none rfl rfl

/-- A move of the held globe always finds the position that the pointer had before. -/
theorem Coherent.pointerMove_eq {c : Controller σ α} (h : c.Coherent)
    (hd : c.rotation.isDragging = true) (position : Vec2 α) :
    ∃ before, c.pointer = some before ∧ c.pointerMove position =
      { c with
        pointer := some position
        rotation := c.rotation.dragMove c.spin (position.x - before.x) } := by
  cases hp : c.pointer with
  | none =>
      rw [(h.quiet hp).2] at hd
      cases hd
  | some before =>
      refine ⟨before, rfl, ?_⟩
      simp only [pointerMove, if_pos hd, hp]

section runs
variable [PhaseSource σ α]

theorem Coherent.act {c : Controller σ α} (h : c.Coherent) (a : Action α) :
    (c.act a).Coherent := by
  cases a with
  | tick frame => exact h.congr rfl rfl (Rotation.isDragging_tick _ _) rfl
  | pointer event => exact h.handle event
  | resize container now =>
      rw [Controller.act, resize_eq]
      exact h.congr rfl rfl rfl rfl
  | settleDue now => exact h.congr rfl rfl rfl rfl
  | settle container now =>
      rw [Controller.act, settle_eq]
      exact h.congr rfl rfl rfl rfl
  | setScene scene => exact refreshHover_coherent h.quiet
  | setMarkers markers => exact refreshHover_coherent h.quiet
  | setConnections connections => exact h.congr rfl rfl rfl rfl
  | setHeat heat => exact h.congr rfl rfl rfl rfl
  | onClick handler => exact h.congr rfl rfl rfl rfl
  | drainEvents => exact h.congr rfl rfl rfl rfl

theorem coherent_run (actions : List (Action α)) (config : Config α) (source : σ) :
    ((create config source).run actions).Coherent :=
  run_induction (fun a _ h => h.act a) actions (coherent_of_none rfl rfl)

/-! ### When the globe is held -/

/-- A press, a release or a departure of the pointer: what takes hold of the globe or lets it go. -/
def Action.grip? : Action α → Option (PointerEvent α)
  | .pointer (.down position) => some (.down position)
  | .pointer (.up position) => some (.up position)
  | .pointer .leave => some .leave
  | _ => none

/-- Whether an event is a press. -/
def isPress : PointerEvent α → Bool
  | .down _ => true
  | _ => false

omit [Scalar α] in
theorem grip?_eq_none {a : Action α} (ha : a.isMeasurement = true ∨ a.isData = true) :
    a.grip? = none := by
  cases a <;> first | rfl | simp [Action.isMeasurement, Action.isData] at ha

theorem isDragging_act (a : Action α) (c : Controller σ α) :
    (c.act a).rotation.isDragging = (a.grip?.map isPress).getD c.rotation.isDragging := by
  obtain ⟨frame, rfl⟩ | ⟨event, rfl⟩ | ⟨ha, _, _, h⟩ | ⟨ha, _, _, _, _, h⟩ := c.act_cases a
  · exact Rotation.isDragging_tick _ _
  · cases event with
    | down position => rfl
    | move position =>
        simp only [Controller.act, Controller.handle, pointerMove]
        split_ifs with hd
        · simp only [Rotation.dragMove, if_pos hd]
          rfl
        · rw [updateHover, setHover_eq]
          rfl
    | up position =>
        simp only [Controller.act, Controller.handle, pointerUp_eq]
        split
        · rw [click_eq]
          rfl
        · rfl
    | leave =>
        simp only [Controller.act, Controller.handle, pointerLeave, setHover_eq, endDrag_eq]
        rfl
  · rw [h, grip?_eq_none (.inl ha)]
    rfl
  · rw [h, grip?_eq_none (.inr ha)]
    rfl

/-- The globe is held when the last press, release or departure was a press. -/
theorem isDragging_run (actions : List (Action α)) (config : Config α) (source : σ) :
    ((create config source).run actions).rotation.isDragging = true ↔
      ∃ position, (actions.filterMap Action.grip?).getLast? = some (.down position) := by
  induction actions using List.reverseRecOn with
  | nil => simp [create, Rotation.atRest]
  | append_singleton actions a ih =>
      rw [run_concat, isDragging_act, List.filterMap_append]
      cases hg : a.grip? with
      | none => simpa [hg] using ih
      | some event => cases event <;> simp [hg, isPress]

/-- **Pointer, drag and hover agree** in every state that any sequence of ticks, pointer events,
measurements and new data reaches: the globe is held exactly when the last press, release or
departure of the pointer was a press; without a stored pointer nothing is hovered or held, so that a
drag always knows where it came from; the hover names a place of the current marker list, and
unless the globe is held the marker there is the hovered one and carries a tooltip. -/
theorem pointer_drag_hover_agree (config : Config α) (source : σ) (actions : List (Action α)) :
    let c := (create config source).run actions
    (c.rotation.isDragging = true ↔
      ∃ position, (actions.filterMap Action.grip?).getLast? = some (.down position)) ∧
    (c.pointer = none → c.hover = none ∧ c.rotation.isDragging = false) ∧
    (c.rotation.isDragging = true → ∀ position, ∃ before, c.pointer = some before ∧
      c.pointerMove position =
        { c with
          pointer := some position
          rotation := c.rotation.dragMove c.spin (position.x - before.x) }) ∧
    (∀ h, c.hover = some h → h.index < c.scene.markers.length) ∧
    (c.rotation.isDragging = false → ∀ h, c.hover = some h →
      c.scene.markers[h.index]? = some h.marker ∧ h.marker.tooltip.isSome = true) := by
  intro c
  have h : c.Coherent := coherent_run actions config source
  exact ⟨isDragging_run actions config source, h.quiet, fun hd => h.pointerMove_eq hd, h.valid,
    h.current⟩

end runs

end Controller
end GlobeView
