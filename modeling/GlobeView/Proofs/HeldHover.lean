import GlobeView.Proofs.RenderCap
import GlobeView.Proofs.PointerCoherence

/-! # The hover of a held globe

A hover keeps the marker that was under the pointer, with its place in the list.  Whoever replaces
the markers has it looked for again, so that it is the marker at its place in the new list.  While
the globe is held the search is left out, and new markers only drop a hover whose place is gone.

So the hovered marker is the one at its place in the list, or it is left over: the markers were
replaced while the globe was held, it is held still, and the hover is what it was before
(`hover_current_or_left_over`).  A hover does get left over, and a marker that is not on the globe
any more is then handed out (`hover_left_over_during_drag`). -/

namespace GlobeView.Controller

variable {σ α : Type}

/-- Whether an action replaces the markers. -/
def Action.replacesMarkers : Action α → Bool
  | .setScene _ | .setMarkers _ => true
  | _ => false

variable [Scalar α]

/-- New markers leave the hover of a held globe as it is, if its place is still there. -/
theorem hover_refreshHover_of_held {c : Controller σ α} (hheld : c.rotation.isDragging = true) :
    c.refreshHover.hover = c.keptHover := by
  rw [refreshHover_eq, setHover_eq]
  show c.freshHover = c.keptHover
  unfold freshHover
  cases c.pointer with
  | none => rfl
  | some position => exact if_pos hheld

theorem hover_of_refreshHover {c : Controller σ α} {h : MarkerHit α}
    (hheld : c.rotation.isDragging = true) (hh : c.refreshHover.hover = some h) :
    c.hover = some h := by
  rw [hover_refreshHover_of_held hheld] at hh
  exact (keptHover_eq_some hh).1

variable [PhaseSource σ α]

theorem markers_act {a : Action α} (ha : a.replacesMarkers = false) (c : Controller σ α) :
    (c.act a).scene.markers = c.scene.markers := by
  cases a with
  | pointer event =>
      obtain ⟨_, _, _, _, _, _, h⟩ := c.handle_shape event
      rw [act, h]
  | resize container now => rw [act, resize_eq]
  | settle container now => rw [act, settle_eq]
  | setScene scene => cases ha
  | setMarkers markers => cases ha
  | _ => rfl

theorem markers_setMarkers (markers : List (Marker α)) (c : Controller σ α) :
    (c.act (.setMarkers markers)).scene.markers = markers := by
  simp only [act, setMarkers, refreshHover_eq, setHover_eq]

theorem isDragging_replacesMarkers {a : Action α} (ha : a.replacesMarkers = true)
    (c : Controller σ α) : (c.act a).rotation.isDragging = c.rotation.isDragging := by
  rw [isDragging_act]
  cases a with
  | setScene scene => rfl
  | setMarkers markers => rfl
  | _ => cases ha

/-- Whatever leaves the globe held leaves its hover as it was, or drops it. -/
theorem hover_of_held {a : Action α} {c : Controller σ α} {h : MarkerHit α}
    (hheld : (c.act a).rotation.isDragging = true) (hh : (c.act a).hover = some h) :
    c.hover = some h := by
  cases a with
  | pointer event =>
      cases event with
      | down position => exact hh
      | move position =>
          have hd : c.rotation.isDragging = true := by
            rw [isDragging_act] at hheld
            exact hheld
          simp only [act, handle, pointerMove, if_pos hd] at hh
          exact hh
      | up position =>
          rw [isDragging_act] at hheld
          cases hheld
      | leave =>
          rw [isDragging_act] at hheld
          cases hheld
  | resize container now =>
      rw [act, resize_eq] at hh
      exact hh
  | settle container now =>
      rw [act, settle_eq] at hh
      exact hh
  | setScene scene =>
      rw [isDragging_replacesMarkers rfl] at hheld
      exact hover_of_refreshHover (c := { c with scene := scene }) hheld hh
  | setMarkers markers =>
      rw [isDragging_replacesMarkers rfl] at hheld
      exact hover_of_refreshHover (c := { c with scene := { c.scene with markers := markers } })
        hheld hh
  | _ => exact hh

/-- A globe is held before, during and after a run. -/
def HeldThroughout (actions : List (Action α)) (c : Controller σ α) : Prop :=
  ∀ before, before <+: actions → (c.run before).rotation.isDragging = true

theorem HeldThroughout.concat {actions : List (Action α)} {c : Controller σ α}
    (h : HeldThroughout actions c) {a : Action α}
    (hheld : (c.run (actions ++ [a])).rotation.isDragging = true) :
    HeldThroughout (actions ++ [a]) c := by
  intro before hbefore
  obtain rfl | hbefore := List.prefix_concat_iff.mp hbefore
  · exact hheld
  · exact h before hbefore

/-- The hover `h` is left from before the markers were replaced: the globe was held when that
happened and has been held ever since, and `h` was the marker at its place before. -/
def LeftOver (h : MarkerHit α) (actions : List (Action α)) (start : Controller σ α) : Prop :=
  ∃ before a after, actions = before ++ a :: after ∧ a.replacesMarkers = true ∧
    HeldThroughout (a :: after) (start.run before) ∧ (start.run before).hover = some h ∧
    (start.run before).scene.markers[h.index]? = some h.marker

section step

variable {h : MarkerHit α} {actions : List (Action α)} {start : Controller σ α} {a : Action α}

/-- A hover stays left over as long as the globe is held. -/
theorem LeftOver.concat (hleft : LeftOver h actions start)
    (hheld : (start.run (actions ++ [a])).rotation.isDragging = true) :
    LeftOver h (actions ++ [a]) start := by
  obtain ⟨before, b, after, rfl, hb, hthrough, hhover, hplace⟩ := hleft
  refine ⟨before, b, after ++ [a], by simp, hb, ?_, hhover, hplace⟩
  rw [← List.cons_append]
  apply hthrough.concat
  rw [← run_append]
  simpa using hheld

theorem leftOver_of_replaced (ha : a.replacesMarkers = true)
    (hheld : (start.run (actions ++ [a])).rotation.isDragging = true)
    (hh : (start.run actions).hover = some h)
    (hplace : (start.run actions).scene.markers[h.index]? = some h.marker) :
    LeftOver h (actions ++ [a]) start := by
  refine ⟨actions, a, [], rfl, ha, ?_, hh, hplace⟩
  have hbefore : HeldThroughout [] (start.run actions) := by
    intro before hbefore
    rw [List.prefix_nil.mp hbefore, run_nil, ← isDragging_replacesMarkers ha, ← run_concat]
    exact hheld
  apply hbefore.concat (a := a)
  rw [List.nil_append, ← run_append]
  exact hheld

end step

/-- The hovered marker carries a tooltip, and is the marker at its place unless it is left over. -/
theorem hover_run (config : Config α) (source : σ) (actions : List (Action α)) {h : MarkerHit α}
    (hh : ((create config source).run actions).hover = some h) :
    h.marker.tooltip.isSome = true ∧
      (((create config source).run actions).scene.markers[h.index]? = some h.marker ∨
        LeftOver h actions (create config source)) := by
  induction actions using List.reverseRecOn with
  | nil => cases hh
  | append_singleton actions a ih =>
      have hcoherent := coherent_run (actions ++ [a]) config source
      cases hheld : ((create config source).run (actions ++ [a])).rotation.isDragging with
      | false =>
          obtain ⟨hplace, htooltip⟩ := hcoherent.current hheld h hh
          exact ⟨htooltip, .inl hplace⟩
      | true =>
          -- the hover is the one of before; only new markers can make it a left-over
          have hbefore : ((create config source).run actions).hover = some h := by
            rw [run_concat] at hheld hh
            exact hover_of_held hheld hh
          obtain ⟨htooltip, hplace | hleft⟩ := ih hbefore
          · refine ⟨htooltip, ?_⟩
            cases ha : a.replacesMarkers with
            | true => exact .inr (leftOver_of_replaced ha hheld hbefore hplace)
            | false =>
                left
                rw [run_concat, markers_act ha]
                exact hplace
          · exact ⟨htooltip, .inr (hleft.concat hheld)⟩

/-- **The hovered marker is current or left over.**  In every state that any sequence of ticks,
pointer events, measurements and new data reaches, a hover names a place of the marker list and
carries a tooltip.  The marker at its place is the hovered one, unless the markers were replaced
while the globe was held and it is held still: then the hover is what it was before that, and was
current. -/
theorem hover_current_or_left_over (config : Config α) (source : σ) (actions : List (Action α))
    (h : MarkerHit α) (hh : ((create config source).run actions).hover = some h) :
    let start := create config source
    let c := start.run actions
    h.index < c.scene.markers.length ∧ h.marker.tooltip.isSome = true ∧
      (c.scene.markers[h.index]? = some h.marker ∨ LeftOver h actions start) := by
  intro start c
  obtain ⟨htooltip, hplace⟩ := hover_run config source actions hh
  exact ⟨(coherent_run actions config source).valid h hh, htooltip, hplace⟩

/-! ### A hover that is left over -/

/-- The default configuration without tilt. -/
noncomputable def untilted : Config ℝ := { Config.default with theta := 0 }

theorem hitTest_middle {marker : Marker ℝ} (hplace : marker.location = ⟨0, 0⟩)
    (htooltip : marker.tooltip.isSome = true) :
    GlobeView.hitTest [marker] ⟨150, 150⟩ 0 0 ⟨300, 300⟩ ⟨10, 200⟩ =
      some ⟨0, marker, ⟨150, 150⟩⟩ := by
  have hmiddle : (150 : ℝ) = 300 / 2 := by norm_num
  rw [hmiddle]
  exact hitTest_center hplace htooltip [] (by norm_num) (by norm_num) (by norm_num)

/-- The only marker of a globe is hovered, the globe is pressed, and the marker is replaced. -/
noncomputable def replacedDuringDrag (old new : Marker ℝ) : List (Action ℝ) :=
  [.setMarkers [old], .pointer (.move ⟨150, 150⟩), .pointer (.down ⟨150, 150⟩)] ++
    [.setMarkers [new]]

theorem replacedDuringDrag_spec (old new : Marker ℝ) (hplace : old.location = ⟨0, 0⟩)
    (htooltip : old.tooltip.isSome = true) :
    let c := (create untilted Unseeded.mk).run (replacedDuringDrag old new)
    c.hover = some ⟨0, old, ⟨150, 150⟩⟩ ∧ c.scene.markers = [new] := by
  intro c
  have hsize : surfaceSize (create untilted Unseeded.mk) = ⟨300, 300⟩ := by
    show GlobeView.surfaceSize .fit Config.default.scale Config.default.renderCap
      Config.default.fallbackSize ⟨_, _⟩ = _
    simp [Config.default, GlobeView.surfaceSize, SizingMode.baseSize, measurable, Exact.min_eq]
    norm_num
  have hphi : (create untilted Unseeded.mk : Controller Unseeded ℝ).rotation.phi = 0 :=
    Exact.zero_eq
  have htheta : (create untilted Unseeded.mk : Controller Unseeded ℝ).rotation.theta = 0 := rfl
  let pressed : Controller Unseeded ℝ := (create untilted Unseeded.mk).run
    [.setMarkers [old], .pointer (.move ⟨150, 150⟩), .pointer (.down ⟨150, 150⟩)]
  have hpressed : pressed.hover = some ⟨0, old, ⟨150, 150⟩⟩ := by
    show GlobeView.hitTest [old] ⟨150, 150⟩
      (create untilted Unseeded.mk : Controller Unseeded ℝ).rotation.phi
      (create untilted Unseeded.mk : Controller Unseeded ℝ).rotation.theta
      (surfaceSize (create untilted Unseeded.mk)) ⟨10, 200⟩ = _
    rw [hphi, htheta, hsize]
    exact hitTest_middle hplace htooltip
  have hc : c = pressed.act (.setMarkers [new]) := run_concat _ _ _
  have hmarkers : c.scene.markers = [new] := by rw [hc, markers_setMarkers]
  refine ⟨?_, hmarkers⟩
  calc c.hover
      = (refreshHover { pressed with scene := { pressed.scene with markers := [new] } }).hover :=
        congrArg hover hc
    _ = keptHover { pressed with scene := { pressed.scene with markers := [new] } } :=
        hover_refreshHover_of_held rfl
    _ = (some ⟨0, old, ⟨150, 150⟩⟩ : Option (MarkerHit ℝ)).filter (·.index < 1) :=
        congrArg (Option.filter _) hpressed
    _ = some ⟨0, old, ⟨150, 150⟩⟩ := rfl

/-- A left-over hover of a marker that is on the globe no more. -/
theorem hover_current_or_left_over_replaced :
    let old : Marker ℝ := ⟨⟨0, 0⟩, 0.05, some "old", false⟩
    let new : Marker ℝ := ⟨⟨0, 0⟩, 0.05, some "new", false⟩
    let start : Controller Unseeded ℝ := create untilted .mk
    let c := start.run (replacedDuringDrag old new)
    c.hover = some ⟨0, old, ⟨150, 150⟩⟩ ∧ c.scene.markers = [new] ∧
      LeftOver ⟨0, old, ⟨150, 150⟩⟩ (replacedDuringDrag old new) start := by
  intro old new start c
  obtain ⟨hhover, hmarkers⟩ := replacedDuringDrag_spec old new rfl rfl
  obtain ⟨_, _, hplace | hleft⟩ := hover_current_or_left_over untilted Unseeded.mk _ _ hhover
  · rw [hmarkers] at hplace
    simp [new, old] at hplace
  · exact ⟨hhover, hmarkers, hleft⟩

/-- A hovered marker need not be the one at its place in the current list: new markers of a globe
that is being dragged leave it. -/
theorem hover_left_over_during_drag :
    ¬ ∀ (config : Config ℝ) (actions : List (Action ℝ)) (h : MarkerHit ℝ),
      ((create config Unseeded.mk).run actions).hover = some h →
        ((create config Unseeded.mk).run actions).scene.markers[h.index]? = some h.marker := by
  intro hall
  let old : Marker ℝ := ⟨⟨0, 0⟩, 0.05, some "old", false⟩
  let new : Marker ℝ := ⟨⟨0, 0⟩, 0.05, some "new", false⟩
  obtain ⟨hhover, hmarkers⟩ := replacedDuringDrag_spec old new rfl rfl
  have hplace := hall untilted _ _ hhover
  rw [hmarkers] at hplace
  simp [new, old] at hplace

end GlobeView.Controller
