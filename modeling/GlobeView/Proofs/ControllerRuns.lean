import Mathlib.Data.List.Basic
import GlobeView.Controller

/-! # Runs of a controller

An `Action` is anything that happens to a controller: a tick, a pointer event, a measurement of the
container, new data.  A run is a list of actions.

The equations of this file write what an action does as one record update, so that a proof about a
field of the state reads it off: the operations on the hover change the hover and the log only
(`setHover_eq`, `refreshHover_eq`), and a release ends the drag and hovers what is under the pointer
(`pointerUp_eq`). -/

namespace GlobeView.Controller

/-- Something that happens to a controller. -/
inductive Action (α : Type) where
  | tick (frame : Frame α)
  | pointer (event : PointerEvent α)
  | resize (container : ContainerSize α) (now : α)
  | settleDue (now : α)
  | settle (container : ContainerSize α) (now : α)
  | setScene (scene : Scene α)
  | setMarkers (markers : List (Marker α))
  | setConnections (connections : List (Connection α))
  | setHeat (heat : List (HeatPoint α))
  | onClick (handler : String)
  | drainEvents

variable {σ α : Type} [Scalar α]

section runs
variable [PhaseSource σ α]

/-- The controller after an action. -/
def act : Action α → Controller σ α → Controller σ α
  | .tick frame, c => (c.tick frame).2
  | .pointer event, c => (c.handle event).2
  | .resize container now, c => (c.resize container now).2
  | .settleDue now, c => (c.settleDue now).2
  | .settle container now, c => (c.settle container now).2
  | .setScene scene, c => c.setScene scene
  | .setMarkers markers, c => c.setMarkers markers
  | .setConnections connections, c => c.setConnections connections
  | .setHeat heat, c => c.setHeat heat
  | .onClick handler, c => c.onClick handler
  | .drainEvents, c => c.drainEvents.2

/-- The controller after actions in order. -/
def run (actions : List (Action α)) (c : Controller σ α) : Controller σ α :=
  actions.foldl (fun c a => c.act a) c

@[simp] theorem run_nil (c : Controller σ α) : c.run [] = c := rfl

@[simp] theorem run_append (before after : List (Action α)) (c : Controller σ α) :
    c.run (before ++ after) = (c.run before).run after := List.foldl_append

theorem run_concat (actions : List (Action α)) (a : Action α) (c : Controller σ α) :
    c.run (actions ++ [a]) = (c.run actions).act a := by
  rw [run_append]
  rfl

theorem run_induction {P : Controller σ α → Prop} (hact : ∀ a c, P c → P (c.act a))
    (actions : List (Action α)) {c : Controller σ α} (hc : P c) : P (c.run actions) := by
  induction actions generalizing c with
  | nil => exact hc
  | cons a rest ih => exact ih (hact a c hc)

end runs

/-! ### Hovering -/

/-- The log when the hover goes over to `hit`. -/
def hoverLog (hit : Option (MarkerHit α)) (c : Controller σ α) : EventLog (Interaction α) :=
  if c.hover.map (·.index) = hit.map (·.index) then c.log
  else c.log.emitNow (hoverInteraction hit)

omit [Scalar α] in
theorem setHover_eq (hit : Option (MarkerHit α)) (c : Controller σ α) :
    c.setHover hit = { c with hover := hit, log := c.hoverLog hit } := by
  unfold setHover hoverLog
  split_ifs <;> rfl

omit [Scalar α] in
theorem setHover_self (c : Controller σ α) : c.setHover c.hover = c := by
  rw [setHover_eq, hoverLog, if_pos rfl]

/-- The hover among new markers while no free pointer shows where to look: what was hovered stays
unless its place is gone. -/
def keptHover (c : Controller σ α) : Option (MarkerHit α) :=
  c.hover.filter fun h => h.index < c.scene.markers.length

/-- The hover among new markers. -/
def freshHover (c : Controller σ α) : Option (MarkerHit α) :=
  match c.pointer with
  | some position => if c.rotation.isDragging then c.keptHover else c.hitTest position
  | none => c.keptHover

omit [Scalar α] in
theorem setHover_keptHover {c : Controller σ α}
    (h : ∀ hit, c.hover = some hit → hit.index < c.scene.markers.length) :
    c.setHover c.keptHover = c := by
  have hk : c.keptHover = c.hover := by
    unfold keptHover
    cases hh : c.hover with
    | none => rfl
    | some hit => simp [h hit hh]
  rw [hk, setHover_self]

theorem refreshHover_eq (c : Controller σ α) : c.refreshHover = c.setHover c.freshHover := by
  cases hh : c.hover with
  | none =>
      have hkept : c.setHover c.keptHover = c := setHover_keptHover (by simp [hh])
      cases hp : c.pointer with
      | none => simp only [refreshHover, freshHover, hh, hp, hkept]
      | some position =>
          simp only [refreshHover, freshHover, hh, hp]
          split_ifs
          · exact hkept.symm
          · rfl
  | some hit =>
      have hkept : (if c.scene.markers.length ≤ hit.index then c.setHover none else c) =
          c.setHover c.keptHover := by
        split_ifs with hlen
        · have hk : c.keptHover = none := by simp [keptHover, hh, hlen]
          rw [hk]
        · exact (setHover_keptHover (by simpa [hh] using hlen)).symm
      cases hp : c.pointer with
      | none => simp only [refreshHover, freshHover, hh, hp, hkept]
      | some position =>
          simp only [refreshHover, freshHover, hh, hp, hkept]
          split_ifs <;> rfl

/-! ### Sizes -/

/-- The log after new sizes, if there are any. -/
def sizeLog (event : SurfaceSize α → Interaction α) (changed : Option (SurfaceSize α))
    (c : Controller σ α) : EventLog (Interaction α) :=
  match changed with
  | some size => c.log.emitNow (event size)
  | none => c.log

omit [Scalar α] in
theorem emitSize_eq (event : SurfaceSize α → Interaction α) (changed : Option (SurfaceSize α))
    (c : Controller σ α) :
    c.emitSize event changed = { c with log := c.sizeLog event changed } := by
  cases changed <;> rfl

theorem resize_eq (container : ContainerSize α) (now : α) (c : Controller σ α) :
    (c.resize container now).2 =
      { c with
        sizer := (c.sizer.observe container now).2
        log := c.sizeLog .resized (c.sizer.observe container now).1 } := by
  simp only [resize, emitSize_eq]
  rfl

theorem settle_eq (container : ContainerSize α) (now : α) (c : Controller σ α) :
    (c.settle container now).2 =
      { c with
        sizer := (c.sizer.settle container now).2
        log := c.sizeLog .settled (c.sizer.settle container now).1 } := by
  simp only [settle, emitSize_eq]
  rfl

/-! ### The pointer -/

omit [Scalar α] in
theorem endDrag_eq (event : Interaction α) (c : Controller σ α) :
    c.endDrag event =
      { c with
        rotation := c.rotation.dragEnd
        log := if c.rotation.isDragging then c.log.emitNow event else c.log } := by
  unfold endDrag
  by_cases hd : c.rotation.isDragging = true
  · simp only [if_pos hd, emit]
  · have hrest : c.rotation.dragEnd = c.rotation := by
      simp only [Rotation.dragEnd, Bool.not_eq_true] at hd ⊢
      rw [← hd]
    simp only [if_neg hd, hrest]

/-- The log after a release at `position`, before any click. -/
def releaseLog (position : Vec2 α) (c : Controller σ α) : EventLog (Interaction α) :=
  ({ c with pointer := some position }.endDrag (.dragEnded c.rotation.velocity)).hoverLog
    (c.hitTest position)

/-- A controller that was released at `position`, before any click. -/
def released (position : Vec2 α) (c : Controller σ α) : Controller σ α :=
  { c with
    pointer := some position
    rotation := c.rotation.dragEnd
    hover := c.hitTest position
    log := c.releaseLog position }

omit [Scalar α] in
theorem click_eq (marker : Marker α) (c : Controller σ α) :
    c.click marker =
      { c with
        metrics := c.metrics.incCounter "clicks" 1
        log := c.log.emitNow (.clicked marker.label)
        handlerCalls := c.handlerCalls ++ (c.clickHandler.map (·, marker)).toList } := by
  unfold click
  cases hh : c.clickHandler with
  | none => simp [emit]
  | some handler => simp [emit]

theorem pointerUp_eq (position : Vec2 α) (c : Controller σ α) :
    c.pointerUp position =
      match c.hitTest position with
      | some hit => (some hit.marker, (c.released position).click hit.marker)
      | none => (none, c.released position) := by
  have hreleased : ({ c with pointer := some position }.endDrag
      (.dragEnded c.rotation.velocity)).updateHover position = c.released position := by
    simp only [updateHover, setHover_eq, released, releaseLog, endDrag_eq]
    rfl
  unfold pointerUp
  rw [hreleased]
  rfl

/-- A pointer event touches neither the sizes nor the data nor the phases. -/
theorem handle_shape (event : PointerEvent α) (c : Controller σ α) :
    ∃ rotation hover pointer handlerCalls log metrics,
      (c.handle event).2 =
        { c with
          rotation := rotation
          hover := hover
          pointer := pointer
          handlerCalls := handlerCalls
          log := log
          metrics := metrics } := by
  cases event with
  | down position => exact ⟨_, _, _, _, _, _, rfl⟩
  | move position =>
      simp only [handle, pointerMove, updateHover, setHover_eq]
      split_ifs <;> exact ⟨_, _, _, _, _, _, rfl⟩
  | up position =>
      simp only [handle, pointerUp_eq, click_eq]
      split <;> exact ⟨_, _, _, _, _, _, rfl⟩
  | leave =>
      simp only [handle, pointerLeave, setHover_eq, endDrag_eq]
      exact ⟨_, _, _, _, _, _, rfl⟩

/-! ### What an action leaves alone -/

/-- Whether an action has to do with the size of the container. -/
def Action.isMeasurement : Action α → Bool
  | .resize .. | .settleDue .. | .settle .. => true
  | _ => false

/-- Whether an action gives the globe something new to show or to call, or reads its log. -/
def Action.isData : Action α → Bool
  | .setScene _ | .setMarkers _ | .setConnections _ | .setHeat _ | .onClick _ | .drainEvents => true
  | _ => false

/-- What an action can change: ticks and pointer events apart, a measurement changes the sizes, new
data changes the scene, the hover and the click handler, and either may log. -/
theorem act_cases [PhaseSource σ α] (a : Action α) (c : Controller σ α) :
    (∃ frame, a = .tick frame) ∨ (∃ event, a = .pointer event) ∨
    (a.isMeasurement = true ∧ ∃ sizer log, c.act a = { c with sizer := sizer, log := log }) ∨
    (a.isData = true ∧ ∃ scene hover clickHandler log,
      c.act a =
        { c with scene := scene, hover := hover, clickHandler := clickHandler, log := log }) := by
  cases a with
  | tick frame => exact .inl ⟨frame, rfl⟩
  | pointer event => exact .inr (.inl ⟨event, rfl⟩)
  | resize container now =>
      exact .inr (.inr (.inl ⟨rfl, _, _, c.resize_eq container now⟩))
  | settleDue now => exact .inr (.inr (.inl ⟨rfl, _, _, rfl⟩))
  | settle container now =>
      exact .inr (.inr (.inl ⟨rfl, _, _, c.settle_eq container now⟩))
  | setScene scene =>
      simp only [act, setScene, refreshHover_eq, setHover_eq]
      exact .inr (.inr (.inr ⟨rfl, _, _, _, _, rfl⟩))
  | setMarkers markers =>
      simp only [act, setMarkers, refreshHover_eq, setHover_eq]
      exact .inr (.inr (.inr ⟨rfl, _, _, _, _, rfl⟩))
  | setConnections connections => exact .inr (.inr (.inr ⟨rfl, _, _, _, _, rfl⟩))
  | setHeat heat => exact .inr (.inr (.inr ⟨rfl, _, _, _, _, rfl⟩))
  | onClick handler => exact .inr (.inr (.inr ⟨rfl, _, _, _, _, rfl⟩))
  | drainEvents => exact .inr (.inr (.inr ⟨rfl, _, _, _, _, rfl⟩))

theorem act_config [PhaseSource σ α] (a : Action α) (c : Controller σ α) :
    (c.act a).config = c.config := by
  obtain ⟨frame, rfl⟩ | ⟨event, rfl⟩ | ⟨_, _, _, h⟩ | ⟨_, _, _, _, _, h⟩ := c.act_cases a
  · rfl
  · obtain ⟨_, _, _, _, _, _, h⟩ := c.handle_shape event
    rw [act, h]
  · rw [h]
  · rw [h]

theorem run_config [PhaseSource σ α] (actions : List (Action α)) (c : Controller σ α) :
    (c.run actions).config = c.config :=
  run_induction (P := fun c' => c'.config = c.config) (fun a c' h => (act_config a c').trans h)
    actions rfl

theorem act_spin [PhaseSource σ α] (a : Action α) (c : Controller σ α) : (c.act a).spin = c.spin :=
  congrArg Spin.ofConfig (act_config a c)

theorem run_spin [PhaseSource σ α] (actions : List (Action α)) (c : Controller σ α) :
    (c.run actions).spin = c.spin :=
  congrArg Spin.ofConfig (run_config actions c)

theorem act_phases [PhaseSource σ α] {a : Action α} (ha : ∀ frame, a ≠ .tick frame)
    (c : Controller σ α) : (c.act a).phases = c.phases := by
  obtain ⟨frame, rfl⟩ | ⟨event, rfl⟩ | ⟨_, _, _, h⟩ | ⟨_, _, _, _, _, h⟩ := c.act_cases a
  · exact absurd rfl (ha frame)
  · obtain ⟨_, _, _, _, _, _, h⟩ := c.handle_shape event
    rw [act, h]
  · rw [h]
  · rw [h]

theorem act_sizer [PhaseSource σ α] {a : Action α} (ha : a.isMeasurement = false)
    (c : Controller σ α) : (c.act a).sizer = c.sizer := by
  obtain ⟨frame, rfl⟩ | ⟨event, rfl⟩ | ⟨hm, _, _, _⟩ | ⟨_, _, _, _, _, h⟩ := c.act_cases a
  · rfl
  · obtain ⟨_, _, _, _, _, _, h⟩ := c.handle_shape event
    rw [act, h]
  · rw [ha] at hm
    cases hm
  · rw [h]

end GlobeView.Controller
