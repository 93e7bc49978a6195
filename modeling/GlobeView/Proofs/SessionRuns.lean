import Mathlib.Data.List.Basic
import GlobeView.Session
import GlobeView.Proofs.ControllerRuns

/-! # Runs of a session

A `Session.Step` is anything that happens to a mounted globe, or to the container that it sits in; a
run is a list of steps.

`Watched` is a session together with what has been seen of it since it was mounted: the last
measurement of its container and everything that was drawn on its surfaces.  The watched session
goes through the steps of the session itself (`Watched.play_session`), and its surfaces remember
exactly what was drawn (`Watched.play_surfaces`). -/

namespace GlobeView

variable {σ τ α : Type}

/-! ### What was drawn -/

/-- The size that a drawing step gives the surfaces. -/
def Drawing.pushed? : Drawing α → Option (SurfaceSize α)
  | .resize size => some size
  | _ => none

/-- The size that the surfaces were given last. -/
def lastPushed? (drawings : List (Drawing α)) : Option (SurfaceSize α) :=
  (drawings.filterMap Drawing.pushed?).getLast?

namespace Recorder

theorem drawAll_append (before after : List (Drawing α)) (r : Recorder α) :
    r.drawAll (before ++ after) = (r.drawAll before).drawAll after := List.foldl_append

theorem sizes_drawAll (drawings : List (Drawing α)) (r : Recorder α) :
    (r.drawAll drawings).sphere.sizes = r.sphere.sizes ++ drawings.filterMap Drawing.pushed? ∧
      (r.drawAll drawings).overlay.sizes =
        r.overlay.sizes ++ drawings.filterMap Drawing.pushed? := by
  induction drawings generalizing r with
  | nil => simp [drawAll]
  | cons d rest ih =>
      obtain ⟨hsphere, hoverlay⟩ := ih (r.draw d)
      have hcons : r.drawAll (d :: rest) = (r.draw d).drawAll rest := rfl
      rw [hcons, hsphere, hoverlay, List.filterMap_cons]
      cases d with
      | resize size => simp [Drawing.pushed?, draw, SurfaceLog.resize]
      | sphere frame => exact ⟨rfl, rfl⟩
      | overlay frame => exact ⟨rfl, rfl⟩

theorem lastSize?_drawAll (drawings : List (Drawing α)) :
    (drawAll drawings {}).sphere.lastSize? = lastPushed? drawings ∧
      (drawAll drawings {}).overlay.lastSize? = lastPushed? drawings := by
  obtain ⟨hsphere, hoverlay⟩ := sizes_drawAll drawings {}
  constructor
  · unfold SurfaceLog.lastSize? lastPushed?
    rw [hsphere]
    rfl
  · unfold SurfaceLog.lastSize? lastPushed?
    rw [hoverlay]
    rfl

end Recorder

/-! ### Steps -/

/-- New data for a globe. -/
inductive Edit (α : Type) where
  | scene (new : Scene α)
  | markers (new : List (Marker α))
  | connections (new : List (Connection α))
  | heat (new : List (HeatPoint α))

/-- The edit as something that happens to a controller. -/
def Edit.action : Edit α → Controller.Action α
  | .scene new => .setScene new
  | .markers new => .setMarkers new
  | .connections new => .setConnections new
  | .heat new => .setHeat new

namespace Session

/-- Something that happens to a session. -/
inductive Step (τ α : Type) where
  /-- The container gets another size, and nobody is told. -/
  | container (new : ContainerSize α)
  /-- The clock of the session makes a frame. -/
  | advance (dt : α)
  /-- The globe is drawn at the frame of any other clock. -/
  | draw (frame : Frame α)
  | notifyResize (now : α)
  | handle (event : PointerEvent α)
  /-- The controller is given new data; without any, it is only read. -/
  | edit (edits : List (Edit α))
  /-- A foreign callback is put on the clock. -/
  | register (tag : τ)
  | unmount

variable [Scalar α] [PhaseSource σ α]

/-- The session after a step. -/
def perform : Step τ α → Session σ τ α → Session σ τ α
  | .container new, s => s.setContainer new
  | .advance dt, s => (s.advance dt).2
  | .draw frame, s => s.runTask frame .draw
  | .notifyResize now, s => (s.notifyResize now).2
  | .handle event, s => (s.handle event).2
  | .edit edits, s => (s.withController fun c => ((), c.run (edits.map Edit.action))).2
  | .register tag, s => (s.register tag).2
  | .unmount, s => s.unmount

/-- A step that neither draws nor measures. -/
def Step.isQuiet : Step τ α → Bool
  | .advance _ | .draw _ | .notifyResize _ => false
  | _ => true

theorem sizer_edits (edits : List (Edit α)) (c : Controller σ α) :
    (c.run (edits.map Edit.action)).sizer = c.sizer := by
  induction edits generalizing c with
  | nil => rfl
  | cons edit rest ih =>
      rw [List.map_cons, ← List.singleton_append, Controller.run_append, ih]
      apply Controller.act_sizer
      cases edit <;> rfl

omit [Scalar α] [PhaseSource σ α] in
theorem unmount_shape (s : Session σ τ α) :
    ∃ clock callback isWatching disconnects,
      s.unmount =
        { s with
          clock := clock
          callback := callback
          isWatching := isWatching
          disconnects := disconnects } := by
  have hcancel : ∃ clock callback,
      s.cancelFrames = { s with clock := clock, callback := callback } := by
    unfold cancelFrames
    split <;> exact ⟨_, _, rfl⟩
  obtain ⟨clock, callback, hcancel⟩ := hcancel
  simp only [unmount, hcancel, disconnectWatch]
  split_ifs <;> exact ⟨_, _, _, _, rfl⟩

theorem perform_of_isQuiet {step : Step τ α} (hq : step.isQuiet = true) (s : Session σ τ α) :
    (s.perform step).surfaces = s.surfaces ∧
      (s.perform step).controller.sizer = s.controller.sizer := by
  cases step with
  | container new => exact ⟨rfl, rfl⟩
  | advance dt => cases hq
  | draw frame => cases hq
  | notifyResize now => cases hq
  | handle event =>
      simp only [perform, handle]
      obtain ⟨_, _, _, _, _, _, hshape⟩ := s.controller.handle_shape event
      split_ifs
      · rw [hshape]
        exact ⟨rfl, rfl⟩
      · exact ⟨rfl, rfl⟩
  | edit edits => exact ⟨rfl, sizer_edits edits s.controller⟩
  | register tag => exact ⟨rfl, rfl⟩
  | unmount =>
      obtain ⟨_, _, _, _, hshape⟩ := s.unmount_shape
      rw [perform, hshape]
      exact ⟨rfl, rfl⟩

/-- The session after steps in order. -/
def play (steps : List (Step τ α)) (s : Session σ τ α) : Session σ τ α :=
  steps.foldl (fun s step => s.perform step) s

end Session

/-! ### Watched sessions -/

/-- A session and what has been seen of it since it was mounted. -/
structure Watched (σ τ α : Type) where
  session : Session σ τ α
  /-- The container as it was measured last. -/
  measured : ContainerSize α
  /-- Everything that was drawn, the oldest first. -/
  drawings : List (Drawing α)

namespace Watched

variable [Scalar α]

/-- Mounting measures the container and sizes the surfaces. -/
def mount (controller : Controller σ α) (container : ContainerSize α)
    (clock : StepClock (Task τ) α) (now : α) : Watched σ τ α where
  session := .mount controller container clock now
  measured := container
  drawings := (controller.mount container now).1

/-- A mounted session that is told of a new size measures its container. -/
def notifyResize (now : α) (w : Watched σ τ α) : Watched σ τ α :=
  if w.session.isMounted then
    { session := (w.session.notifyResize now).2
      measured := w.session.container
      drawings :=
        w.drawings ++ (w.session.controller.containerResized w.session.container now).1.2 }
  else w

variable [PhaseSource σ α]

/-- Drawing the globe measures the container if a second measurement is due. -/
def draw (frame : Frame α) (w : Watched σ τ α) : Watched σ τ α where
  session := w.session.runTask frame .draw
  measured :=
    if (w.session.controller.settleDue frame.time).1 then w.session.container else w.measured
  drawings := w.drawings ++ (w.session.controller.drawFrame w.session.container frame).1

/-- One task of a frame. -/
def runTask (frame : Frame α) (w : Watched σ τ α) : Task τ → Watched σ τ α
  | .draw => w.draw frame
  | .other _ => w

/-- A frame of the clock runs its tasks. -/
def advance (dt : α) (w : Watched σ τ α) : Watched σ τ α :=
  let ((frame, tasks), clock) := w.session.clock.advance dt
  (tasks.map (·.2)).foldl (runTask frame) { w with session := { w.session with clock := clock } }

/-- A step of the session as it is watched; only the frames and the notices show anything. -/
def perform : Session.Step τ α → Watched σ τ α → Watched σ τ α
  | .advance dt, w => w.advance dt
  | .draw frame, w => w.draw frame
  | .notifyResize now, w => w.notifyResize now
  | step, w => { w with session := w.session.perform step }

/-- A run of the session as it is watched. -/
def play (steps : List (Session.Step τ α)) (w : Watched σ τ α) : Watched σ τ α :=
  steps.foldl (fun w step => w.perform step) w

/-! ### Watching changes nothing -/

theorem foldl_runTask_session (frame : Frame α) (tasks : List (Task τ)) (w : Watched σ τ α) :
    (tasks.foldl (runTask frame) w).session =
      tasks.foldl (Session.runTask frame) w.session := by
  induction tasks generalizing w with
  | nil => rfl
  | cons task rest ih =>
      rw [List.foldl_cons, List.foldl_cons, ih]
      cases task <;> rfl

theorem perform_session (step : Session.Step τ α) (w : Watched σ τ α) :
    (w.perform step).session = w.session.perform step := by
  cases step with
  | advance dt => exact foldl_runTask_session _ _ _
  | notifyResize now =>
      simp only [perform, notifyResize, Session.perform]
      by_cases hm : w.session.isMounted = true
      · rw [if_pos hm]
      · rw [if_neg hm, Session.notifyResize, if_neg hm]
  | _ => rfl

theorem play_session (steps : List (Session.Step τ α)) (w : Watched σ τ α) :
    (w.play steps).session = w.session.play steps := by
  induction steps generalizing w with
  | nil => rfl
  | cons step rest ih =>
      rw [play, List.foldl_cons, ← play, ih, perform_session]
      rfl

/-! ### What a run keeps -/

section induction

variable {P : Watched σ τ α → Prop} (hdraw : ∀ frame w, P w → P (w.draw frame))
  (hnotify : ∀ now w, P w → P (w.notifyResize now))
  (hquiet : ∀ w session, session.surfaces = w.session.surfaces →
    session.controller.sizer = w.session.controller.sizer → P w → P { w with session := session })

include hdraw hnotify hquiet

/-- What drawing and measuring keep, and what only looks at the surfaces and the sizes, is kept by
every step. -/
theorem perform_keeps (step : Session.Step τ α) {w : Watched σ τ α} (hw : P w) :
    P (w.perform step) := by
  have hkept (hq : step.isQuiet = true) := Session.perform_of_isQuiet hq w.session
  cases step with
  | advance dt =>
      have hfold : ∀ (frame : Frame α) (tasks : List (Task τ)) (w : Watched σ τ α), P w →
          P (tasks.foldl (runTask frame) w) := by
        intro frame tasks
        induction tasks with
        | nil => exact fun _ hw => hw
        | cons task rest ih =>
            intro w hw
            apply ih
            cases task with
            | draw => exact hdraw frame w hw
            | other tag => exact hw
      exact hfold _ _ _ (hquiet _ _ rfl rfl hw)
  | draw frame => exact hdraw frame w hw
  | notifyResize now => exact hnotify now w hw
  | _ =>
      obtain ⟨hsurfaces, hsizer⟩ := hkept rfl
      exact hquiet w _ hsurfaces hsizer hw

theorem play_keeps (steps : List (Session.Step τ α)) {w : Watched σ τ α} (hw : P w) :
    P (w.play steps) := by
  induction steps generalizing w with
  | nil => exact hw
  | cons step rest ih => exact ih (perform_keeps hdraw hnotify hquiet step hw)

end induction

/-- The surfaces remember exactly what was drawn. -/
theorem play_surfaces (steps : List (Session.Step τ α)) {w : Watched σ τ α}
    (hw : w.session.surfaces = Recorder.drawAll w.drawings {}) :
    (w.play steps).session.surfaces = Recorder.drawAll (w.play steps).drawings {} := by
  refine play_keeps (P := fun w => w.session.surfaces = Recorder.drawAll w.drawings {})
    ?_ ?_ ?_ steps hw
  · intro frame w hw
    simp only [draw, Session.runTask, Recorder.drawAll_append, ← hw]
  · intro now w hw
    unfold notifyResize
    split_ifs with hm
    · simp only [Session.notifyResize, if_pos hm, Recorder.drawAll_append, ← hw]
    · exact hw
  · intro w session hsurfaces _ hw
    exact hsurfaces.trans hw

end Watched
end GlobeView
