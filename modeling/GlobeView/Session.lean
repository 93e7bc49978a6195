import GlobeView.StepClock
import GlobeView.Surface

/-! # Sessions

A session is a globe mounted in a container, drawn on recording surfaces and driven by a clock that
is stepped by hand.  While it is mounted every frame of the clock draws the globe.  Unmounting takes
the globe off the clock and disconnects the watch on the container; it can be done any number of
times. -/

namespace GlobeView

/-- What a clock runs at a frame: the drawing of the globe, or a callback of somebody else. -/
inductive Task (τ : Type) where
  | draw
  | other (tag : τ)
deriving DecidableEq, Repr

/-- A mounted globe and its host. -/
structure Session (σ τ α : Type) where
  controller : Controller σ α
  surfaces : Recorder α := {}
  container : ContainerSize α
  clock : StepClock (Task τ) α
  /-- The globe's own callback, while it is mounted. -/
  callback : Option Nat
  /-- Whether a watch on the container is attached. -/
  isWatching : Bool := false
  /-- How often a watch was disconnected. -/
  disconnects : Nat := 0

namespace Session

variable {σ τ α : Type} [Scalar α]

/-- Measures the container, sizes the surfaces and puts the globe on the clock. -/
def mount (controller : Controller σ α) (container : ContainerSize α)
    (clock : StepClock (Task τ) α) (now : α) : Session σ τ α :=
  let (steps, controller) := controller.mount container now
  let (id, clock) := clock.register .draw
  { controller := controller
    surfaces := Recorder.drawAll steps {}
    container := container
    clock := clock
    callback := some id }

/-- Attaches a watch on the container. -/
def withWatch (s : Session σ τ α) : Session σ τ α := { s with isWatching := true }

def isMounted (s : Session σ τ α) : Bool := s.callback.isSome

/-- Changes what the container measures. -/
def setContainer (container : ContainerSize α) (s : Session σ τ α) : Session σ τ α :=
  { s with container := container }

/-- Runs one task of a frame. -/
def runTask [PhaseSource σ α] (frame : Frame α) (s : Session σ τ α) : Task τ → Session σ τ α
  | .draw =>
    let (steps, controller) := s.controller.drawFrame s.container frame
    { s with controller := controller, surfaces := s.surfaces.drawAll steps }
  | .other _ => s

/-- Steps the clock and runs the tasks of the frame.  Answers the frame and the foreign callbacks
that ran with it. -/
def advance [PhaseSource σ α] (dt : α) (s : Session σ τ α) :
    (Frame α × List (τ × Frame α)) × Session σ τ α :=
  let ((frame, tasks), clock) := s.clock.advance dt
  let ran := (tasks.map (·.2)).foldl (runTask frame) { s with clock := clock }
  let calls := tasks.filterMap fun
    | (_, .other tag) => some (tag, frame)
    | (_, .draw) => none
  ((frame, calls), ran)

/-- Steps the clock `count` times.  Answers the last frame and all foreign calls. -/
def run [PhaseSource σ α] (dt : α) :
    Nat → Session σ τ α → (Option (Frame α) × List (τ × Frame α)) × Session σ τ α
  | 0, s => ((none, []), s)
  | count + 1, s =>
    let ((frame, calls), s) := s.advance dt
    let ((last, more), s) := s.run dt count
    ((some (last.getD frame), calls ++ more), s)

/-- Puts a foreign callback on the clock. -/
def register (tag : τ) (s : Session σ τ α) : Nat × Session σ τ α :=
  let (id, clock) := s.clock.register (.other tag)
  (id, { s with clock := clock })

/-- The container reports a new size; a session that is not mounted does not listen. -/
def notifyResize (now : α) (s : Session σ τ α) : Option (SurfaceSize α) × Session σ τ α :=
  if s.isMounted then
    let ((changed, steps), controller) := s.controller.containerResized s.container now
    (changed, { s with controller := controller, surfaces := s.surfaces.drawAll steps })
  else (none, s)

/-- Forwards a pointer event; a session that is not mounted does not listen. -/
def handle (event : PointerEvent α) (s : Session σ τ α) : Option (Marker α) × Session σ τ α :=
  if s.isMounted then
    let (clicked, controller) := s.controller.handle event
    (clicked, { s with controller := controller })
  else (none, s)

/-- Does something to the controller, mounted or not. -/
def withController {β : Type} (f : Controller σ α → β × Controller σ α) (s : Session σ τ α) :
    β × Session σ τ α :=
  let (answer, controller) := f s.controller
  (answer, { s with controller := controller })

/-- Takes the globe off the clock. -/
def cancelFrames (s : Session σ τ α) : Session σ τ α :=
  match s.callback with
  | some id => { s with clock := (s.clock.unregister id).2, callback := none }
  | none => s

/-- Disconnects the watch, if there is one. -/
def disconnectWatch (s : Session σ τ α) : Session σ τ α :=
  if s.isWatching then { s with isWatching := false, disconnects := s.disconnects + 1 } else s

/-- Takes the globe off the clock and disconnects the watch. -/
def unmount (s : Session σ τ α) : Session σ τ α := s.cancelFrames.disconnectWatch

/-- The end of a session unmounts it. -/
def drop (s : Session σ τ α) : Session σ τ α := s.unmount

end Session
end GlobeView
