import GlobeView.Breathing
import GlobeView.EventLog
import GlobeView.Frame
import GlobeView.Interaction
import GlobeView.Metrics
import GlobeView.Overlay
import GlobeView.Picking
import GlobeView.Pointer
import GlobeView.Rotation

/-! # The controller

All state of a mounted globe is a `Controller`.  It changes by a tick at every frame, by pointer
events, by measurements of the container and by new data, each a function from a controller to the
next one.

* A tick turns the globe and builds both layers of the frame.
* Pressing starts a drag, moving turns the held globe or looks for a marker, releasing ends the drag
  and clicks the marker under the pointer.
* The hovered marker is looked for again whenever the markers are replaced, unless the globe is
  held. -/

namespace GlobeView

open Scalar

/-- What the sphere shows in one frame. -/
structure SphereFrame (α : Type) where
  phi : α
  theta : α
  /-- Side of the drawing buffer. -/
  width : α
  markers : List (AnimatedMarker α)
deriving DecidableEq, Repr

/-- Both layers of one frame. -/
structure FrameOutput (α : Type) where
  sphere : SphereFrame α
  overlay : OverlayFrame α
deriving DecidableEq, Repr

/-- A mounted globe whose marker phases come from a source of type `σ`. -/
structure Controller (σ α : Type) where
  config : Config α
  rotation : Rotation α
  sizer : Sizer α
  phases : Phases σ α
  scene : Scene α := .empty
  hover : Option (MarkerHit α) := none
  /-- Where the pointer was last seen, in display coordinates. -/
  pointer : Option (Vec2 α) := none
  /-- The name of the installed click handler. -/
  clickHandler : Option String := none
  /-- What click handlers were called with, the oldest call first. -/
  handlerCalls : List (String × Marker α) := []
  /-- Time of the first tick. -/
  startedAt : Option α := none
  log : EventLog (Interaction α)
  metrics : Metrics α := .empty

/-- How many events a controller keeps. -/
def eventLimit : Nat := 1024

namespace Controller

variable {σ α : Type} [Scalar α]

/-- A globe that nothing has happened to yet. -/
def create (config : Config α) (source : σ) : Controller σ α where
  config := config
  rotation := .atRest config.initialPhi config.theta
  sizer := .ofConfig config
  phases := .ofSource source
  log := .bounded eventLimit

/-- The constants of the motion. -/
def spin (c : Controller σ α) : Spin α := .ofConfig c.config

/-- The tunables of the overlay. -/
def renderer (c : Controller σ α) : Renderer α := .ofConfig c.config

def hitOptions (c : Controller σ α) : HitOptions α := .ofConfig c.config

/-- The current sizes. -/
def surfaceSize (c : Controller σ α) : SurfaceSize α := c.sizer.size

/-- Logs an interaction against the current frame. -/
def emit (e : Interaction α) (c : Controller σ α) : Controller σ α :=
  { c with log := c.log.emitNow e }

/-! ### Hovering and hitting -/

/-- The marker under a pointer in display coordinates. -/
def hitTest (position : Vec2 α) (c : Controller σ α) : Option (MarkerHit α) :=
  GlobeView.hitTest c.scene.markers position c.rotation.phi c.rotation.theta c.surfaceSize
    c.hitOptions

/-- The interaction of a hover that goes over to `hit`. -/
def hoverInteraction : Option (MarkerHit α) → Interaction α
  | some h => .hovered h.index
  | none => .unhovered

/-- Makes `hit` the hovered marker.  It is logged when its place in the list is another. -/
def setHover (hit : Option (MarkerHit α)) (c : Controller σ α) : Controller σ α :=
  let logged :=
    if c.hover.map (·.index) = hit.map (·.index) then c else c.emit (hoverInteraction hit)
  { logged with hover := hit }

/-- Hovers whatever is under a position. -/
def updateHover (position : Vec2 α) (c : Controller σ α) : Controller σ α :=
  c.setHover (c.hitTest position)

/-- Looks for the hovered marker among new markers.  Without a free pointer, a hover whose place is
beyond the end of the list is dropped. -/
def refreshHover (c : Controller σ α) : Controller σ α :=
  let prune : Controller σ α :=
    match c.hover with
    | some h => if c.scene.markers.length ≤ h.index then c.setHover none else c
    | none => c
  match c.pointer with
  | some position => if c.rotation.isDragging then prune else c.updateHover position
  | none => prune

/-! ### Data -/

def setScene (scene : Scene α) (c : Controller σ α) : Controller σ α :=
  { c with scene := scene }.refreshHover

def setMarkers (markers : List (Marker α)) (c : Controller σ α) : Controller σ α :=
  { c with scene := { c.scene with markers := markers } }.refreshHover

def setConnections (connections : List (Connection α)) (c : Controller σ α) : Controller σ α :=
  { c with scene := { c.scene with connections := connections } }

def setHeat (heat : List (HeatPoint α)) (c : Controller σ α) : Controller σ α :=
  { c with scene := { c.scene with heat := heat } }

/-! ### Size -/

/-- Logs new sizes, if there are any. -/
def emitSize (event : SurfaceSize α → Interaction α) (changed : Option (SurfaceSize α))
    (c : Controller σ α) : Controller σ α :=
  match changed with
  | some size => c.emit (event size)
  | none => c

/-- The container was resized.  Answers new sizes, if they changed. -/
def resize (container : ContainerSize α) (now : α) (c : Controller σ α) :
    Option (SurfaceSize α) × Controller σ α :=
  let (changed, sizer) := c.sizer.observe container now
  (changed, { c with sizer := sizer }.emitSize .resized changed)

/-- Whether the second measurement is due; true once per resize. -/
def settleDue (now : α) (c : Controller σ α) : Bool × Controller σ α :=
  let (due, sizer) := c.sizer.takeDue now
  (due, { c with sizer := sizer })

/-- The second measurement.  Answers new sizes, if they changed. -/
def settle (container : ContainerSize α) (now : α) (c : Controller σ α) :
    Option (SurfaceSize α) × Controller σ α :=
  let (changed, sizer) := c.sizer.settle container now
  (changed, { c with sizer := sizer }.emitSize .settled changed)

/-! ### Frames -/

/-- The metrics after a frame with the given overlay. -/
def recordFrame (overlay : OverlayFrame α) (rotation : Rotation α) (m : Metrics α) : Metrics α :=
  m |>.incCounter "frames" 1
    |>.incCounter "overlay.glows" overlay.stats.glows
    |>.incCounter "overlay.arcs" overlay.stats.arcs
    |>.incCounter "overlay.skipped_degenerate" overlay.stats.degenerate
    |>.incCounter "overlay.skipped_hidden" overlay.stats.hidden
    |>.record "overlay.commands" overlay.commands.length
    |>.setGauge "rotation.phi" rotation.phi
    |>.setGauge "rotation.velocity" rotation.velocity

/-- Seconds from the first tick to a frame; time never runs backwards past it. -/
def elapsed (frame : Frame α) (c : Controller σ α) : α :=
  Scalar.max (frame.time - c.startedAt.getD frame.time) 0

/-- One tick: turns the globe and builds both layers. -/
def tick [PhaseSource σ α] (frame : Frame α) (c : Controller σ α) :
    FrameOutput α × Controller σ α :=
  let elapsed := c.elapsed frame
  let rotation := c.rotation.tick c.spin
  let view : View α := ⟨rotation.phi, rotation.theta, c.surfaceSize.render⟩
  let (markers, phases) := c.phases.animate elapsed c.scene.markers
  let overlay := c.renderer.render view c.scene.connections c.scene.heat (millis elapsed)
  (⟨⟨view.phi, view.theta, view.width, markers⟩, overlay⟩,
    { c with
      rotation := rotation
      phases := phases
      startedAt := some (c.startedAt.getD frame.time)
      log := c.log.setFrame frame.index
      metrics := recordFrame overlay rotation c.metrics })

/-! ### Pointer -/

/-- The pointer is pressed: the globe is held. -/
def pointerDown (position : Vec2 α) (c : Controller σ α) : Controller σ α :=
  { c with pointer := some position, rotation := c.rotation.dragStart }.emit .dragStarted

/-- The pointer moves: it turns the held globe, or hovers. -/
def pointerMove (position : Vec2 α) (c : Controller σ α) : Controller σ α :=
  let moved := { c with pointer := some position }
  if c.rotation.isDragging then
    let dx := match c.pointer with
      | some before => position.x - before.x
      | none => 0
    { moved with rotation := c.rotation.dragMove c.spin dx }
  else moved.updateHover position

/-- Ends a drag, if there is one, and logs how. -/
def endDrag (event : Interaction α) (c : Controller σ α) : Controller σ α :=
  if c.rotation.isDragging then { c with rotation := c.rotation.dragEnd }.emit event else c

/-- A click on a marker: it is counted, logged and told to the handler. -/
def click (marker : Marker α) (c : Controller σ α) : Controller σ α :=
  let counted := { c with metrics := c.metrics.incCounter "clicks" 1 }.emit (.clicked marker.label)
  match c.clickHandler with
  | some handler => { counted with handlerCalls := c.handlerCalls ++ [(handler, marker)] }
  | none => counted

/-- The pointer is released: the drag ends, and the marker under the pointer is clicked. -/
def pointerUp (position : Vec2 α) (c : Controller σ α) : Option (Marker α) × Controller σ α :=
  let released :=
    ({ c with pointer := some position }.endDrag (.dragEnded c.rotation.velocity)).updateHover
      position
  match released.hover with
  | some hit => (some hit.marker, released.click hit.marker)
  | none => (none, released)

/-- The pointer leaves the globe. -/
def pointerLeave (c : Controller σ α) : Controller σ α :=
  ({ c with pointer := none }.endDrag .dragCancelled).setHover none

/-- Handles one pointer event.  Answers the clicked marker. -/
def handle (event : PointerEvent α) (c : Controller σ α) : Option (Marker α) × Controller σ α :=
  match event with
  | .down position => (none, c.pointerDown position)
  | .move position => (none, c.pointerMove position)
  | .up position => c.pointerUp position
  | .leave => (none, c.pointerLeave)

/-- Handles events in order.  Answers the clicked markers. -/
def handleAll : List (PointerEvent α) → Controller σ α → List (Marker α) × Controller σ α
  | [], c => ([], c)
  | e :: rest, c =>
    let (clicked, c) := c.handle e
    let (more, c) := handleAll rest c
    (clicked.toList ++ more, c)

/-- Handles everything in a queue and leaves it empty. -/
def drain (queue : PointerQueue α) (c : Controller σ α) :
    (List (Marker α) × PointerQueue α) × Controller σ α :=
  let (clicked, c) := c.handleAll queue.events
  ((clicked, .empty), c)

/-- Installs a click handler. -/
def onClick (handler : String) (c : Controller σ α) : Controller σ α :=
  { c with clickHandler := some handler }

/-- Takes the logged events out. -/
def drainEvents (c : Controller σ α) : List (Logged (Interaction α)) × Controller σ α :=
  let (events, log) := c.log.drain
  (events, { c with log := log })

end Controller
end GlobeView
