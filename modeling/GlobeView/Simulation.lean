import GlobeView.HeatField
import GlobeView.Session

/-! # Simulation

A simulation mounts a globe on recording surfaces, runs a number of frames, plays a pointer script
after the first one and may feed the heat from data events.  Its summary tells what happened. -/

namespace GlobeView

open Scalar

/-- What the pointer does after the first frame. -/
structure Script (α : Type) where
  /-- A drag between two points. -/
  drag : Option (Vec2 α × Vec2 α) := none
  /-- Where the pointer rests afterwards. -/
  hover : Option (Vec2 α) := none
  /-- Whether it is released there. -/
  click : Bool := false
deriving DecidableEq, Repr

/-- The number of moves of a scripted drag. -/
def scriptedDragSteps : Nat := 8

/-- The pointer events of a script. -/
def Script.events {α : Type} [Scalar α] (s : Script α) : List (PointerEvent α) :=
  let drag := match s.drag with
    | some (start, finish) => dragGesture start finish scriptedDragSteps
    | none => []
  let rest := match s.hover with
    | some position => if s.click then [.move position, .up position] else [.move position]
    | none => []
  drag ++ rest

/-- A data event that adds heat at a frame. -/
structure HeatEvent (α : Type) where
  frame : Nat
  location : LatLon α
  amount : α
deriving DecidableEq, Repr

/-- Heat from data events, in place of the heat of the scene. -/
structure HeatScript (α : Type) where
  decay : α
  events : List (HeatEvent α)
deriving DecidableEq, Repr

/-- How to run a simulation. -/
structure SimOptions (α : Type) where
  frames : Nat
  dt : α
  container : ContainerSize α
  script : Script α := {}
  heat : Option (HeatScript α) := none
deriving DecidableEq, Repr

/-- 120 frames at 60 a second in a square container. -/
def SimOptions.default {α : Type} [Scalar α] : SimOptions α :=
  { frames := 120, dt := 1 / 60, container := ⟨600, 600⟩ }

/-- What happened in a simulation. -/
structure SimSummary (α : Type) where
  frames : Nat
  phi : α
  velocity : α
  display : α
  render : α
  /-- Outcomes over all frames. -/
  overlay : OverlayStats
  /-- Commands of the overlay drawn last. -/
  lastCommands : Nat
  /-- Tooltip of the hovered marker. -/
  hover : Option String
  /-- Labels of the clicked markers. -/
  clicked : List String
  /-- Number of logged events. -/
  events : Nat
  /-- Glows of each frame, while a heat script runs. -/
  glowTrace : List Nat
  /-- Number of heat points at the end. -/
  heatPoints : Nat
deriving DecidableEq, Repr

namespace HeatScript

variable {α : Type} [Scalar α]

/-- The field at a frame: it fades once per frame and then takes in the events of the frame. -/
def advance (s : HeatScript α) (frame : Nat) (field : HeatField α) : HeatField α :=
  let faded := if frame = 0 then field else field.step
  (s.events.filter (·.frame == frame)).foldl (fun f e => f.record e.location e.amount) faded

end HeatScript

/-- A running simulation. -/
structure Simulation (σ α : Type) where
  session : Session σ Empty α
  field : HeatField α
  clicked : List String := []
  glowTrace : List Nat := []

namespace Simulation

variable {σ α : Type} [Scalar α] [PhaseSource σ α]

/-- Shows the heat of a frame, if there is a heat script. -/
def feedHeat (heat : Option (HeatScript α)) (frame : Nat) (s : Simulation σ α) : Simulation σ α :=
  match heat with
  | none => s
  | some script =>
    let field := script.advance frame s.field
    let shown := (s.session.withController fun c => ((), c.setHeat field.toHeatPoints)).2
    { s with session := shown, field := field }

/-- Notes the glows of the frame just drawn, if there is a heat script. -/
def traceGlows (heat : Option (HeatScript α)) (s : Simulation σ α) : Simulation σ α :=
  match heat with
  | none => s
  | some _ =>
    let glows := match s.session.surfaces.overlay.lastOverlay with
      | some frame => frame.stats.glows
      | none => 0
    { s with glowTrace := s.glowTrace ++ [glows] }

/-- Plays one pointer event and notes a click. -/
def play (s : Simulation σ α) (event : PointerEvent α) : Simulation σ α :=
  let (clicked, session) := s.session.handle event
  { s with session := session, clicked := s.clicked ++ clicked.toList.map Marker.label }

/-- One frame of a simulation. -/
def frame (opts : SimOptions α) (s : Simulation σ α) (index : Nat) : Simulation σ α :=
  let fed := s.feedHeat opts.heat index
  let drawn := { fed with session := (fed.session.advance opts.dt).2 }.traceGlows opts.heat
  if index = 0 then opts.script.events.foldl play drawn else drawn

/-- The scene, mounted and not yet drawn. -/
def start (scene : Scene α) (config : Config α) (source : σ) (opts : SimOptions α) :
    Simulation σ α where
  session := .mount ((Controller.create config source).setScene scene) opts.container
    (.startingAt 0) 0
  field := .ofDecay (match opts.heat with
    | some script => script.decay
    | none => 0)

/-- Reads the summary off a simulation. -/
def summary (s : Simulation σ α) : SimSummary α :=
  let c := s.session.controller
  { frames := c.metrics.counter "frames"
    phi := c.rotation.phi
    velocity := c.rotation.velocity
    display := c.surfaceSize.display
    render := c.surfaceSize.render
    overlay :=
      { glows := c.metrics.counter "overlay.glows"
        arcs := c.metrics.counter "overlay.arcs"
        degenerate := c.metrics.counter "overlay.skipped_degenerate"
        hidden := c.metrics.counter "overlay.skipped_hidden" }
    lastCommands := match s.session.surfaces.overlay.lastOverlay with
      | some frame => frame.commands.length
      | none => 0
    hover := c.hover.bind (·.marker.tooltip)
    clicked := s.clicked
    events := c.log.entries.length
    glowTrace := s.glowTrace
    heatPoints := c.scene.heat.length }

/-- Runs a simulation of a scene with marker phases from `source`. -/
def run (scene : Scene α) (config : Config α) (source : σ) (opts : SimOptions α) : SimSummary α :=
  ((List.range opts.frames).foldl (frame opts) (start scene config source opts)).summary

end Simulation
end GlobeView
