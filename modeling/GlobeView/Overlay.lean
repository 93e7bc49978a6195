import GlobeView.Projection
import GlobeView.Scene
import GlobeView.Config

/-! # The overlay

Heat glows and connection arcs are drawn over the sphere.  A connection is drawn as a quadratic curve
whose control point is bowed off the middle of its chord, and a particle travels along it, over and
over.

A frame of the overlay is a list of drawing commands: it clears the square, paints the glows with
additive blending and then, blending normally again, each arc followed by its particle.
`Renderer.glow` and `Renderer.arc` say what becomes of one heat point and of one connection;
`Renderer.render` goes through both lists, adds the commands of each element to a draft of the frame
and counts what became of it. -/

namespace GlobeView

open Scalar

/-! ### Arcs -/

section
variable {α : Type} [Scalar α]

/-- The point at parameter `t` of the quadratic curve with the given control point. -/
def quadraticPoint (start control finish : Vec2 α) (t : α) : Vec2 α :=
  let u := 1 - t
  ⟨u * u * start.x + 2 * u * t * control.x + t * t * finish.x,
   u * u * start.y + 2 * u * t * control.y + t * t * finish.y⟩

/-- The control point off the middle of a chord by `curvature` times its length; there is none for
a chord without direction. -/
def arcControl? (start finish : Vec2 α) (curvature : α) : Option (Vec2 α) :=
  let chord := finish - start
  chord.unitPerp?.map fun normal =>
    start.midpoint finish + normal.scale (chord.length * curvature)

/-- How far along its arc the particle of connection `index` is: the part of its period that has
passed. -/
def particleProgress (elapsed : α) (index : Nat) (period phaseStep : α) : α :=
  if period ≤ 0 then 0 else modulo (elapsed + ofNat index * phaseStep) period / period

end

/-! ### Commands -/

/-- How paint meets what is already there. -/
inductive BlendMode where
  /-- Paint covers. -/
  | sourceOver
  /-- Paint adds up. -/
  | lighter
deriving DecidableEq, Repr

/-- The name of a blend mode. -/
def BlendMode.name : BlendMode → String
  | .sourceOver => "source-over"
  | .lighter => "lighter"

/-- A colour at a place of a gradient. -/
structure GradientStop (α : Type) where
  offset : α
  color : Rgba α
deriving DecidableEq, Repr

/-- One drawing command. -/
inductive OverlayCommand (α : Type) where
  /-- Clears a square. -/
  | clear (width : α)
  | setBlend (mode : BlendMode)
  | glow (center : Vec2 α) (radius : α) (stops : List (GradientStop α))
  | arc (start control finish : Vec2 α) (color : Rgba α) (lineWidth : α)
  | particle (center : Vec2 α) (radius : α) (color : Rgba α)
deriving DecidableEq, Repr

/-- What became of the elements of a frame. -/
structure OverlayStats where
  glows : Nat := 0
  arcs : Nat := 0
  /-- Chords without direction and glows below a pixel. -/
  degenerate : Nat := 0
  /-- Heat on the far side and connections with an end behind the limb. -/
  hidden : Nat := 0
deriving DecidableEq, Repr

namespace OverlayStats

def countGlow (s : OverlayStats) : OverlayStats := { s with glows := s.glows + 1 }

def countArc (s : OverlayStats) : OverlayStats := { s with arcs := s.arcs + 1 }

def countDegenerate (s : OverlayStats) : OverlayStats := { s with degenerate := s.degenerate + 1 }

def countHidden (s : OverlayStats) : OverlayStats := { s with hidden := s.hidden + 1 }

end OverlayStats

/-- A frame of the overlay. -/
structure OverlayFrame (α : Type) where
  commands : List (OverlayCommand α) := []
  stats : OverlayStats := {}
deriving DecidableEq, Repr

/-- What becomes of one element. -/
inductive Outcome (α : Type) where
  | drawn (commands : List (OverlayCommand α))
  | degenerate
  | hidden
deriving DecidableEq, Repr

namespace Outcome

variable {α : Type}

/-- What is drawn. -/
def commands : Outcome α → List (OverlayCommand α)
  | .drawn cs => cs
  | _ => []

def isDrawn : Outcome α → Bool
  | .drawn _ => true
  | _ => false

def isDegenerate : Outcome α → Bool
  | .degenerate => true
  | _ => false

def isHidden : Outcome α → Bool
  | .hidden => true
  | _ => false

end Outcome

/-- A frame in the making: the commands so far, the last one first, and the counts so far. -/
structure OverlayDraft (α : Type) where
  commands : List (OverlayCommand α) := []
  stats : OverlayStats := {}
deriving DecidableEq, Repr

namespace OverlayDraft

variable {α : Type}

/-- One more command. -/
def push (d : OverlayDraft α) (cmd : OverlayCommand α) : OverlayDraft α :=
  { d with commands := cmd :: d.commands }

/-- One more element, which `count` counts if it is drawn. -/
def add (count : OverlayStats → OverlayStats) (d : OverlayDraft α) : Outcome α → OverlayDraft α
  | .drawn commands => { commands := commands.reverse ++ d.commands, stats := count d.stats }
  | .degenerate => { d with stats := d.stats.countDegenerate }
  | .hidden => { d with stats := d.stats.countHidden }

/-- The finished frame. -/
def frame (d : OverlayDraft α) : OverlayFrame α :=
  { commands := d.commands.reverse, stats := d.stats }

end OverlayDraft

/-- The tunables of the overlay. -/
structure Renderer (α : Type) where
  colors : OverlayColors α
  heatRadiusFactor : α
  arcCurvature : α
  limbThreshold : α
  particlePeriod : α
  particlePhaseStep : α
deriving DecidableEq, Repr

namespace Renderer

variable {α : Type} [Scalar α]

def ofConfig (cfg : Config α) : Renderer α where
  colors := cfg.colors
  heatRadiusFactor := cfg.heatRadiusFactor
  arcCurvature := cfg.arcCurvature
  limbThreshold := cfg.limbThreshold
  particlePeriod := cfg.particlePeriod
  particlePhaseStep := cfg.particlePhaseStep

/-- The gradient of a glow: the alpha of its two inner stops grows with the intensity. -/
def glowStops (r : Renderer α) (intensity : α) : List (GradientStop α) :=
  let core := r.colors.heatCore
  let mid := r.colors.heatMid
  [⟨0, core.withAlpha (core.a * intensity)⟩,
   ⟨0.5, mid.withAlpha (mid.a * intensity)⟩,
   ⟨1, .transparent⟩]

/-- What becomes of a heat point. -/
def glow (r : Renderer α) (view : View α) (point : HeatPoint α) : Outcome α :=
  let p := view.project point.location
  if p.isFront then
    let intensity := point.intensity
    let radius := intensity * view.width * r.heatRadiusFactor
    if round radius < 1 then .degenerate
    else .drawn [.glow p.point radius (r.glowStops intensity)]
  else .hidden

/-- What becomes of the connection at place `index` of its list. -/
def arc (r : Renderer α) (view : View α) (elapsed : α) (index : Nat) (c : Connection α) :
    Outcome α :=
  let a := view.project c.start
  let b := view.project c.finish
  if a.isNearFront r.limbThreshold && b.isNearFront r.limbThreshold then
    match arcControl? a.point b.point r.arcCurvature with
    | none => .degenerate
    | some control =>
      let t := particleProgress elapsed index r.particlePeriod r.particlePhaseStep
      .drawn
        [.arc a.point control b.point r.colors.arc r.colors.arcWidth,
         .particle (quadraticPoint a.point control b.point t) r.colors.particleRadius
           r.colors.particle]
  else .hidden

/-- The glows of all heat points, between two changes of the blend mode; without heat there is
nothing to do. -/
def heatPass (r : Renderer α) (view : View α) (heat : List (HeatPoint α)) (d : OverlayDraft α) :
    OverlayDraft α :=
  if heat.isEmpty then d
  else
    let glowing := heat.foldl (fun d point => d.add .countGlow (r.glow view point))
      (d.push (.setBlend .lighter))
    glowing.push (.setBlend .sourceOver)

/-- The arcs of all connections, each one with its place in the list. -/
def arcPass (r : Renderer α) (view : View α) (connections : List (Connection α)) (elapsed : α)
    (d : OverlayDraft α) : OverlayDraft α :=
  connections.zipIdx.foldl (fun d (c, index) => d.add .countArc (r.arc view elapsed index c)) d

/-- The overlay of a view at `elapsed` milliseconds into the session. -/
def render (r : Renderer α) (view : View α) (connections : List (Connection α))
    (heat : List (HeatPoint α)) (elapsed : α) : OverlayFrame α :=
  let cleared : OverlayDraft α := { commands := [.clear view.width] }
  (r.arcPass view connections elapsed (r.heatPass view heat cleared)).frame

end Renderer
end GlobeView
