import GlobeView.Scalar

/-! # Configuration

Every tunable of a globe, its colours among them, its default, and the ranges that a configuration
has to keep.
`Config.check` names the first violated range, in a fixed order. -/

namespace GlobeView

open Scalar

/-- A colour with straight alpha. -/
structure Rgba (α : Type) where
  r : UInt8
  g : UInt8
  b : UInt8
  a : α
deriving DecidableEq, Repr

namespace Rgba

variable {α : Type} [Scalar α]

/-- No paint at all. -/
def transparent : Rgba α := ⟨0, 0, 0, 0⟩

/-- The same hue with another alpha. -/
def withAlpha (c : Rgba α) (a : α) : Rgba α := { c with a := a }

/-- The alpha that is painted: the given one held in `[0, 1]`. -/
def opacity (c : Rgba α) : α := Scalar.clamp c.a 0 1

end Rgba

/-- How the size of the globe follows from the sides of its container. -/
inductive SizingMode where
  /-- The smaller side: the globe fits. -/
  | fit
  /-- The larger side: the globe may overflow. -/
  | cover
deriving DecidableEq, Repr

/-- Paints and sizes of what is drawn over the sphere. -/
structure OverlayColors (α : Type) where
  arc : Rgba α
  arcWidth : α
  particle : Rgba α
  particleRadius : α
  /-- Middle of a glow, at full intensity. -/
  heatCore : Rgba α
  /-- Halfway out of a glow, at full intensity. -/
  heatMid : Rgba α
deriving DecidableEq, Repr

/-- The tunables of a globe. -/
structure Config (α : Type) where
  /-- Factor between the base size and the displayed size. -/
  scale : α
  sizingMode : SizingMode
  /-- Greatest side of the drawing buffer, in pixels. -/
  renderCap : α
  /-- Base size while the container cannot be measured. -/
  fallbackSize : α
  /-- Tilt about the screen's x axis, in radians. -/
  theta : α
  initialPhi : α
  /-- Factor on the velocity at every coasting tick. -/
  damping : α
  /-- Least velocity of the idle globe, in radians per tick. -/
  minVelocity : α
  /-- Radians of yaw per display pixel of drag. -/
  dragSensitivity : α
  /-- Seconds between a resize and the second measurement. -/
  settleDelay : α
  /-- Milliseconds a particle takes along its arc. -/
  particlePeriod : α
  /-- Milliseconds by which a particle is ahead of the one before it. -/
  particlePhaseStep : α
  /-- Bow of an arc, as a fraction of its chord. -/
  arcCurvature : α
  /-- Arcs are drawn while both ends are less deep than this. -/
  limbThreshold : α
  /-- Radius of a full glow, as a fraction of the drawing width. -/
  heatRadiusFactor : α
  minHitRadius : α
  hitSizeFactor : α
  colors : OverlayColors α
deriving DecidableEq, Repr

/-- What a range asks of a value. -/
inductive Expected where
  | positive
  | unitInterval
  | nonNegative
  | finite
deriving DecidableEq, Repr

/-- A field whose value is outside its range. -/
structure RangeError (α : Type) where
  field : String
  expected : Expected
  value : α
deriving DecidableEq, Repr

/-- The range in words. -/
def Expected.text : Expected → String
  | .positive => "positive"
  | .unitInterval => "in (0, 1]"
  | .nonNegative => "non-negative"
  | .finite => "finite"

namespace Expected

variable {α : Type} [Scalar α]

/-- Whether a value is in the range.  An undefined value is in none. -/
def holds : Expected → α → Bool
  | .positive, v => 0 < v && isFinite v
  | .unitInterval, v => 0 < v && v ≤ 1
  | .nonNegative, v => 0 ≤ v && isFinite v
  | .finite, v => isFinite v

end Expected

namespace OverlayColors

variable {α : Type} [Scalar α]

def default : OverlayColors α where
  arc := ⟨96, 200, 255, 0.6⟩
  arcWidth := 1.5
  particle := ⟨220, 245, 255, 0.95⟩
  particleRadius := 2.5
  heatCore := ⟨255, 120, 60, 0.65⟩
  heatMid := ⟨255, 60, 20, 0.3⟩

end OverlayColors

namespace Config

variable {α : Type} [Scalar α]

def default : Config α where
  scale := 1
  sizingMode := .fit
  renderCap := 1000
  fallbackSize := 300
  theta := 0.3
  initialPhi := 0
  damping := 0.95
  minVelocity := 0.003
  dragSensitivity := 0.005
  settleDelay := 0.15
  particlePeriod := 2000
  particlePhaseStep := 100
  arcCurvature := 0.3
  limbThreshold := -(0.5)
  heatRadiusFactor := 0.1
  minHitRadius := 10
  hitSizeFactor := 200
  colors := .default

/-- The ranges of the fields, in the order in which they are checked. -/
def ranges (c : Config α) : List (String × Expected × α) :=
  [("scale", .positive, c.scale),
   ("render_cap", .positive, c.renderCap),
   ("fallback_size", .positive, c.fallbackSize),
   ("particle_period_ms", .positive, c.particlePeriod),
   ("damping", .unitInterval, c.damping),
   ("min_velocity", .nonNegative, c.minVelocity),
   ("settle_delay_s", .nonNegative, c.settleDelay),
   ("heat_radius_factor", .nonNegative, c.heatRadiusFactor),
   ("min_hit_radius_px", .nonNegative, c.minHitRadius),
   ("hit_size_factor", .nonNegative, c.hitSizeFactor),
   ("theta", .finite, c.theta),
   ("initial_phi", .finite, c.initialPhi),
   ("drag_sensitivity", .finite, c.dragSensitivity)]

/-- The first field outside its range. -/
def violation? (c : Config α) : Option (RangeError α) :=
  c.ranges.findSome? fun (field, expected, value) =>
    if expected.holds value then none else some ⟨field, expected, value⟩

/-- Accepts a configuration whose fields are all in range. -/
def check (c : Config α) : Except (RangeError α) Unit :=
  match c.violation? with
  | some e => .error e
  | none => .ok ()

end Config
end GlobeView
