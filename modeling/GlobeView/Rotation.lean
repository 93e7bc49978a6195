import GlobeView.Config

/-! # Rotation

The globe turns about its axis only.  Left alone it coasts: its velocity is damped at every tick
and never falls below a floor, so it keeps turning.  While it is dragged the pointer moves it and
ticks leave it alone; released, it coasts on with the velocity of the last move. -/

namespace GlobeView

open Scalar

/-- How the globe is turned, and how it turns. -/
structure Rotation (α : Type) where
  /-- Yaw, in radians. -/
  phi : α
  /-- Tilt, in radians. -/
  theta : α
  /-- Radians per tick. -/
  velocity : α
  isDragging : Bool
deriving DecidableEq, Repr

/-- The constants of the motion. -/
structure Spin (α : Type) where
  damping : α
  minVelocity : α
  dragSensitivity : α
deriving DecidableEq, Repr

namespace Spin

variable {α : Type} [Scalar α]

def ofConfig (cfg : Config α) : Spin α where
  damping := cfg.damping
  minVelocity := cfg.minVelocity
  dragSensitivity := cfg.dragSensitivity

/-- The velocity after one more coasting tick. -/
def coast (s : Spin α) (velocity : α) : α :=
  let damped := velocity * s.damping
  if abs damped < s.minVelocity then s.minVelocity else damped

end Spin

namespace Rotation

variable {α : Type} [Scalar α]

/-- A globe at rest. -/
def atRest (phi theta : α) : Rotation α := ⟨phi, theta, 0, false⟩

/-- One tick. -/
def tick (s : Spin α) (r : Rotation α) : Rotation α :=
  if r.isDragging then r
  else
    let velocity := s.coast r.velocity
    { r with velocity := velocity, phi := r.phi + velocity }

/-- The pointer takes hold of the globe. -/
def dragStart (r : Rotation α) : Rotation α := { r with isDragging := true, velocity := 0 }

/-- The pointer moves the held globe by so many display pixels. -/
def dragMove (s : Spin α) (dx : α) (r : Rotation α) : Rotation α :=
  if r.isDragging then
    let velocity := dx * s.dragSensitivity
    { r with velocity := velocity, phi := r.phi + velocity }
  else r

/-- The pointer lets go. -/
def dragEnd (r : Rotation α) : Rotation α := { r with isDragging := false }

end Rotation
end GlobeView
