import GlobeView.Vector

/-! # The orthographic view

A location is a latitude and a longitude in degrees.  `LatLon.onSphere` is its place on the unit
sphere once the globe has been turned by a yaw: `y` points to the north pole and, without yaw, `z`
points through the prime meridian to the viewer and `x` through 90 degrees east.

A `View` looks at the unit sphere, yawed by `phi` and tilted by `theta`, from infinitely far away and
draws it inscribed in a square of side `width`.  Drawing and picking both go through `View.project`. -/

namespace GlobeView

open Scalar

/-- A location, in degrees. -/
structure LatLon (α : Type) where
  lat : α
  lon : α
deriving DecidableEq, Repr

namespace LatLon

variable {α : Type} [Scalar α]

/-- Two locations are the same when both coordinates test equal. -/
instance : BEq (LatLon α) := ⟨fun a b => a.lat == b.lat && a.lon == b.lon⟩

/-- The latitude in radians. -/
def latRadians (p : LatLon α) : α := radians p.lat

/-- The longitude in radians. -/
def lonRadians (p : LatLon α) : α := radians p.lon

/-- The place on the unit sphere of a globe yawed by `phi` radians. -/
def onSphere (p : LatLon α) (phi : α) : Vec3 α :=
  let lat := p.latRadians
  let azimuth := p.lonRadians + phi
  let ring := cos lat
  ⟨ring * sin azimuth, sin lat, ring * cos azimuth⟩

end LatLon

/-- A point of the drawing square with its depth: positive depths face the viewer. -/
structure Projected (α : Type) where
  x : α
  y : α
  z : α
deriving DecidableEq, Repr

namespace Projected

variable {α : Type} [Scalar α]

/-- The point without its depth. -/
def point (p : Projected α) : Vec2 α := ⟨p.x, p.y⟩

/-- Strictly on the near side. -/
def isFront (p : Projected α) : Bool := 0 < p.z

/-- On the near side, or at most `threshold` past the limb. -/
def isNearFront (p : Projected α) (threshold : α) : Bool := threshold < p.z

end Projected

/-- Yaw and tilt in radians, and the side of the drawing square. -/
structure View (α : Type) where
  phi : α
  theta : α
  width : α
deriving DecidableEq, Repr

namespace View

variable {α : Type} [Scalar α]

/-- Where a location appears. -/
def project (v : View α) (location : LatLon α) : Projected α :=
  let r := v.width / 2
  let p := location.onSphere v.phi
  let tilted := p.rotateX v.theta
  ⟨r + p.x * r, r - tilted.y * r, tilted.z⟩

end View
end GlobeView
