import GlobeView.Surface

/-! # Painting on a canvas

A frame becomes steps on the drawing context of a canvas.  The sphere is a disc with a limb, a
pattern of dots and its markers; the overlay follows its commands one by one.

A context refuses two things, and painting goes on without them:

* an arc with a negative radius, so that neither a disc nor a ring comes of it;
* a gradient with a number that is not finite or a negative radius, so that the glow is left out. -/

namespace GlobeView

open Scalar

/-- One step on the drawing context of a canvas. -/
inductive Paint (α : Type) where
  /-- Clears a square at the origin. -/
  | clear (width : α)
  | fillWith (color : Rgba α)
  /-- Fills with the gradient of a number. -/
  | fillWithGradient (gradient : Nat)
  | strokeWith (color : Rgba α)
  | lineWidth (width : α)
  /-- A filled circle. -/
  | disc (center : Vec2 α) (radius : α)
  /-- A stroked circle. -/
  | ring (center : Vec2 α) (radius : α)
  /-- A stroked quadratic curve. -/
  | curve (start control finish : Vec2 α)
  | blend (mode : BlendMode)
  /-- Makes a gradient that spreads from a centre, under a number of its own. -/
  | gradient (number : Nat) (center : Vec2 α) (radius : α) (stops : List (GradientStop α))
  /-- A gradient that the context refuses. -/
  | gradientRefused (center : Vec2 α) (radius : α)
deriving DecidableEq, Repr

namespace Palette

variable {α : Type} [Scalar α]

def sphere : Rgba α := ⟨14, 22, 38, 1⟩

def limb : Rgba α := ⟨96, 200, 255, 0.35⟩

def dot : Rgba α := ⟨160, 190, 220, 0.55⟩

def marker : Rgba α := ⟨255, 170, 60, 0.95⟩

end Palette

section Painting

variable {α : Type} [Scalar α]

/-- The locations of the dots: every four degrees, away from the poles. -/
def dotGrid : List (LatLon α) :=
  (List.range 45).flatMap fun i =>
    (List.range 90).map fun j => ⟨ofNat (4 * i) - 88, ofNat (4 * j) - 180⟩

/-- The dot at a location of the near side; dots shrink towards the limb. -/
def dotPaint? (view : View α) (location : LatLon α) : Option (Paint α) :=
  let p := view.project location
  if p.isFront then
    some (.disc p.point (Scalar.max (view.width / 500) 0.75 * sqrt p.z))
  else none

/-- A marker on the near side. -/
def markerPaint? (view : View α) (m : AnimatedMarker α) : Option (Paint α) :=
  let p := view.project m.location
  if p.isFront then some (.disc p.point (m.size * (view.width / 2))) else none

/-- The steps that paint the sphere. -/
def SphereFrame.paint (f : SphereFrame α) : List (Paint α) :=
  let view : View α := ⟨f.phi, f.theta, f.width⟩
  let r := f.width / 2
  [.clear f.width, .fillWith Palette.sphere, .disc ⟨r, r⟩ r, .strokeWith Palette.limb,
    .lineWidth 1, .ring ⟨r, r⟩ (r - 0.5), .fillWith Palette.dot] ++
    dotGrid.filterMap (dotPaint? view) ++
    .fillWith Palette.marker :: f.markers.filterMap (markerPaint? view)

/-- Whether a context makes a gradient. -/
def gradientAllowed (center : Vec2 α) (radius : α) : Bool :=
  isFinite center.x && isFinite center.y && isFinite radius && !(radius < 0)

/-- The steps of one overlay command, when `next` is the number of the next gradient.  Answers the
number after them. -/
def OverlayCommand.paint (next : Nat) : OverlayCommand α → List (Paint α) × Nat
  | .clear width => ([.clear width], next)
  | .setBlend mode => ([.blend mode], next)
  | .glow center radius stops =>
    if gradientAllowed center radius then
      ([.gradient next center radius stops, .fillWithGradient next, .disc center radius], next + 1)
    else ([.gradientRefused center radius], next)
  | .arc start control finish color width =>
    ([.strokeWith color, .lineWidth width, .curve start control finish], next)
  | .particle center radius color => ([.fillWith color, .disc center radius], next)

/-- The steps of overlay commands in order. -/
def paintCommands : Nat → List (OverlayCommand α) → List (Paint α) × Nat
  | next, [] => ([], next)
  | next, c :: rest =>
    let (steps, next) := c.paint next
    let (more, next) := paintCommands next rest
    (steps ++ more, next)

/-- The steps that paint the overlay. -/
def OverlayFrame.paint (next : Nat) (f : OverlayFrame α) : List (Paint α) × Nat :=
  paintCommands next f.commands

end Painting
end GlobeView
