import GlobeView.Controller

/-! # Drawing on surfaces

A globe is drawn on two surfaces of the same size: the sphere below and the overlay above.  What a
globe does to them is a list of drawing steps; `Recorder` is the pair of surfaces that remembers the
steps instead of painting. -/

namespace GlobeView

/-- One step of drawing. -/
inductive Drawing (α : Type) where
  /-- Gives both surfaces a size. -/
  | resize (size : SurfaceSize α)
  | sphere (frame : SphereFrame α)
  | overlay (frame : OverlayFrame α)
deriving DecidableEq, Repr

namespace Controller

variable {σ α : Type} [Scalar α]

/-- Measures the container for the first time and sizes both surfaces. -/
def mount (container : ContainerSize α) (now : α) (c : Controller σ α) :
    List (Drawing α) × Controller σ α :=
  let (_, c) := c.resize container now
  ([.resize c.surfaceSize], c)

/-- The container reports that its size changed.  Answers new sizes, if there are any. -/
def containerResized (container : ContainerSize α) (now : α) (c : Controller σ α) :
    (Option (SurfaceSize α) × List (Drawing α)) × Controller σ α :=
  let (changed, c) := c.resize container now
  ((changed, changed.toList.map .resize), c)

/-- Draws one frame.  A second measurement that is due comes first. -/
def drawFrame [PhaseSource σ α] (container : ContainerSize α) (frame : Frame α)
    (c : Controller σ α) : List (Drawing α) × Controller σ α :=
  let (due, c) := c.settleDue frame.time
  let (changed, c) := if due then c.settle container frame.time else (none, c)
  let (out, c) := c.tick frame
  (changed.toList.map .resize ++ [.sphere out.sphere, .overlay out.overlay], c)

end Controller

/-- What one surface has seen. -/
structure SurfaceLog (α : Type) where
  sizes : List (SurfaceSize α) := []
  sphereFrames : Nat := 0
  overlayFrames : Nat := 0
  lastSphere : Option (SphereFrame α) := none
  lastOverlay : Option (OverlayFrame α) := none
deriving DecidableEq, Repr

namespace SurfaceLog

variable {α : Type}

def resize (size : SurfaceSize α) (s : SurfaceLog α) : SurfaceLog α :=
  { s with sizes := s.sizes ++ [size] }

def drawSphere (frame : SphereFrame α) (s : SurfaceLog α) : SurfaceLog α :=
  { s with sphereFrames := s.sphereFrames + 1, lastSphere := some frame }

def present (frame : OverlayFrame α) (s : SurfaceLog α) : SurfaceLog α :=
  { s with overlayFrames := s.overlayFrames + 1, lastOverlay := some frame }

/-- The size the surface has now. -/
def lastSize? (s : SurfaceLog α) : Option (SurfaceSize α) := s.sizes.getLast?

end SurfaceLog

/-- Two surfaces that remember what was drawn on them. -/
structure Recorder (α : Type) where
  sphere : SurfaceLog α := {}
  overlay : SurfaceLog α := {}
deriving DecidableEq, Repr

namespace Recorder

variable {α : Type}

/-- Remembers one step. -/
def draw (r : Recorder α) : Drawing α → Recorder α
  | .resize size => ⟨r.sphere.resize size, r.overlay.resize size⟩
  | .sphere frame => { r with sphere := r.sphere.drawSphere frame }
  | .overlay frame => { r with overlay := r.overlay.present frame }

/-- Remembers steps in order. -/
def drawAll (steps : List (Drawing α)) (r : Recorder α) : Recorder α := steps.foldl draw r

end Recorder
end GlobeView
