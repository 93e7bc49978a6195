import Std.Data.HashMap
import GlobeView.Scene

/-! # Breathing markers

Markers swell and shrink slowly, each at a phase of its own, and flash quickly while they pulse.
The phase of a marker is drawn the first time its place in the list is seen and kept from then on,
so that new data never makes a marker jump. -/

namespace GlobeView

open Scalar

/-- The factor on the size of a marker: breathing stays within 0.3 of one, a flash adds between zero
and one. -/
def sizeFactor {α : Type} [Scalar α] (phase elapsed : α) (pulse : Bool) : α :=
  let breathing := 1 + sin (elapsed * 2 + phase) * 0.3
  let flash := if pulse then sin (elapsed * 10) * 0.5 + 0.5 else 0
  breathing + flash

/-- A generator of phases. -/
class PhaseSource (σ α : Type) where
  /-- The next phase, in `[0, tau)`. -/
  draw : σ → α × σ

/-- The source for globes whose phases nobody has fixed. -/
inductive Unseeded where
  | mk
deriving DecidableEq, Repr

/-- Any phase will do; this one is zero. -/
instance {α : Type} [Scalar α] : PhaseSource Unseeded α := ⟨fun s => (0, s)⟩

/-- A marker as it is drawn in one frame. -/
structure AnimatedMarker (α : Type) where
  location : LatLon α
  /-- The base size after breathing and flashing. -/
  size : α
deriving DecidableEq, Repr

/-- The phases drawn so far, by place in the marker list. -/
structure Phases (σ α : Type) where
  known : Std.HashMap Nat α := {}
  source : σ

namespace Phases

variable {σ α : Type}

def ofSource (source : σ) : Phases σ α := { source := source }

/-- The phase of a place, if it was drawn already. -/
def known? (index : Nat) (p : Phases σ α) : Option α := p.known[index]?

/-- How many phases were drawn. -/
def size (p : Phases σ α) : Nat := p.known.size

variable [PhaseSource σ α]

/-- The phase of a place, drawn now if it was not before. -/
def phase (index : Nat) (p : Phases σ α) : α × Phases σ α :=
  match p.known? index with
  | some phase => (phase, p)
  | none =>
    let (phase, source) := PhaseSource.draw p.source
    (phase, { known := p.known.insert index phase, source := source })

variable [Scalar α]

/-- The size that a marker is drawn with. -/
def effectiveSize (index : Nat) (size elapsed : α) (pulse : Bool) (p : Phases σ α) :
    α × Phases σ α :=
  let (phase, p) := p.phase index
  (size * sizeFactor phase elapsed pulse, p)

/-- The markers of a list as they are drawn, from place `index` on. -/
def animateFrom (elapsed : α) :
    Nat → List (Marker α) → Phases σ α → List (AnimatedMarker α) × Phases σ α
  | _, [], p => ([], p)
  | index, m :: rest, p =>
    let (size, p) := p.effectiveSize index m.size elapsed m.pulse
    let (markers, p) := animateFrom elapsed (index + 1) rest p
    (⟨m.location, size⟩ :: markers, p)

/-- The markers of a list as they are drawn. -/
def animate (elapsed : α) (markers : List (Marker α)) (p : Phases σ α) :
    List (AnimatedMarker α) × Phases σ α :=
  animateFrom elapsed 0 markers p

end Phases
end GlobeView
