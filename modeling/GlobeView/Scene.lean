import GlobeView.Projection

/-! # The scene

What the owner of a globe wants to see on it: markers, connections between locations and heat.
A scene is replaced as a whole or list by list; a marker or connection is identified by its place
in its list. -/

namespace GlobeView

open Scalar

/-- A point of interest.  One that carries a tooltip can be picked. -/
structure Marker (α : Type) where
  location : LatLon α
  /-- Base size, relative to the radius of the sphere. -/
  size : α
  tooltip : Option String
  /-- Whether the marker flashes. -/
  pulse : Bool
deriving DecidableEq, Repr

/-- An arc between two locations. -/
structure Connection (α : Type) where
  start : LatLon α
  finish : LatLon α
deriving DecidableEq, Repr

/-- Heat at a location; its value is meant to lie in `[0, 1]`. -/
structure HeatPoint (α : Type) where
  lat : α
  lon : α
  value : α
deriving DecidableEq, Repr

/-- The text a marker goes by: its tooltip, or nothing. -/
def Marker.label {α : Type} (m : Marker α) : String := m.tooltip.getD ""

namespace HeatPoint

variable {α : Type} [Scalar α]

def location (p : HeatPoint α) : LatLon α := ⟨p.lat, p.lon⟩

/-- The value held in `[0, 1]`; one that is not finite counts as no heat. -/
def intensity (p : HeatPoint α) : α :=
  if isFinite p.value then clamp p.value 0 1 else 0

end HeatPoint

/-- Everything that a globe shows on its sphere. -/
structure Scene (α : Type) where
  markers : List (Marker α) := []
  connections : List (Connection α) := []
  heat : List (HeatPoint α) := []
deriving DecidableEq, Repr

namespace Scene

/-- The scene without anything. -/
def empty {α : Type} : Scene α := {}

def isEmpty {α : Type} (s : Scene α) : Bool :=
  s.markers.isEmpty && s.connections.isEmpty && s.heat.isEmpty

end Scene
end GlobeView
