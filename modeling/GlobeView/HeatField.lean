import GlobeView.Scene

/-! # Heat from data events

A heat field adds up the events at each location, at most to one, and fades with every step.  A
location whose heat falls below a floor is forgotten. -/

namespace GlobeView

open Scalar

/-- Heat by location, in the order in which the locations first became hot. -/
structure HeatField (α : Type) where
  /-- Factor on all heat at every step. -/
  decay : α
  points : List (LatLon α × α) := []
deriving DecidableEq, Repr

namespace HeatField

variable {α : Type} [Scalar α]

/-- Heat below this is forgotten. -/
def floor : α := 0.001

/-- A cold field; the factor is held in `[0, 1]`. -/
def ofDecay (decay : α) : HeatField α := { decay := clamp decay 0 1 }

/-- Adds heat to the first entry of a location, or a new entry. -/
def addHeat (location : LatLon α) (amount : α) : List (LatLon α × α) → List (LatLon α × α)
  | [] => [(location, Scalar.min amount 1)]
  | (spot, value) :: rest =>
    if spot == location then (spot, Scalar.min (value + amount) 1) :: rest
    else (spot, value) :: addHeat location amount rest

/-- Takes in a data event; only a finite positive amount counts. -/
def record (location : LatLon α) (amount : α) (f : HeatField α) : HeatField α :=
  if isFinite amount && 0 < amount then { f with points := addHeat location amount f.points } else f

/-- Lets everything fade once. -/
def step (f : HeatField α) : HeatField α :=
  { f with
    points := (f.points.map fun (location, value) => (location, value * f.decay)).filter
      fun (_, value) => floor ≤ value }

/-- The field as heat points of a scene. -/
def toHeatPoints (f : HeatField α) : List (HeatPoint α) :=
  f.points.map fun (location, value) => ⟨location.lat, location.lon, value⟩

def size (f : HeatField α) : Nat := f.points.length

def isEmpty (f : HeatField α) : Bool := f.points.isEmpty

end HeatField
end GlobeView
