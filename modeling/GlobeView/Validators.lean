import GlobeView.Random.Placement
import GlobeView.Scene

/-! # Validator scenes

A demonstration scene: validators are placed in data centers at random, each occupied data center
gets a marker and a heat point, and the data centers with more than a twentieth of all validators
are hubs, which pulse and are chained by connections. -/

namespace GlobeView

open Scalar

/-- A place where validators can run. -/
structure DataCenter (α : Type) where
  name : String
  location : LatLon α
deriving DecidableEq, Repr

/-- The number of data centers. -/
def dataCenterCount : Nat := 24

/-- A word is passed over one time in four, so that 1024 words are more than enough. -/
instance : Random.IndexSource Random.ChaCha dataCenterCount :=
  ⟨Random.drawPlace dataCenterCount (by decide) 1024⟩

/-- The data centers, from east of the Americas round to the south. -/
def dataCenters {α : Type} [Scalar α] : Vector (DataCenter α) dataCenterCount :=
  #v[⟨"US-East (N. Virginia)", 39.0438, -(77.4874)⟩,
     ⟨"US-East (New York)", 40.7128, -(74.0060)⟩,
     ⟨"US-West (California)", 37.3382, -(121.8863)⟩,
     ⟨"US-West (Oregon)", 45.5152, -(122.6784)⟩,
     ⟨"US-Central (Texas)", 30.2672, -(97.7431)⟩,
     ⟨"Canada (Toronto)", 43.6532, -(79.3832)⟩,
     ⟨"Canada (Montreal)", 45.5017, -(73.5673)⟩,
     ⟨"EU-Central (Frankfurt)", 50.1109, 8.6821⟩,
     ⟨"EU-West (London)", 51.5074, -(0.1278)⟩,
     ⟨"EU-West (Paris)", 48.8566, 2.3522⟩,
     ⟨"EU-North (Stockholm)", 59.3293, 18.0686⟩,
     ⟨"EU-West (Ireland)", 53.3498, -(6.2603)⟩,
     ⟨"EU-South (Milan)", 45.4642, 9.1900⟩,
     ⟨"Asia-East (Tokyo)", 35.6762, 139.6503⟩,
     ⟨"Asia-East (Seoul)", 37.5665, 126.9780⟩,
     ⟨"Asia-East (Hong Kong)", 22.3193, 114.1694⟩,
     ⟨"Asia-South (Singapore)", 1.3521, 103.8198⟩,
     ⟨"Asia-South (Mumbai)", 19.0760, 72.8777⟩,
     ⟨"AU-East (Sydney)", -(33.8688), 151.2093⟩,
     ⟨"AU-South (Melbourne)", -(37.8136), 144.9631⟩,
     ⟨"SA-East (Sao Paulo)", -(23.5505), -(46.6333)⟩,
     ⟨"SA-West (Santiago)", -(33.4489), -(70.6693)⟩,
     ⟨"ME-Central (Dubai)", 25.2048, 55.2708⟩,
     ⟨"AF-South (Cape Town)", -(33.9249), 18.4241⟩]

namespace Validators

/-- Nobody anywhere yet. -/
def none : Vector Nat dataCenterCount := Vector.replicate dataCenterCount 0

/-- Places `count` more validators. -/
def place {ρ : Type} [Random.IndexSource ρ dataCenterCount] :
    Nat → ρ → Vector Nat dataCenterCount → Vector Nat dataCenterCount
  | 0, _, counts => counts
  | count + 1, g, counts =>
    let (i, g) := Random.IndexSource.draw g
    place count g (counts.set i (counts.get i + 1))

/-- How many of `count` validators each data center gets. -/
def assign {ρ : Type} [Random.IndexSource ρ dataCenterCount] (count : Nat) (source : ρ) :
    Vector Nat dataCenterCount :=
  place count source none

variable {α : Type} [Scalar α]

/-- An occupied data center with the number of its validators. -/
structure Site (α : Type) where
  center : DataCenter α
  nodes : Nat

/-- The occupied data centers, in the order of the table. -/
def sites (counts : Vector Nat dataCenterCount) : List (Site α) :=
  (dataCenters.toList.zipWith Site.mk counts.toList).filter (·.nodes != 0)

/-- A hub holds more than a twentieth of all validators. -/
def Site.isHub (total : Nat) (s : Site α) : Bool := total / 20 < s.nodes

/-- The marker of a site grows with its share of all validators. -/
def Site.marker (total : Nat) (s : Site α) : Marker α where
  location := s.center.location
  size := 0.03 + ofNat s.nodes / ofNat total * 0.15
  tooltip := some (s.center.name ++ " (" ++ toString s.nodes ++ " nodes)")
  pulse := s.isHub total

/-- The heat of a site is its number of validators relative to the greatest one. -/
def Site.heat (greatest : Nat) (s : Site α) : HeatPoint α where
  lat := s.center.location.lat
  lon := s.center.location.lon
  value := ofNat s.nodes / ofNat greatest

/-- Connections from each location of a list to the next. -/
def chain : List (LatLon α) → List (Connection α)
  | a :: b :: rest => ⟨a, b⟩ :: chain (b :: rest)
  | _ => []

/-- The scene of validators placed as counted. -/
def sceneOf (total : Nat) (counts : Vector Nat dataCenterCount) : Scene α :=
  let sites : List (Site α) := sites counts
  let greatest := Max.max (counts.toList.foldl Max.max 0) 1
  { markers := sites.map (·.marker total)
    connections := chain ((sites.filter (·.isHub total)).map (·.center.location))
    heat := sites.map (·.heat greatest) }

/-- The scene of `count` validators placed by a generator; without any it is empty. -/
def scene {ρ : Type} [Random.IndexSource ρ dataCenterCount] (count : Nat) (source : ρ) : Scene α :=
  if count = 0 then .empty else sceneOf count (assign count source)

end Validators
end GlobeView
