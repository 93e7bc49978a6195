import GlobeView.Projection
import GlobeView.Scene
import GlobeView.Sizing

/-! # Picking

The marker under the pointer is the first of the list that carries a tooltip, faces the viewer and
is nearer to the pointer than its hit radius.  Depth plays no part, so the answer is stable where
markers overlap. -/

namespace GlobeView

open Scalar

/-- The hit radii, in render pixels before scaling. -/
structure HitOptions (α : Type) where
  minRadius : α
  sizeFactor : α
deriving DecidableEq, Repr

/-- A marker under the pointer. -/
structure MarkerHit (α : Type) where
  /-- Its place in the list. -/
  index : Nat
  marker : Marker α
  /-- Where it is drawn, in display coordinates. -/
  position : Vec2 α
deriving DecidableEq, Repr

namespace HitOptions

variable {α : Type} [Scalar α]

def default : HitOptions α := ⟨10, 200⟩

def ofConfig (cfg : Config α) : HitOptions α := ⟨cfg.minHitRadius, cfg.hitSizeFactor⟩

/-- The hit radius of a marker, in render pixels. -/
def radius (o : HitOptions α) (size scale : α) : α :=
  Scalar.max (o.minRadius * scale) (size * o.sizeFactor * scale)

end HitOptions

variable {α : Type} [Scalar α]

/-- Where a marker is hit by a pointer in render coordinates, if it is. -/
def Marker.hitPoint? (view : View α) (scale : α) (o : HitOptions α) (pointer : Vec2 α)
    (m : Marker α) : Option (Vec2 α) :=
  let p := view.project m.location
  if m.tooltip.isSome && p.isFront && !(o.radius m.size scale ≤ pointer.distance p.point) then
    some p.point
  else none

/-- The first hit of a list, whose places are counted from `index`. -/
def firstHit? (view : View α) (scale : α) (o : HitOptions α) (pointer : Vec2 α) :
    Nat → List (Marker α) → Option (MarkerHit α)
  | _, [] => none
  | index, m :: rest =>
    match m.hitPoint? view scale o pointer with
    | some p => some ⟨index, m, p.scale (1 / scale)⟩
    | none => firstHit? view scale o pointer (index + 1) rest

/-- The marker under a pointer in display coordinates.  There is none on a surface without a
positive finite scale. -/
def hitTest (markers : List (Marker α)) (pointer : Vec2 α) (phi theta : α) (size : SurfaceSize α)
    (o : HitOptions α) : Option (MarkerHit α) :=
  let scale := size.scaleFactor
  if isFinite scale && 0 < scale then
    firstHit? ⟨phi, theta, size.render⟩ scale o (pointer.scale scale) 0 markers
  else none

end GlobeView
