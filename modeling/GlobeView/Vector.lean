import GlobeView.Scalar

/-! # Vectors

Points and displacements of the plane (`Vec2`) and of space (`Vec3`). -/

namespace GlobeView

open Scalar

/-- A point or displacement of the plane. -/
structure Vec2 (α : Type) where
  x : α
  y : α
deriving DecidableEq, Repr

/-- A point or displacement of space. -/
structure Vec3 (α : Type) where
  x : α
  y : α
  z : α
deriving DecidableEq, Repr

namespace Vec2

variable {α : Type} [Scalar α]

instance : Add (Vec2 α) := ⟨fun a b => ⟨a.x + b.x, a.y + b.y⟩⟩

instance : Sub (Vec2 α) := ⟨fun a b => ⟨a.x - b.x, a.y - b.y⟩⟩

instance : BEq (Vec2 α) := ⟨fun a b => a.x == b.x && a.y == b.y⟩

/-- The origin. -/
def zero : Vec2 α := ⟨0, 0⟩

def scale (a : Vec2 α) (s : α) : Vec2 α := ⟨a.x * s, a.y * s⟩

def length (a : Vec2 α) : α := hypot a.x a.y

def distance (a b : Vec2 α) : α := (a - b).length

/-- The middle of the segment from `a` to `b`. -/
def midpoint (a b : Vec2 α) : Vec2 α := ⟨(a.x + b.x) * 0.5, (a.y + b.y) * 0.5⟩

/-- The unit vector a quarter turn counter-clockwise of `a`; there is none when the length of `a`
is zero or not finite. -/
def unitPerp? (a : Vec2 α) : Option (Vec2 α) :=
  let len := a.length
  if len ≤ 0 ∨ isFinite len = false then none else some ⟨-a.y / len, a.x / len⟩

end Vec2

namespace Vec3

variable {α : Type} [Scalar α]

instance : Add (Vec3 α) := ⟨fun a b => ⟨a.x + b.x, a.y + b.y, a.z + b.z⟩⟩

instance : Sub (Vec3 α) := ⟨fun a b => ⟨a.x - b.x, a.y - b.y, a.z - b.z⟩⟩

def dot (a b : Vec3 α) : α := a.x * b.x + a.y * b.y + a.z * b.z

/-- `a` turned about the x axis by `angle` radians. -/
def rotateX (a : Vec3 α) (angle : α) : Vec3 α :=
  let s := sin angle
  let c := cos angle
  ⟨a.x, a.y * c - a.z * s, a.y * s + a.z * c⟩

end Vec3
end GlobeView
