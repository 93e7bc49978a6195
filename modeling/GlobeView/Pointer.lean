import GlobeView.Vector

/-! # The pointer

Pointer events in display coordinates, and the queue in which a host collects them. -/

namespace GlobeView

open Scalar

/-- What the pointer did. -/
inductive PointerEvent (α : Type) where
  /-- Pressed: starts a drag. -/
  | down (position : Vec2 α)
  /-- Moved: turns a held globe, hovers otherwise. -/
  | move (position : Vec2 α)
  /-- Released: ends a drag and clicks. -/
  | up (position : Vec2 α)
  /-- Left the globe: ends a drag without a click. -/
  | leave
deriving DecidableEq, Repr

/-- The events of a full drag from one point to another in evenly spaced moves, at least one. -/
def dragGesture {α : Type} [Scalar α] (start finish : Vec2 α) (steps : Nat) :
    List (PointerEvent α) :=
  let steps := Max.max steps 1
  let stop (i : Nat) : Vec2 α :=
    ⟨start.x + (finish.x - start.x) * ofNat i / ofNat steps,
     start.y + (finish.y - start.y) * ofNat i / ofNat steps⟩
  .down start :: (List.range steps).map (fun i => .move (stop (i + 1))) ++ [.up finish]

/-- Pointer events that wait to be handled, the oldest first. -/
structure PointerQueue (α : Type) where
  events : List (PointerEvent α) := []
deriving DecidableEq, Repr

namespace PointerQueue

variable {α : Type}

def empty : PointerQueue α := {}

def push (e : PointerEvent α) (q : PointerQueue α) : PointerQueue α := ⟨q.events ++ [e]⟩

def append (es : List (PointerEvent α)) (q : PointerQueue α) : PointerQueue α := ⟨q.events ++ es⟩

def pushDrag [Scalar α] (start finish : Vec2 α) (steps : Nat) (q : PointerQueue α) :
    PointerQueue α :=
  q.append (dragGesture start finish steps)

/-- Takes the oldest event. -/
def pop? (q : PointerQueue α) : Option (PointerEvent α × PointerQueue α) :=
  match q.events with
  | [] => none
  | e :: rest => some (e, ⟨rest⟩)

def size (q : PointerQueue α) : Nat := q.events.length

def isEmpty (q : PointerQueue α) : Bool := q.events.isEmpty

end PointerQueue
end GlobeView
