import GlobeView.Scalar

/-! # Callbacks

Callbacks in registration order, each under an identifier of its own.  Identifiers are words and
start again after the last one.  For the time of a dispatch the callbacks are handed out; one that
is unregistered meanwhile is remembered as removed and left out when they come back, and one that is
registered meanwhile queues up behind them.

What a callback does is up to whoever runs it: here it is a value of any type `κ`. -/

namespace GlobeView

/-- Registered callbacks. -/
structure Callbacks (κ : Type) where
  nextId : Nat := 0
  /-- Callbacks that are not handed out. -/
  waiting : List (Nat × κ) := []
  /-- Identifiers of those handed out. -/
  dispatching : List Nat := []
  /-- Those of them that were unregistered since. -/
  removed : List Nat := []
deriving DecidableEq, Repr

namespace Callbacks

variable {κ : Type}

def empty : Callbacks κ := {}

/-- Adds a callback at the end and answers its identifier. -/
def register (callback : κ) (r : Callbacks κ) : Nat × Callbacks κ :=
  (r.nextId,
    { r with
      nextId := (r.nextId + 1) % wordRange
      waiting := r.waiting ++ [(r.nextId, callback)] })

/-- Whether any waiting callback has the identifier. -/
def isWaiting (id : Nat) (r : Callbacks κ) : Bool := r.waiting.any (·.1 == id)

/-- Removes a callback; the answer says whether it was registered. -/
def unregister (id : Nat) (r : Callbacks κ) : Bool × Callbacks κ :=
  if r.isWaiting id then
    (true, { r with waiting := r.waiting.filter (·.1 != id) })
  else if r.dispatching.contains id && !r.removed.contains id then
    (true, { r with removed := r.removed ++ [id] })
  else (false, r)

/-- The number of registered callbacks. -/
def size (r : Callbacks κ) : Nat :=
  r.waiting.length + r.dispatching.length - r.removed.length

def isEmpty (r : Callbacks κ) : Bool := r.size == 0

/-- Hands out the callbacks of one frame. -/
def beginDispatch (r : Callbacks κ) : List (Nat × κ) × Callbacks κ :=
  (r.waiting, { r with waiting := [], dispatching := r.waiting.map (·.1) })

/-- Takes back the callbacks that were handed out. -/
def finishDispatch (taken : List (Nat × κ)) (r : Callbacks κ) : Callbacks κ :=
  { r with
    waiting := taken.filter (fun c => !r.removed.contains c.1) ++ r.waiting
    dispatching := []
    removed := [] }

end Callbacks
end GlobeView
