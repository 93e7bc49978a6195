import GlobeView.Frame
import GlobeView.Callbacks

/-! # A clock that is stepped by hand

Each step of the clock makes one frame and runs every registered callback with it.  The callbacks
have no way back to the clock, so a step hands them out and takes them back at once. -/

namespace GlobeView

/-- A clock and its callbacks. -/
structure StepClock (κ α : Type) where
  callbacks : Callbacks κ := .empty
  /-- The frame made last. -/
  last : Option (Frame α) := none
  /-- Time of the first frame. -/
  start : α
deriving DecidableEq, Repr

namespace StepClock

variable {κ α : Type} [Scalar α]

def startingAt (start : α) : StepClock κ α := { start := start }

/-- The frame that comes next; the first one does not look at the delay. -/
def nextFrame (dt : α) (c : StepClock κ α) : Frame α :=
  match c.last with
  | none => .first c.start
  | some f => f.advance dt

/-- Makes one frame.  Answers the frame and the callbacks that run with it, in order. -/
def advance (dt : α) (c : StepClock κ α) : (Frame α × List (Nat × κ)) × StepClock κ α :=
  let frame := c.nextFrame dt
  let (taken, held) := c.callbacks.beginDispatch
  ((frame, taken), { c with callbacks := held.finishDispatch taken, last := some frame })

def register (callback : κ) (c : StepClock κ α) : Nat × StepClock κ α :=
  let (id, callbacks) := c.callbacks.register callback
  (id, { c with callbacks := callbacks })

def unregister (id : Nat) (c : StepClock κ α) : Bool × StepClock κ α :=
  let (removed, callbacks) := c.callbacks.unregister id
  (removed, { c with callbacks := callbacks })

/-- Makes `count` frames with one delay.  Answers each frame with the callbacks that ran with it. -/
def run (dt : α) : Nat → StepClock κ α → List (Frame α × List (Nat × κ)) × StepClock κ α
  | 0, c => ([], c)
  | count + 1, c =>
    let (made, c) := c.advance dt
    let (rest, c) := c.run dt count
    (made :: rest, c)

end StepClock
end GlobeView
