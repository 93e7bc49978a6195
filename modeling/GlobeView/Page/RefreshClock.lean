import GlobeView.Callbacks
import GlobeView.Page.Basic

/-! # The clock of a display

The callbacks of a `RefreshClock` run once per refresh of the display.  The clock asks the page for
an animation frame while anything is registered, and never has more than one request open: a request
is made when the first callback is registered and again after each frame, and is taken back when the
last callback goes.

A frame has two ends.  `beginFrame` hands the callbacks out, `finishFrame` takes them back; in
between they may register and unregister, and even end the clock. -/

namespace GlobeView

open Scalar

/-- A clock that follows the animation frames of a page. -/
structure RefreshClock (κ α : Type) where
  callbacks : Callbacks κ := .empty
  /-- The frame made last, with the time stamp in milliseconds that it was made for. -/
  last : Option (Frame α × α) := none
  /-- The open request. -/
  request : Option Nat := none
  /-- Whether the clock still asks for frames; it does not once it has ended. -/
  isRunning : Bool := true
deriving DecidableEq, Repr

namespace RefreshClock

variable {κ α : Type}

def idle : RefreshClock κ α := {}

/-- Asks for a frame if one is needed and none is asked for. -/
def keepAsking (c : RefreshClock κ α) (p : Page α) : RefreshClock κ α × Page α :=
  if c.request.isSome || c.callbacks.isEmpty || !c.isRunning then (c, p)
  else
    let (request, p) := p.requestFrame
    ({ c with request := request }, p)

/-- Takes the open request back. -/
def cancel (c : RefreshClock κ α) (p : Page α) : RefreshClock κ α × Page α :=
  match c.request with
  | some request => ({ c with request := none }, p.cancelFrame request)
  | none => (c, p)

/-- Adds a callback.  Answers its identifier. -/
def register (callback : κ) (c : RefreshClock κ α) (p : Page α) :
    Nat × RefreshClock κ α × Page α :=
  let (id, callbacks) := c.callbacks.register callback
  (id, { c with callbacks := callbacks }.keepAsking p)

/-- Removes a callback.  Answers whether it was registered. -/
def unregister (id : Nat) (c : RefreshClock κ α) (p : Page α) :
    Bool × RefreshClock κ α × Page α :=
  let (removed, callbacks) := c.callbacks.unregister id
  let c := { c with callbacks := callbacks }
  (removed, if callbacks.isEmpty then c.cancel p else (c, p))

variable [Scalar α]

/-- The frame for a time stamp: the first one starts the time, and each later one moves it on by the
time that has passed since the stamp before. -/
def nextFrame (stamp : α) (c : RefreshClock κ α) : Frame α :=
  match c.last with
  | some (frame, before) => frame.advance ((stamp - before) / 1000)
  | none => .first (stamp / 1000)

/-- A frame has come.  Answers it with the callbacks that run now, in order. -/
def beginFrame (stamp : α) (c : RefreshClock κ α) :
    (Frame α × List (Nat × κ)) × RefreshClock κ α :=
  let frame := c.nextFrame stamp
  let (taken, callbacks) := c.callbacks.beginDispatch
  ((frame, taken),
    { c with callbacks := callbacks, last := some (frame, stamp), request := none })

omit [Scalar α] in
/-- The callbacks of a frame have run. -/
def finishFrame (taken : List (Nat × κ)) (c : RefreshClock κ α) (p : Page α) :
    RefreshClock κ α × Page α :=
  { c with callbacks := c.callbacks.finishDispatch taken }.keepAsking p

omit [Scalar α] in
/-- Ends the clock: it forgets its callbacks and asks for no more frames. -/
def stop (c : RefreshClock κ α) (p : Page α) : RefreshClock κ α × Page α :=
  let (c, p) := c.cancel p
  ({ c with callbacks := .empty, isRunning := false }, p)

end RefreshClock
end GlobeView
