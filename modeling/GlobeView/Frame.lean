import GlobeView.Scalar

/-! # Frames

A frame is one step of the display: its number, the time since the one before it and the time at
which it starts, in seconds. -/

namespace GlobeView

open Scalar

/-- One step of the display. -/
structure Frame (α : Type) where
  index : Nat
  /-- Seconds since the frame before. -/
  dt : α
  /-- Seconds on the clock of the session. -/
  time : α
deriving DecidableEq, Repr

namespace Frame

variable {α : Type} [Scalar α]

/-- The frame with number `index` of a sequence with a fixed step that starts at time zero. -/
def fixedStep (index : Nat) (dt : α) : Frame α := ⟨index, dt, ofNat index * dt⟩

/-- The first frame of a session that starts at `time`. -/
def first (time : α) : Frame α := ⟨0, 0, time⟩

/-- The number of the frame after `f`; numbers are words and start again after the last one. -/
def nextIndex (f : Frame α) : Nat := (f.index + 1) % wordRange

/-- The next frame of a sequence with a fixed step. -/
def next (f : Frame α) : Frame α := fixedStep f.nextIndex f.dt

/-- The frame that follows after a measured delay; a negative or undefined one counts as none. -/
def advance (f : Frame α) (dt : α) : Frame α :=
  let dt := Scalar.max dt 0
  ⟨f.nextIndex, dt, f.time + dt⟩

end Frame

/-- Seconds in milliseconds. -/
def millis {α : Type} [Scalar α] (seconds : α) : α := seconds * 1000

/-- The order of two numbers, if they have one. -/
def order? {α : Type} [Scalar α] (a b : α) : Option Ordering :=
  if a < b then some .lt else if b < a then some .gt else if a == b then some .eq else none

end GlobeView
