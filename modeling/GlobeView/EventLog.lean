/-! # The event log

Events with the frame they belong to, oldest first.  A bounded log forgets its oldest events.  An
event is logged either with a frame of its own, which then becomes the current one, or against the
current frame. -/

namespace GlobeView

/-- An event and the number of its frame. -/
structure Logged (ε : Type) where
  frame : Nat
  event : ε
deriving DecidableEq, Repr

/-- A log of events. -/
structure EventLog (ε : Type) where
  entries : List (Logged ε) := []
  /-- The frame that events without one belong to. -/
  frame : Nat := 0
  /-- How many events are kept at most. -/
  limit : Option Nat := none
deriving DecidableEq, Repr

namespace EventLog

variable {ε : Type}

/-- A log that keeps everything. -/
def unbounded : EventLog ε := {}

/-- A log that keeps the last `limit` events, and at least one. -/
def bounded (limit : Nat) : EventLog ε := { limit := some (Max.max limit 1) }

/-- What is left of the entries when one more has to fit. -/
def makeRoom (entries : List (Logged ε)) : Option Nat → List (Logged ε)
  | none => entries
  | some limit => entries.drop (entries.length + 1 - limit)

/-- Logs an entry. -/
def push (e : Logged ε) (log : EventLog ε) : EventLog ε :=
  { log with entries := makeRoom log.entries log.limit ++ [e] }

/-- Makes a frame the current one. -/
def setFrame (frame : Nat) (log : EventLog ε) : EventLog ε := { log with frame := frame }

/-- Logs an event against the current frame. -/
def emitNow (event : ε) (log : EventLog ε) : EventLog ε := log.push ⟨log.frame, event⟩

/-- Logs an event of a given frame, which becomes the current one. -/
def emit (frame : Nat) (event : ε) (log : EventLog ε) : EventLog ε :=
  (log.setFrame frame).emitNow event

/-- Takes all entries out. -/
def drain (log : EventLog ε) : List (Logged ε) × EventLog ε :=
  (log.entries, { log with entries := [] })

end EventLog
end GlobeView
