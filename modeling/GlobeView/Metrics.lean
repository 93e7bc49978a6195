import Std.Data.TreeMap
import GlobeView.Scalar

/-! # Metrics

Counters, gauges and histograms by name, in the order of their names.  Counters, counts of samples
and their sums are 64-bit: a counter and a count wrap around, a sum stays at the greatest value. -/

namespace GlobeView

open Scalar

/-- A summary of samples. -/
structure Histogram where
  count : Nat
  sum : Nat
  min : Nat
  max : Nat
deriving DecidableEq, Repr

namespace Histogram

/-- No samples yet. -/
def empty : Histogram := ⟨0, 0, 0, 0⟩

/-- Takes in one sample. -/
def record (value : Nat) (h : Histogram) : Histogram where
  count := (h.count + 1) % wordRange
  sum := Min.min (h.sum + value) (wordRange - 1)
  min := if h.count = 0 then value else Min.min h.min value
  max := if h.count = 0 then value else Max.max h.max value

/-- The mean of the samples, zero without any. -/
def mean {α : Type} [Scalar α] (h : Histogram) : α :=
  if h.count = 0 then 0 else ofNat h.sum / ofNat h.count

end Histogram

/-- The metrics of a session. -/
structure Metrics (α : Type) where
  counters : Std.TreeMap String Nat := {}
  gauges : Std.TreeMap String α := {}
  histograms : Std.TreeMap String Histogram := {}

namespace Metrics

variable {α : Type}

def empty : Metrics α := {}

def counter (name : String) (m : Metrics α) : Nat := m.counters.getD name 0

def incCounter (name : String) (amount : Nat) (m : Metrics α) : Metrics α :=
  { m with counters := m.counters.insert name ((m.counter name + amount) % wordRange) }

def gauge? (name : String) (m : Metrics α) : Option α := m.gauges[name]?

def setGauge (name : String) (value : α) (m : Metrics α) : Metrics α :=
  { m with gauges := m.gauges.insert name value }

def histogram? (name : String) (m : Metrics α) : Option Histogram := m.histograms[name]?

def record (name : String) (value : Nat) (m : Metrics α) : Metrics α :=
  let before := (m.histogram? name).getD .empty
  { m with histograms := m.histograms.insert name (before.record value) }

end Metrics
end GlobeView
