import Mathlib.Tactic.Common
import GlobeView.Metrics

/-! # Reading metrics back

What each operation on the metrics does to a counter and to a histogram: an increment changes its
own counter, a sample its own histogram, and nothing else changes either.  A sample moves the least
and the greatest one unless it is counted as the first. -/

namespace GlobeView

namespace Histogram

variable {value : ℕ} {h : Histogram}

theorem count_record : (h.record value).count = (h.count + 1) % wordRange := rfl

theorem sum_record : (h.record value).sum = Min.min (h.sum + value) (wordRange - 1) := rfl

theorem min_record (hcount : h.count ≠ 0) : (h.record value).min = Min.min h.min value :=
  if_neg hcount

theorem max_record (hcount : h.count ≠ 0) : (h.record value).max = Max.max h.max value :=
  if_neg hcount

end Histogram

namespace Metrics

variable {α : Type}

theorem counter_empty (name : String) : (empty : Metrics α).counter name = 0 := by
  simp [counter, empty]

theorem counter_incCounter (name key : String) (amount : Nat) (m : Metrics α) :
    (m.incCounter key amount).counter name =
      if key = name then (m.counter name + amount) % wordRange else m.counter name := by
  simp only [counter, incCounter, Std.TreeMap.getD_insert, Std.LawfulEqCmp.compare_eq_iff_eq]
  split_ifs with h
  · rw [h]
  · rfl

@[simp] theorem counter_record (name key : String) (value : Nat) (m : Metrics α) :
    (m.record key value).counter name = m.counter name := rfl

@[simp] theorem counter_setGauge (name key : String) (value : α) (m : Metrics α) :
    (m.setGauge key value).counter name = m.counter name := rfl

@[simp] theorem histogram?_incCounter (name key : String) (amount : Nat) (m : Metrics α) :
    (m.incCounter key amount).histogram? name = m.histogram? name := rfl

@[simp] theorem histogram?_setGauge (name key : String) (value : α) (m : Metrics α) :
    (m.setGauge key value).histogram? name = m.histogram? name := rfl

theorem histogram?_record_self (name : String) (value : Nat) (m : Metrics α) :
    (m.record name value).histogram? name =
      some (((m.histogram? name).getD .empty).record value) := by
  simp [histogram?, record]

end Metrics
end GlobeView
