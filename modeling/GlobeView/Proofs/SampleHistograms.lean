import Mathlib.Algebra.Order.BigOperators.Group.List
import Mathlib.Algebra.Order.Field.Rat
import GlobeView.Proofs.Counters
import GlobeView.Proofs.ExactNumbers

/-! # What a histogram says of its samples

A histogram starts with zeros that are no samples, and its first sample replaces them.  From then on
each sample keeps what the histogram says of the samples before it (`Summarises.record`): how many
there are, the least and the greatest of them, and as much of their sum as fits into a word.  Only
the count limits this, since a histogram whose count has wrapped around takes the next sample for
its first.

What `Summarises` says does not depend on the order of the samples and leaves no choice
(`Summarises.eq_of_perm`), although the sum was cut off at every single step. -/

namespace GlobeView.Histogram

/-- The histogram of samples that were recorded in order. -/
def ofSamples (samples : List ℕ) : Histogram :=
  samples.foldl (fun h value => h.record value) empty

/-- A histogram that says of samples, of which there is one at least, how many they are, which is
the least and which the greatest, and their sum as far as it fits into a word. -/
structure Summarises (samples : List ℕ) (h : Histogram) : Prop where
  count : h.count = samples.length
  least : IsLeast {value | value ∈ samples} h.min
  greatest : IsGreatest {value | value ∈ samples} h.max
  sum : h.sum = Min.min samples.sum (wordRange - 1)

theorem ofSamples_concat (samples : List ℕ) (value : ℕ) :
    ofSamples (samples ++ [value]) = (ofSamples samples).record value := by
  unfold ofSamples
  rw [List.foldl_append]
  rfl

theorem summarises_first (value : ℕ) : Summarises [value] (empty.record value) where
  count := rfl
  least := by
    simp only [List.mem_singleton, Set.ofPred_eq_eq_singleton]
    exact isLeast_singleton
  greatest := by
    simp only [List.mem_singleton, Set.ofPred_eq_eq_singleton]
    exact isGreatest_singleton
  sum := by rw [sum_record, List.sum_singleton, empty, Nat.zero_add]

namespace Summarises

variable {samples other : List ℕ} {h h' : Histogram}

theorem length_pos (hs : h.Summarises samples) : 0 < samples.length :=
  List.length_pos_of_mem hs.least.1

/-- One more sample is taken in as long as there is room to count it. -/
theorem record (hs : h.Summarises samples) (value : ℕ) (hroom : samples.length + 1 < wordRange) :
    (h.record value).Summarises (samples ++ [value]) := by
  have hcount : h.count ≠ 0 := by
    rw [hs.count]
    exact hs.length_pos.ne'
  have hsamples : {v | v ∈ samples ++ [value]} = insert value {v | v ∈ samples} := by
    ext v
    simp [or_comm]
  constructor
  · rw [count_record, hs.count, List.length_append, List.length_singleton]
    exact Nat.mod_eq_of_lt hroom
  · rw [min_record hcount, hsamples, min_comm]
    exact hs.least.insert value
  · rw [max_record hcount, hsamples, max_comm]
    exact hs.greatest.insert value
  · -- A sum that was cut off stays at the greatest word, whatever is added.
    rw [sum_record, hs.sum, List.sum_append, List.sum_singleton]
    omega

theorem eq_of_perm (hs : h.Summarises samples) (hs' : h'.Summarises other)
    (hperm : other.Perm samples) : h' = h := by
  have hvalues : {value | value ∈ other} = {value | value ∈ samples} := by
    ext value
    exact hperm.mem_iff
  have hleast := hs'.least
  have hgreatest := hs'.greatest
  rw [hvalues] at hleast hgreatest
  rw [Histogram.mk.injEq]
  refine ⟨?_, ?_, hleast.unique hs.least, hgreatest.unique hs.greatest⟩
  · rw [hs'.count, hs.count, hperm.length_eq]
  · rw [hs'.sum, hs.sum, hperm.sum_eq]

/-- A sum that fits into a word lies between as many times the least and the greatest sample. -/
theorem sum_mem_Icc (hs : h.Summarises samples) (hsum : samples.sum < wordRange) :
    h.sum ∈ Set.Icc (h.count * h.min) (h.count * h.max) := by
  have hexact : h.sum = samples.sum := by
    rw [hs.sum]
    exact min_eq_left (Nat.le_sub_one_of_lt hsum)
  rw [hexact, hs.count]
  exact ⟨List.card_nsmul_le_sum samples h.min fun _ hvalue => hs.least.2 hvalue,
    List.sum_le_card_nsmul samples h.max fun _ hvalue => hs.greatest.2 hvalue⟩

theorem quotient_mem_Icc (hs : h.Summarises samples) (hsum : samples.sum < wordRange) :
    (h.sum / h.count : ℚ) ∈ Set.Icc (h.min : ℚ) h.max := by
  obtain ⟨hmin, hmax⟩ := hs.sum_mem_Icc hsum
  have hcount : (0 : ℚ) < h.count := by
    rw [hs.count]
    exact Nat.cast_pos.mpr hs.length_pos
  constructor
  · rw [le_div_iff₀' hcount]
    exact_mod_cast hmin
  · rw [div_le_iff₀' hcount]
    exact_mod_cast hmax

end Summarises

theorem summarises_ofSamples {samples : List ℕ} (hne : samples ≠ [])
    (hlength : samples.length < wordRange) : (ofSamples samples).Summarises samples := by
  induction samples using List.reverseRecOn with
  | nil => exact absurd rfl hne
  | append_singleton samples value ih =>
      rw [ofSamples_concat]
      obtain rfl | hbefore := eq_or_ne samples []
      · exact summarises_first value
      · rw [List.length_append, List.length_singleton] at hlength
        exact (ih hbefore (Nat.lt_of_succ_lt hlength)).record value hlength

/-- Without rounding the mean is the quotient of the sum and the count. -/
theorem mean_eq (h : Histogram) : (h.mean : ℝ) = ((h.sum / h.count : ℚ) : ℝ) := by
  unfold mean
  split_ifs with hcount
  · simp [hcount]
  · push_cast
    rfl

/-- **A histogram summarises its samples.**  After any samples, of which there is one at least and
no more than a word can count, a new histogram holds their number, the least and the greatest of them
and their sum, which stays at the greatest word if it does not fit.  Any other order of the samples
leaves the same histogram.  If the sum fits into a word, the exact mean is its quotient by the count
and lies between the least and the greatest sample. -/
theorem histogram_summarises {samples : List ℕ} (hne : samples ≠ [])
    (hlength : samples.length < wordRange) :
    let h := ofSamples samples
    h.count = samples.length ∧
    IsLeast {value | value ∈ samples} h.min ∧
    IsGreatest {value | value ∈ samples} h.max ∧
    h.sum = Min.min samples.sum (wordRange - 1) ∧
    (∀ other : List ℕ, other.Perm samples → ofSamples other = h) ∧
    (samples.sum < wordRange →
      let quotient : ℚ := h.sum / h.count
      (h.mean : ℝ) = quotient ∧ (h.min : ℚ) ≤ quotient ∧ quotient ≤ h.max) := by
  intro h
  have hs : h.Summarises samples := summarises_ofSamples hne hlength
  refine ⟨hs.count, hs.least, hs.greatest, hs.sum, fun other hperm => ?_, fun hsum => ?_⟩
  · have hne' : other ≠ [] := fun hnil => hne (List.nil_perm.mp (hnil ▸ hperm))
    have hlength' : other.length < wordRange := hperm.length_eq ▸ hlength
    exact hs.eq_of_perm (summarises_ofSamples hne' hlength') hperm
  · obtain ⟨hmin, hmax⟩ := hs.quotient_mem_Icc hsum
    exact ⟨mean_eq h, hmin, hmax⟩

/-- Four samples, of which neither the first nor the last is the least or the greatest. -/
theorem histogram_summarises_four :
    let samples := [4, 9, 1, 6]
    samples ≠ [] ∧ samples.length < wordRange ∧ samples.sum < wordRange ∧
      ofSamples samples = ⟨4, 20, 1, 9⟩ ∧
      IsLeast {value | value ∈ samples} 1 ∧ IsGreatest {value | value ∈ samples} 9 ∧
      ofSamples [1, 4, 6, 9] = ofSamples samples ∧
      ((ofSamples samples).mean : ℝ) = ((20 / 4 : ℚ) : ℝ) ∧ (1 : ℚ) ≤ 20 / 4 ∧ (20 / 4 : ℚ) ≤ 9 := by
  intro samples
  have hne : samples ≠ [] := by decide
  have hlength : samples.length < wordRange := by decide
  have hsum : samples.sum < wordRange := by decide
  have hsamples : ofSamples samples = ⟨4, 20, 1, 9⟩ := by decide
  obtain ⟨-, hleast, hgreatest, -, horder, hquotient⟩ := histogram_summarises hne hlength
  obtain ⟨hmean, hmin, hmax⟩ := hquotient hsum
  simp only [hsamples, Nat.cast_ofNat, Nat.cast_one] at hleast hgreatest hmin hmax
  refine ⟨hne, hlength, hsum, hsamples, hleast, hgreatest, horder [1, 4, 6, 9] (by decide), ?_,
    hmin, hmax⟩
  rw [hmean, hsamples, Nat.cast_ofNat, Nat.cast_ofNat]

/-- A sum that does not fit into a word stays at the greatest one. -/
example : ofSamples [5, wordRange - 3, 7] = ⟨3, wordRange - 1, 5, wordRange - 3⟩ := by decide

end GlobeView.Histogram
