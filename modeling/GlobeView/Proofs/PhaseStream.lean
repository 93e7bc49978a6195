import Mathlib.Data.List.Basic
import Std.Data.HashMap.Lemmas
import GlobeView.Breathing

/-! # The stream of phases

A source of phases is a stream: `PhaseSource.nth i` is its draw number `i`, whoever asks for it.

`Phases.Drawn source count p` says that the cache `p` holds the first `count` draws of `source`, each
at its own place, and that the next draw is still to come.  Asking for a place that was seen before
costs no draw, asking for the next place costs one, so markers that are animated from such a cache
show at the phase of their place however many places were known before (`Phases.Drawn.animate`). -/

namespace GlobeView

namespace PhaseSource

variable (α : Type) {σ : Type} [PhaseSource σ α]

/-- A source after `count` draws. -/
def after : ℕ → σ → σ
  | 0, source => source
  | count + 1, source => (draw (α := α) (after count source)).2

/-- Draw number `index` of a source. -/
def nth (index : ℕ) (source : σ) : α := (draw (α := α) (after α index source)).1

end PhaseSource

variable {σ α : Type} [PhaseSource σ α]

namespace Phases

/-- The first `count` draws of a source are known, each at its place. -/
structure Drawn (source : σ) (count : ℕ) (p : Phases σ α) : Prop where
  known : ∀ index, p.known? index = if index < count then some (PhaseSource.nth α index source) else none
  size : p.size = count
  source : p.source = PhaseSource.after α count source

theorem drawn_ofSource (source : σ) : (ofSource source : Phases σ α).Drawn source 0 where
  known index := by simp [known?, ofSource]
  size := by simp [size, ofSource]
  source := rfl

variable {source : σ} {count index : ℕ} {p : Phases σ α}

namespace Drawn

theorem phase_of_lt (h : p.Drawn source count) (hi : index < count) :
    p.phase index = (PhaseSource.nth α index source, p) := by
  have hk := h.known index
  rw [if_pos hi] at hk
  simp only [phase, hk]

theorem phase_next (h : p.Drawn source count) :
    (p.phase count).1 = PhaseSource.nth α count source ∧
      (p.phase count).2.Drawn source (count + 1) := by
  have hk := h.known count
  rw [if_neg (Nat.lt_irrefl count)] at hk
  have hd : PhaseSource.draw p.source =
      (PhaseSource.nth α count source, PhaseSource.after α (count + 1) source) := by
    rw [h.source]
    rfl
  have hfresh : count ∉ p.known := by
    rw [Std.HashMap.mem_iff_isSome_getElem?]
    simpa [known?] using hk
  simp only [phase, hk, hd]
  refine ⟨trivial, ?_, ?_, rfl⟩
  · intro index
    have hi := h.known index
    simp only [known?, Std.HashMap.getElem?_insert, beq_iff_eq] at hi ⊢
    by_cases heq : count = index
    · rw [if_pos heq, heq, if_pos (Nat.lt_succ_self index)]
    · rw [if_neg heq, hi]
      apply if_congr _ rfl rfl
      omega
  · have hs := h.size
    simp only [Phases.size, Std.HashMap.size_insert, if_neg hfresh] at hs ⊢
    rw [hs]

theorem phase (h : p.Drawn source count) (hi : index ≤ count) :
    (p.phase index).1 = PhaseSource.nth α index source ∧
      (p.phase index).2.Drawn source (max count (index + 1)) := by
  obtain hlt | rfl := Nat.lt_or_eq_of_le hi
  · rw [h.phase_of_lt hlt, Nat.max_eq_left hlt]
    exact ⟨rfl, h⟩
  · rw [Nat.max_eq_right (Nat.le_succ index)]
    exact h.phase_next

end Drawn

variable [Scalar α]

/-- How a marker shows at place `index`. -/
def shown (source : σ) (elapsed : α) (index : ℕ) (m : Marker α) : AnimatedMarker α :=
  ⟨m.location, m.size * sizeFactor (PhaseSource.nth α index source) elapsed m.pulse⟩

namespace Drawn

theorem animateFrom (elapsed : α) (markers : List (Marker α)) (h : p.Drawn source count)
    (hi : index ≤ count) :
    (p.animateFrom elapsed index markers).1 =
        markers.mapIdx (fun i m => shown source elapsed (index + i) m) ∧
      (p.animateFrom elapsed index markers).2.Drawn source
        (max count (index + markers.length)) := by
  induction markers generalizing index count p with
  | nil =>
      rw [List.length_nil, Nat.add_zero, Nat.max_eq_left hi]
      exact ⟨rfl, h⟩
  | cons m rest ih =>
      obtain ⟨hphase, hdrawn⟩ := h.phase hi
      obtain ⟨hrest, hall⟩ := ih hdrawn (Nat.le_max_right count (index + 1))
      unfold Phases.animateFrom effectiveSize
      rw [List.mapIdx_cons]
      constructor
      · simp only [hphase, hrest, shown, Nat.add_zero, Nat.add_assoc, Nat.add_comm 1]
      · have hlen : max (max count (index + 1)) (index + 1 + rest.length) =
            max count (index + (m :: rest).length) := by
          rw [List.length_cons]
          omega
        rw [← hlen]
        exact hall

/-- Whatever was drawn before, every marker shows at the phase of its place, and the draws go on to
the end of the list. -/
theorem animate (elapsed : α) (markers : List (Marker α)) (h : p.Drawn source count) :
    (p.animate elapsed markers).1 = markers.mapIdx (shown source elapsed) ∧
      (p.animate elapsed markers).2.Drawn source (max count markers.length) := by
  have hfrom := h.animateFrom elapsed markers (Nat.zero_le count)
  simp only [Nat.zero_add] at hfrom
  exact hfrom

end Drawn
end Phases
end GlobeView
