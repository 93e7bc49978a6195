import GlobeView.Proofs.DoubleSign
import GlobeView.Sizing

/-! # Sizes that follow the container

A configuration gives every container its sizes (`Config.sizeFor`).  `Sizer.Measured cfg container`
says that a sizer works with that configuration and that its current sizes are those of `container`.
A measurement makes them those of the container measured now, also where it answers no change: on
the sizes of an accepted configuration, to test equal is to be equal (`Config.sizesExact_of_check`).
Every size tests equal to itself there (`Config.sizesDefined_of_check`), so that measuring a
container again changes nothing.
-/

namespace GlobeView

variable {α : Type} [Scalar α]

namespace Config

/-- The sizes that a configuration gives a container. -/
def sizeFor (cfg : Config α) (container : ContainerSize α) : SurfaceSize α :=
  surfaceSize cfg.sizingMode cfg.scale cfg.renderCap cfg.fallbackSize container

/-- Sizes of two containers that test equal are equal. -/
def SizesExact (cfg : Config α) : Prop :=
  ∀ c c', (cfg.sizeFor c == cfg.sizeFor c') = true → cfg.sizeFor c = cfg.sizeFor c'

/-- The sizes of every container test equal to themselves. -/
def SizesDefined (cfg : Config α) : Prop := ∀ c, (cfg.sizeFor c == cfg.sizeFor c) = true

theorem holds_of_check {cfg : Config α} (h : cfg.check = .ok ()) {field : String}
    {expected : Expected} {value : α} (hmem : (field, expected, value) ∈ cfg.ranges) :
    expected.holds value = true := by
  unfold check at h
  split at h
  · cases h
  · next hnone =>
    rw [violation?, List.findSome?_eq_none_iff] at hnone
    have hentry := hnone _ hmem
    by_contra hfalse
    simp [hfalse] at hentry

theorem positive_of_check {cfg : Config α} (h : cfg.check = .ok ()) (field : String) {value : α}
    (hmem : (field, .positive, value) ∈ cfg.ranges) : 0 < value ∧ Scalar.isFinite value = true := by
  have hholds := holds_of_check h hmem
  simp only [Expected.holds, Bool.and_eq_true, decide_eq_true_eq] at hholds
  exact hholds

theorem pos_of_check {cfg : Config α} (h : cfg.check = .ok ()) (field : String) {value : α}
    (hmem : (field, .positive, value) ∈ cfg.ranges) : 0 < value :=
  (positive_of_check h field hmem).1

end Config

theorem SizingMode.baseSize_pos (mode : SizingMode) {fallback : α} (h : 0 < fallback)
    (c : ContainerSize α) : 0 < mode.baseSize fallback c := by
  simp only [baseSize]
  split_ifs with hbase
  · exact hbase
  · exact h

/-! ### Doubles -/

section doubles
open Double

variable {cfg : Config Float}

theorem Config.sizeFor_factors (h : cfg.check = .ok ()) (c : ContainerSize Float) :
    0 < cfg.sizingMode.baseSize cfg.fallbackSize c ∧ 0 < cfg.scale ∧ 0 < cfg.renderCap := by
  have hfallback : 0 < cfg.fallbackSize := pos_of_check h "fallback_size" (by simp [ranges])
  exact ⟨cfg.sizingMode.baseSize_pos hfallback c, pos_of_check h "scale" (by simp [ranges]),
    pos_of_check h "render_cap" (by simp [ranges])⟩

theorem Config.unsigned_sizeFor (h : cfg.check = .ok ()) (c : ContainerSize Float) :
    Unsigned (cfg.sizeFor c).display ∧ Unsigned (cfg.sizeFor c).render := by
  obtain ⟨hbase, hscale, hcap⟩ := sizeFor_factors h c
  have hdisplay : Unsigned (cfg.sizeFor c).display := (Unsigned.of_pos hbase).mul (.of_pos hscale)
  exact ⟨hdisplay, hdisplay.min (.of_pos hcap)⟩

theorem Config.defined_sizeFor (h : cfg.check = .ok ()) (c : ContainerSize Float) :
    Defined (cfg.sizeFor c).display ∧ Defined (cfg.sizeFor c).render := by
  obtain ⟨hbase, hscale, hcap⟩ := sizeFor_factors h c
  have hdisplay : Defined (cfg.sizeFor c).display := .mul_of_pos hbase hscale
  exact ⟨hdisplay, hdisplay.min (.of_pos hcap)⟩

theorem Config.sizesDefined_of_check (h : cfg.check = .ok ()) : cfg.SizesDefined := by
  intro c
  obtain ⟨hdisplay, hrender⟩ := defined_sizeFor h c
  show ((cfg.sizeFor c).display == (cfg.sizeFor c).display &&
    (cfg.sizeFor c).render == (cfg.sizeFor c).render) = true
  rw [hdisplay.beq_self, hrender.beq_self]
  rfl

/-- The sizes that an accepted configuration gives are equal where they test equal. -/
theorem Config.sizesExact_of_check (h : cfg.check = .ok ()) : cfg.SizesExact := by
  intro c c' heq
  obtain ⟨hdisplay, hrender⟩ := unsigned_sizeFor h c
  obtain ⟨hdisplay', hrender'⟩ := unsigned_sizeFor h c'
  have htest : ((cfg.sizeFor c).display == (cfg.sizeFor c').display &&
      (cfg.sizeFor c).render == (cfg.sizeFor c').render) = true := heq
  rw [Bool.and_eq_true] at htest
  have hd := hdisplay.eq_of_beq hdisplay' htest.1
  have hr := hrender.eq_of_beq hrender' htest.2
  generalize cfg.sizeFor c = s at hd hr ⊢
  generalize cfg.sizeFor c' = s' at hd hr ⊢
  cases s
  cases s'
  simp only at hd hr
  rw [hd, hr]

end doubles

/-! ### Sizers -/

namespace Sizer

/-- A sizer works with a configuration and has the sizes of a container. -/
structure Measured (cfg : Config α) (container : ContainerSize α) (s : Sizer α) : Prop where
  target : ∀ c, s.target c = cfg.sizeFor c
  size : s.size = cfg.sizeFor container

variable {cfg : Config α} {before container : ContainerSize α} {now : α} {s : Sizer α}

theorem measured_ofConfig (cfg : Config α) : (Sizer.ofConfig cfg).Measured cfg ⟨0, 0⟩ where
  target _ := rfl
  size := rfl

theorem settle_shape (s : Sizer α) (container : ContainerSize α) (now : α) :
    ∃ size lastResize,
      (s.settle container now).2 = { s with size := size, lastResize := lastResize } := by
  unfold settle
  simp only
  split_ifs <;> exact ⟨_, _, rfl⟩

/-- A question is answered with yes, and the timer is cleared, exactly if its time has come. -/
theorem takeDue_cases (s : Sizer α) (now : α) :
    (∃ deadline, s.settleAt = some deadline ∧ deadline ≤ now ∧
      s.takeDue now = (true, { s with settleAt := none })) ∨
    (∀ deadline, s.settleAt = some deadline → ¬ deadline ≤ now) ∧ s.takeDue now = (false, s) := by
  unfold takeDue
  cases s.settleAt with
  | none => exact .inr ⟨by simp, rfl⟩
  | some deadline =>
      by_cases hdue : deadline ≤ now
      · exact .inl ⟨deadline, rfl, hdue, if_pos hdue⟩
      · refine .inr ⟨?_, if_neg hdue⟩
        intro deadline' heq
        exact Option.some.inj heq ▸ hdue

theorem takeDue_shape (s : Sizer α) (now : α) :
    ∃ settleAt, (s.takeDue now).2 = { s with settleAt := settleAt } := by
  obtain ⟨_, _, _, heq⟩ | ⟨_, heq⟩ := s.takeDue_cases now
  · exact ⟨_, congrArg Prod.snd heq⟩
  · exact ⟨_, congrArg Prod.snd heq⟩

namespace Measured

/-- A second measurement takes the sizes of the container over, and what it answers brings a surface
of the old size to the new one. -/
theorem settle (h : s.Measured cfg before) (hexact : cfg.SizesExact) (container : ContainerSize α)
    (now : α) :
    (s.settle container now).2.Measured cfg container ∧
      (s.settle container now).1.getD s.size = cfg.sizeFor container := by
  unfold Sizer.settle
  simp only
  split_ifs with heq
  · have hsame : s.size = cfg.sizeFor container := by
      rw [h.target, h.size] at heq
      rw [h.size]
      exact (hexact _ _ heq).symm
    exact ⟨⟨h.target, hsame⟩, hsame⟩
  · exact ⟨⟨h.target, h.target container⟩, h.target container⟩

theorem observe (h : s.Measured cfg before) (hexact : cfg.SizesExact) (container : ContainerSize α)
    (now : α) :
    (s.observe container now).2.Measured cfg container ∧
      (s.observe container now).1.getD s.size = cfg.sizeFor container := by
  have harmed : ({ s with settleAt := some (now + s.settleDelay) } : Sizer α).Measured cfg before :=
    ⟨h.target, h.size⟩
  exact harmed.settle hexact container now

theorem settle_self (h : s.Measured cfg container) (hdefined : cfg.SizesDefined) (now : α) :
    s.settle container now = (none, s) := by
  unfold Sizer.settle
  simp only [h.target, h.size, hdefined container, if_true]

theorem takeDue (h : s.Measured cfg before) (now : α) : (s.takeDue now).2.Measured cfg before := by
  obtain ⟨_, hshape⟩ := s.takeDue_shape now
  rw [hshape]
  exact ⟨h.target, h.size⟩

end Measured
end Sizer
end GlobeView
