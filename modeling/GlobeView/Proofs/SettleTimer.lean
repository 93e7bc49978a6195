import Mathlib.Data.List.Induction
import GlobeView.Proofs.Sizes

/-! # The timer of the second measurement

A sizer has one timer.  An observation sets it, also where the sizes stay as they were and where it
was set before; a question at a time that has reached it clears it and is answered with yes.

* What is set is given by the calls so far: the last observation, if no question has been answered
  with yes since (`Sizer.Awaiting`), and then its time and the delay (`Sizer.settleAt_run`).
  Times may come in any order, because the timer is only ever compared with the time of a question.
* Every yes uses up an observation.  A timer that is set counts as one in store, and what a call
  gives, an observation, is at least what it takes, a yes (`Sizer.yes_call_le`).
* So in any part of a run there are no more answers with yes than observations, and one more if the
  timer was set before (`Sizer.countYes_le`). -/

namespace GlobeView

open Scalar

theorem countP_cons_toNat {β : Type} (p : β → Bool) (b : β) (rest : List β) :
    (b :: rest).countP p = rest.countP p + (p b).toNat := by
  rw [List.countP_cons]
  cases p b <;> rfl

namespace Sizer

/-! ### Calls -/

/-- Something that is asked of a sizer. -/
inductive Call (α : Type) where
  | observe (container : ContainerSize α) (now : α)
  | settle (container : ContainerSize α) (now : α)
  | takeDue (now : α)

/-- Whether a call is an observation. -/
def Call.isObservation {α : Type} : Call α → Bool
  | .observe .. => true
  | _ => false

variable {α : Type} [Scalar α]

/-- The sizer after a call. -/
def call : Call α → Sizer α → Sizer α
  | .observe container now, s => (s.observe container now).2
  | .settle container now, s => (s.settle container now).2
  | .takeDue now, s => (s.takeDue now).2

/-- Whether a call is a question that is answered with yes. -/
def saysYes : Call α → Sizer α → Bool
  | .takeDue now, s => (s.takeDue now).1
  | _, _ => false

/-- The sizer after calls in order. -/
def run (calls : List (Call α)) (s : Sizer α) : Sizer α := calls.foldl (fun s a => s.call a) s

/-- How often a run answers with yes. -/
def countYes : List (Call α) → Sizer α → ℕ
  | [], _ => 0
  | a :: rest, s => (s.saysYes a).toNat + (s.call a).countYes rest

/-- The last observation of a run was at `time`, and no question has been answered with yes since. -/
def Awaiting (start : Sizer α) (calls : List (Call α)) (time : α) : Prop :=
  ∃ before container after, calls = before ++ .observe container time :: after ∧
    (∀ a ∈ after, a.isObservation = false) ∧
    (start.run (before ++ [.observe container time])).countYes after = 0

theorem run_append (before after : List (Call α)) (s : Sizer α) :
    s.run (before ++ after) = (s.run before).run after := List.foldl_append

theorem run_concat (calls : List (Call α)) (a : Call α) (s : Sizer α) :
    s.run (calls ++ [a]) = (s.run calls).call a := run_append ..

theorem countYes_concat (calls : List (Call α)) (a : Call α) (s : Sizer α) :
    s.countYes (calls ++ [a]) = s.countYes calls + ((s.run calls).saysYes a).toNat := by
  induction calls generalizing s with
  | nil => exact Nat.add_comm ..
  | cons b rest ih =>
      rw [List.cons_append, countYes, countYes, ih, Nat.add_assoc]
      rfl

/-! ### What a call does to the timer -/

theorem settleAt_settle (s : Sizer α) (container : ContainerSize α) (now : α) :
    (s.settle container now).2.settleAt = s.settleAt := by
  obtain ⟨_, _, hshape⟩ := s.settle_shape container now
  rw [hshape]

theorem settleAt_observe (s : Sizer α) (container : ContainerSize α) (now : α) :
    (s.observe container now).2.settleAt = some (now + s.settleDelay) :=
  settleAt_settle { s with settleAt := some (now + s.settleDelay) } container now

theorem settleAt_call {a : Call α} (ha : a.isObservation = false) (s : Sizer α) :
    (s.call a).settleAt = if s.saysYes a then none else s.settleAt := by
  cases a with
  | observe container now => cases ha
  | settle container now => exact s.settleAt_settle container now
  | takeDue now =>
      obtain ⟨_, _, _, heq⟩ | ⟨_, heq⟩ := s.takeDue_cases now
      · simp only [call, saysYes, heq, if_true]
      · simp only [call, saysYes, heq, Bool.false_eq_true, if_false]

theorem settleDelay_call (a : Call α) (s : Sizer α) : (s.call a).settleDelay = s.settleDelay := by
  have hsettle (s : Sizer α) (container : ContainerSize α) (now : α) :
      (s.settle container now).2.settleDelay = s.settleDelay := by
    obtain ⟨_, _, hshape⟩ := s.settle_shape container now
    rw [hshape]
  cases a with
  | observe container now =>
      exact hsettle { s with settleAt := some (now + s.settleDelay) } container now
  | settle container now => exact hsettle s container now
  | takeDue now =>
      obtain ⟨_, _, _, heq⟩ | ⟨_, heq⟩ := s.takeDue_cases now
      · simp only [call, heq]
      · simp only [call, heq]

theorem settleDelay_run (calls : List (Call α)) (s : Sizer α) :
    (s.run calls).settleDelay = s.settleDelay := by
  induction calls generalizing s with
  | nil => rfl
  | cons a rest ih => exact (ih (s.call a)).trans (s.settleDelay_call a)

/-! ### What is awaited -/

theorem not_awaiting_nil (start : Sizer α) (time : α) : ¬ start.Awaiting [] time := by
  rintro ⟨before, container, after, hcalls, _⟩
  exact absurd hcalls (by simp)

/-- What is awaited after one more call: an observation is, and what was awaited before still is
unless the call is answered with yes. -/
theorem awaiting_concat (start : Sizer α) (calls : List (Call α)) (a : Call α) (time : α) :
    start.Awaiting (calls ++ [a]) time ↔
      (∃ container, a = .observe container time) ∨
      (a.isObservation = false ∧ (start.run calls).saysYes a = false ∧
        start.Awaiting calls time) := by
  have hrun (before after : List (Call α)) (container : ContainerSize α) :
      (start.run (before ++ [.observe container time])).run after =
        start.run (before ++ .observe container time :: after) := by
    rw [← run_append, List.append_assoc, List.singleton_append]
  constructor
  · rintro ⟨before, container, after, hcalls, hquiet, hcount⟩
    obtain rfl | ⟨after, b, rfl⟩ := List.eq_nil_or_concat after
    · obtain ⟨_, hlast⟩ := List.append_inj' hcalls rfl
      exact .inl ⟨container, List.singleton_inj.mp hlast⟩
    · have hsplit : calls ++ [a] = (before ++ .observe container time :: after) ++ [b] := by
        simpa using hcalls
      obtain ⟨rfl, hlast⟩ := List.append_inj' hsplit rfl
      obtain rfl := List.singleton_inj.mp hlast
      rw [List.concat_eq_append, countYes_concat, Nat.add_eq_zero_iff, Bool.toNat_eq_zero, hrun]
        at hcount
      simp only [List.concat_eq_append, List.forall_mem_append, List.forall_mem_singleton] at hquiet
      exact .inr ⟨hquiet.2, hcount.2, before, container, after, rfl, hquiet.1, hcount.1⟩
  · rintro (⟨container, rfl⟩ | ⟨hquiet, hno, before, container, after, rfl, hafter, hcount⟩)
    · exact ⟨calls, container, [], rfl, by simp, rfl⟩
    · refine ⟨before, container, after ++ [a], by simp, ?_, ?_⟩
      · rw [List.forall_mem_append, List.forall_mem_singleton]
        exact ⟨hafter, hquiet⟩
      · rw [countYes_concat, hcount, hrun, hno]
        rfl

theorem settleAt_run {start : Sizer α} (hstart : start.settleAt = none) (calls : List (Call α))
    (deadline : α) :
    (start.run calls).settleAt = some deadline ↔
      ∃ time, start.Awaiting calls time ∧ deadline = time + start.settleDelay := by
  induction calls using List.reverseRecOn with
  | nil =>
      have hnone : (start.run []).settleAt ≠ some deadline := by
        show start.settleAt ≠ _
        simp [hstart]
      refine iff_of_false hnone ?_
      rintro ⟨time, hawaiting, _⟩
      exact start.not_awaiting_nil time hawaiting
  | append_singleton calls a ih =>
      rw [run_concat]
      simp only [awaiting_concat]
      cases ha : a.isObservation with
      | true =>
          cases a with
          | observe container now =>
              have hset : ((start.run calls).call (.observe container now)).settleAt =
                  some (now + start.settleDelay) := by
                rw [← start.settleDelay_run calls]
                exact settleAt_observe ..
              rw [hset, Option.some_inj]
              constructor
              · rintro rfl
                exact ⟨now, .inl ⟨container, rfl⟩, rfl⟩
              · rintro ⟨time, ⟨_, heq⟩ | ⟨hquiet, _⟩, rfl⟩
                · cases heq
                  rfl
                · cases hquiet
          | _ => cases ha
      | false =>
          have hother (time : α) : ¬ ∃ container, a = .observe container time := by
            rintro ⟨container, rfl⟩
            cases ha
          rw [settleAt_call ha]
          cases hyes : (start.run calls).saysYes a with
          | true => simp [hother]
          | false => simpa [hother] using ih

/-! ### What is answered -/

section answers

variable {start : Sizer α} (hstart : start.settleAt = none) (calls : List (Call α))

include hstart

/-- The timer is set exactly between an observation and the next yes. -/
theorem settlePending_run :
    (start.run calls).settlePending = true ↔ ∃ time, start.Awaiting calls time := by
  unfold settlePending
  rw [Option.isSome_iff_exists]
  constructor
  · rintro ⟨deadline, hset⟩
    obtain ⟨time, hawaiting, _⟩ := (settleAt_run hstart calls deadline).mp hset
    exact ⟨time, hawaiting⟩
  · rintro ⟨time, hawaiting⟩
    exact ⟨_, (settleAt_run hstart calls _).mpr ⟨time, hawaiting, rfl⟩⟩

/-- A question is answered with yes exactly if an observation is awaited and its delay is over. -/
theorem takeDue_run (now : α) :
    ((start.run calls).takeDue now).1 = true ↔
      ∃ time, start.Awaiting calls time ∧ time + start.settleDelay ≤ now := by
  have hiff := settleAt_run hstart calls
  obtain ⟨deadline, hset, hdue, heq⟩ | ⟨hlate, heq⟩ := (start.run calls).takeDue_cases now
  · rw [heq]
    obtain ⟨time, hawaiting, rfl⟩ := (hiff deadline).mp hset
    exact iff_of_true rfl ⟨time, hawaiting, hdue⟩
  · rw [heq]
    refine iff_of_false Bool.false_ne_true ?_
    rintro ⟨time, hawaiting, hdue⟩
    exact hlate _ ((hiff _).mpr ⟨time, hawaiting, rfl⟩) hdue

end answers

/-! ### Observations in store -/

/-- A timer that is set has an observation in store. -/
def inStore (s : Sizer α) : ℕ := s.settlePending.toNat

omit [Scalar α] in
theorem inStore_congr {s s' : Sizer α} (h : s'.settleAt = s.settleAt) : s'.inStore = s.inStore := by
  rw [inStore, inStore, settlePending, settlePending, h]

omit [Scalar α] in
theorem inStore_le_one (s : Sizer α) : s.inStore ≤ 1 := Bool.toNat_le _

theorem inStore_of_saysYes {a : Call α} {s : Sizer α} (h : s.saysYes a = true) : s.inStore = 1 := by
  cases a with
  | takeDue now =>
      obtain ⟨deadline, hset, _⟩ | ⟨_, heq⟩ := s.takeDue_cases now
      · simp [inStore, settlePending, hset]
      · simp [saysYes, heq] at h
  | _ => cases h

/-- A yes takes an observation out of the store, and only an observation puts one in. -/
theorem yes_call_le (a : Call α) (s : Sizer α) :
    (s.saysYes a).toNat + (s.call a).inStore ≤ a.isObservation.toNat + s.inStore := by
  cases ha : a.isObservation with
  | true =>
      have hno : s.saysYes a = false := by
        cases a with
        | observe container now => rfl
        | _ => cases ha
      have hstore := (s.call a).inStore_le_one
      rw [hno]
      simp only [Bool.toNat_false, Bool.toNat_true]
      omega
  | false =>
      have hset := settleAt_call ha s
      cases hyes : s.saysYes a with
      | true =>
          rw [hyes, if_pos rfl] at hset
          have hempty : (s.call a).inStore = 0 := by simp [inStore, settlePending, hset]
          rw [hempty, inStore_of_saysYes hyes]
          exact Nat.le_refl 1
      | false =>
          rw [hyes, if_neg Bool.false_ne_true] at hset
          rw [inStore_congr hset]

theorem countYes_le (calls : List (Call α)) (s : Sizer α) :
    s.countYes calls + (s.run calls).inStore ≤ calls.countP Call.isObservation + s.inStore := by
  induction calls generalizing s with
  | nil => exact Nat.le_refl _
  | cons a rest ih =>
      have hcall := s.yes_call_le a
      have hrest := ih (s.call a)
      have hrun : s.run (a :: rest) = (s.call a).run rest := rfl
      rw [countYes, hrun, countP_cons_toNat]
      omega

end Sizer
end GlobeView
