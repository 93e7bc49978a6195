import GlobeView.Proofs.SettleTimer
import GlobeView.Proofs.SizeAgreement

/-! # Second measurements in frames

A mounted globe asks its timer once in every frame and measures the container if the answer is yes.
Nothing else that is done with a session measures inside a frame.

Every frame takes as many observations out of the store of the timer as it measures
(`Controller.inStore_drawFrame`), and what puts them in is a notice of a resize: mounting,
`Session.notifyResize`, or a resize that the controller is told of directly (`Session.use_le`).  So
the frames of a run measure at most once for every notice, and a run that begins after a mount has the
one of the mount in store (`Session.countMeasurements_le`). -/

namespace GlobeView

variable {σ τ α : Type} [Scalar α]

/-! ### Controllers -/

namespace Controller

/-- Whether an action tells the globe of a resize. -/
def Action.isNotice {α : Type} : Action α → Bool
  | .resize .. => true
  | _ => false

variable [PhaseSource σ α]

/-- A frame measures when an observation is in store, and takes it out. -/
theorem inStore_drawFrame (container : ContainerSize α) (frame : Frame α) (c : Controller σ α) :
    (c.settleDue frame.time).1.toNat + (c.drawFrame container frame).2.sizer.inStore ≤
      c.sizer.inStore := by
  have hsettled : (c.settled container frame.time).2.sizer.inStore =
      (c.sizer.call (.takeDue frame.time)).inStore := by
    unfold settled
    split_ifs
    · rw [settle_eq]
      exact Sizer.inStore_congr (Sizer.settleAt_settle ..)
    · rfl
  have hask : (c.settleDue frame.time).1.toNat + (c.sizer.call (.takeDue frame.time)).inStore ≤
      0 + c.sizer.inStore := c.sizer.yes_call_le (.takeDue frame.time)
  rw [← hsettled, Nat.zero_add] at hask
  exact hask

theorem drawFrame_of_not_due {frame : Frame α} {c : Controller σ α}
    (h : (c.settleDue frame.time).1 = false) (container container' : ContainerSize α) :
    c.drawFrame container frame = c.drawFrame container' frame := by
  have hsettled (container : ContainerSize α) :
      c.settled container frame.time = (none, (c.settleDue frame.time).2) := by
    rw [settled, h]
    rfl
  rw [drawFrame_eq, drawFrame_eq, hsettled, hsettled]

theorem inStore_act (a : Action α) (c : Controller σ α) :
    (c.act a).sizer.inStore ≤ a.isNotice.toNat + c.sizer.inStore := by
  cases ha : a.isMeasurement with
  | false =>
      rw [act_sizer ha]
      exact Nat.le_add_left _ _
  | true =>
      cases a with
      | resize container now =>
          exact (Sizer.inStore_le_one _).trans (Nat.le_add_right 1 _)
      | settleDue now =>
          have hask := c.sizer.yes_call_le (.takeDue now)
          exact (Nat.le_add_left _ _).trans hask
      | settle container now =>
          rw [act, settle_eq]
          exact (Sizer.inStore_congr (Sizer.settleAt_settle ..)).le.trans (Nat.le_add_left _ _)
      | _ => cases ha

theorem inStore_run (actions : List (Action α)) (c : Controller σ α) :
    (c.run actions).sizer.inStore ≤ actions.countP Action.isNotice + c.sizer.inStore := by
  induction actions generalizing c with
  | nil => exact (Nat.zero_add _).ge
  | cons a rest ih =>
      have hact := inStore_act a c
      have hrest := ih (c.act a)
      have hrun : c.run (a :: rest) = (c.act a).run rest := rfl
      rw [hrun, countP_cons_toNat]
      omega

end Controller

/-! ### Sessions -/

namespace Session

/-- Something that is done with a session: one of its own steps, or anything to its controller. -/
inductive Use (τ α : Type) where
  | step (step : Step τ α)
  | control (actions : List (Controller.Action α))

/-- How often the globe is told of a resize. -/
def Use.notices : Use τ α → ℕ
  | .step (.notifyResize _) => 1
  | .step _ => 0
  | .control actions => actions.countP Controller.Action.isNotice

variable [PhaseSource σ α]

/-- The session after a use. -/
def use : Use τ α → Session σ τ α → Session σ τ α
  | .step step, s => s.perform step
  | .control actions, s => (s.withController fun c => ((), c.run actions)).2

/-- How often a task of a frame measures the container: once if it draws and the second measurement
is due. -/
def taskMeasurements (frame : Frame α) : Task τ → Session σ τ α → ℕ
  | .draw, s => (s.controller.settleDue frame.time).1.toNat
  | .other _, _ => 0

/-- How often the tasks of a frame measure the container. -/
def frameMeasurements (frame : Frame α) : List (Task τ) → Session σ τ α → ℕ
  | [], _ => 0
  | task :: rest, s =>
    s.taskMeasurements frame task + (s.runTask frame task).frameMeasurements frame rest

/-- How often a use measures the container inside a frame. -/
def measurements : Use τ α → Session σ τ α → ℕ
  | .step (.advance dt), s =>
    let ((frame, tasks), clock) := s.clock.advance dt
    frameMeasurements frame (tasks.map (·.2)) { s with clock := clock }
  | .step (.draw frame), s => s.frameMeasurements frame [.draw]
  | _, _ => 0

/-- How often a run measures the container inside its frames. -/
def countMeasurements : List (Use τ α) → Session σ τ α → ℕ
  | [], _ => 0
  | u :: rest, s => s.measurements u + (s.use u).countMeasurements rest

theorem frameMeasurements_le (frame : Frame α) (tasks : List (Task τ)) (s : Session σ τ α) :
    s.frameMeasurements frame tasks +
        (tasks.foldl (runTask frame) s).controller.sizer.inStore ≤ s.controller.sizer.inStore := by
  induction tasks generalizing s with
  | nil => exact (Nat.zero_add _).le
  | cons task rest ih =>
      have hrest := ih (s.runTask frame task)
      have htask : s.taskMeasurements frame task +
          (s.runTask frame task).controller.sizer.inStore ≤ s.controller.sizer.inStore := by
        cases task with
        | draw => exact s.controller.inStore_drawFrame s.container frame
        | other tag => exact (Nat.zero_add _).le
      rw [frameMeasurements, List.foldl_cons]
      omega

/-- A use takes out of the store what it measures in frames, and puts in its notices at most. -/
theorem use_le (u : Use τ α) (s : Session σ τ α) :
    s.measurements u + (s.use u).controller.sizer.inStore ≤
      u.notices + s.controller.sizer.inStore := by
  cases u with
  | control actions =>
      have hrun := s.controller.inStore_run actions
      have hnone : s.measurements (.control actions) = 0 := rfl
      rw [hnone, Nat.zero_add]
      exact hrun
  | step step =>
      cases hq : step.isQuiet with
      | true =>
          have hnone : s.measurements (.step step) = 0 := by
            cases step with
            | advance | draw | notifyResize => cases hq
            | _ => rfl
          obtain ⟨_, hsizer⟩ := perform_of_isQuiet hq s
          rw [hnone, use, hsizer, Nat.zero_add]
          exact Nat.le_add_left _ _
      | false =>
          cases step with
          | advance dt =>
              have hframe := frameMeasurements_le (s.clock.advance dt).1.1
                ((s.clock.advance dt).1.2.map (·.2)) { s with clock := (s.clock.advance dt).2 }
              exact hframe.trans (Nat.le_add_left _ _)
          | draw frame =>
              exact (s.frameMeasurements_le frame [.draw]).trans (Nat.le_add_left _ _)
          | notifyResize now =>
              have hone := (s.use (.step (.notifyResize now))).controller.sizer.inStore_le_one
              have hnone : s.measurements (.step (.notifyResize now)) = 0 := rfl
              rw [hnone, Nat.zero_add]
              exact hone.trans (Nat.le_add_right 1 _)
          | _ => cases hq

/-- The frames of a run measure once at most for every notice, and for the one in store. -/
theorem countMeasurements_le (uses : List (Use τ α)) (s : Session σ τ α) :
    s.countMeasurements uses ≤ (uses.map Use.notices).sum + s.controller.sizer.inStore := by
  induction uses generalizing s with
  | nil => exact Nat.zero_le _
  | cons u rest ih =>
      have huse := s.use_le u
      have hrest := ih (s.use u)
      rw [countMeasurements, List.map_cons, List.sum_cons]
      omega

end Session

/-- **Second measurements are debounced.**  Take a sizer of any configuration after any calls, at times
in any order.  A question is answered with yes exactly if there has been an observation since the last
yes, and the time of the last one and the delay are over; and the timer is set exactly between an
observation and the next yes.  So a second measurement does not set it, and in any part of a run there
are at most as many answers with yes as observations, and one more if the timer was set before.

In any part of the life of a session, its frames measure the container at most as often as the globe is
told of a resize, by `Session.notifyResize` or at its controller, and once more if the timer was set
before, as it is after mounting; in a frame that does not measure, what the container would measure
plays no part. -/
theorem settling_debounced [PhaseSource σ α] (cfg : Config α) :
    let start := Sizer.ofConfig cfg
    (∀ (calls : List (Sizer.Call α)) (now : α),
      ((start.run calls).takeDue now).1 = true ↔
        ∃ time, start.Awaiting calls time ∧ time + cfg.settleDelay ≤ now) ∧
    (∀ calls : List (Sizer.Call α),
      (start.run calls).settlePending = true ↔ ∃ time, start.Awaiting calls time) ∧
    (∀ (s : Sizer α) (container : ContainerSize α) (now : α),
      (s.settle container now).2.settleAt = s.settleAt) ∧
    (∀ (s : Sizer α) (calls : List (Sizer.Call α)),
      s.countYes calls ≤ calls.countP Sizer.Call.isObservation + s.settlePending.toNat) ∧
    (∀ (s : Session σ τ α) (uses : List (Session.Use τ α)),
      s.countMeasurements uses ≤
        (uses.map Session.Use.notices).sum + s.controller.sizer.settlePending.toNat) ∧
    (∀ (controller : Controller σ α) (container : ContainerSize α) (clock : StepClock (Task τ) α)
      (now : α) (uses : List (Session.Use τ α)),
      (Session.mount controller container clock now).countMeasurements uses ≤
        1 + (uses.map Session.Use.notices).sum) ∧
    ∀ (c : Controller σ α) (frame : Frame α) (container container' : ContainerSize α),
      (c.settleDue frame.time).1 = false →
        c.drawFrame container frame = c.drawFrame container' frame := by
  intro start
  refine ⟨Sizer.takeDue_run rfl, Sizer.settlePending_run rfl, Sizer.settleAt_settle, ?_,
    fun s uses => s.countMeasurements_le uses, ?_, ?_⟩
  · intro s calls
    exact (Nat.le_add_right _ _).trans (s.countYes_le calls)
  · intro controller container clock now uses
    have hcount := (Session.mount controller container clock now).countMeasurements_le uses
    have hone := (Session.mount controller container clock now).controller.sizer.inStore_le_one
    omega
  · exact fun c frame container container' h => c.drawFrame_of_not_due h container container'

/-- Two observations and a question about the past come to one awaited observation; a session that is
told of a resize once measures twice in its frames. -/
theorem settling_debounced_bursts :
    let cfg : Config Float := .default
    let box : ContainerSize Float := ⟨500, 400⟩
    let calls : List (Sizer.Call Float) :=
      [.observe box 1, .takeDue 1.1, .observe box 1.1, .settle box 1.12, .takeDue 0.5]
    let start := Sizer.ofConfig cfg
    let session : Session Unseeded Unit Float :=
      .mount (.create cfg .mk) box (.startingAt 0) 0
    let uses : List (Session.Use Unit Float) :=
      [.step (.advance 0), .step (.container ⟨800, 800⟩), .step (.advance 0.2), .step (.advance 0.2),
        .step (.notifyResize 0.5), .step (.advance 0.2), .step (.advance 0.2)]
    (∃ time, start.Awaiting calls time ∧ time + cfg.settleDelay ≤ 1.3) ∧
      session.countMeasurements uses = 2 ∧
      session.countMeasurements uses ≤ 1 + (uses.map Session.Use.notices).sum ∧
      ((Controller.create cfg Unseeded.mk).settleDue 0).1 = false ∧
      (Controller.create cfg Unseeded.mk).drawFrame box ⟨0, 0, 0⟩ =
        (Controller.create cfg Unseeded.mk).drawFrame ⟨800, 800⟩ ⟨0, 0, 0⟩ := by
  intro cfg box calls start session uses
  obtain ⟨hasked, _, _, _, _, hmounted, hframe⟩ :=
    settling_debounced (σ := Unseeded) (τ := Unit) cfg
  have hyes : ((start.run calls).takeDue 1.3).1 = true := by decide +kernel
  have htwice : session.countMeasurements uses = 2 := by decide +kernel
  exact ⟨(hasked calls 1.3).mp hyes, htwice, hmounted _ _ _ _ uses, rfl,
    hframe _ _ _ _ rfl⟩

end GlobeView
