import GlobeView.Double.Arithmetic
import GlobeView.Proofs.ControllerRuns
import GlobeView.Random.Xoshiro

/-! # What turns the globe

The rotation is driven by the ticks and by where the pointer is from left to right.  A `Drive` is
what an action has of either; a `Steering` is the part of the state that drives read and write: the
rotation, and the place of the pointer from left to right.

* An action steers by its drive, and one without a drive leaves the steering alone
  (`steering_act`).  Hit tests, hovers, measurements and new data share the state with the rotation
  and the pointer, but none of them writes to either.
* A run steers by the drives of its actions (`steering_run`).

Two runs whose drives agree therefore turn the globe alike, whatever else happens in them
(`rotation_follows_drives`). -/

namespace GlobeView

/-- What an action has to do with the rotation. -/
inductive Drive (α : Type) where
  | tick
  | press (x : α)
  | move (x : α)
  | release (x : α)
  | leave
deriving DecidableEq, Repr

/-- What drives read and write. -/
structure Steering (α : Type) where
  rotation : Rotation α
  /-- Where the pointer was last seen, from left to right. -/
  pointerX : Option α
deriving DecidableEq, Repr

/-- A pointer event without its height. -/
def PointerEvent.drive {α : Type} : PointerEvent α → Drive α
  | .down position => .press position.x
  | .move position => .move position.x
  | .up position => .release position.x
  | .leave => .leave

variable {σ α : Type}

namespace Steering

variable [Scalar α]

/-- The steering after a drive. -/
def step (spin : Spin α) (s : Steering α) : Drive α → Steering α
  | .tick => { s with rotation := s.rotation.tick spin }
  | .press x => ⟨s.rotation.dragStart, some x⟩
  | .move x =>
    let dx := match s.pointerX with
      | some before => x - before
      | none => 0
    ⟨s.rotation.dragMove spin dx, some x⟩
  | .release x => ⟨s.rotation.dragEnd, some x⟩
  | .leave => ⟨s.rotation.dragEnd, none⟩

theorem theta_step (spin : Spin α) (s : Steering α) (d : Drive α) :
    (s.step spin d).rotation.theta = s.rotation.theta := by
  cases d with
  | tick =>
      simp only [step, Rotation.tick]
      split_ifs <;> rfl
  | move x =>
      simp only [step, Rotation.dragMove]
      split_ifs <;> rfl
  | press x | release x | leave => rfl

theorem theta_foldl (spin : Spin α) (drives : List (Drive α)) (s : Steering α) :
    (drives.foldl (step spin) s).rotation.theta = s.rotation.theta := by
  induction drives generalizing s with
  | nil => rfl
  | cons d rest ih => rw [List.foldl_cons, ih, theta_step]

end Steering

namespace Controller

/-- The drive of an action: ticks and pointer events have one. -/
def Action.drive? : Action α → Option (Drive α)
  | .tick _ => some .tick
  | .pointer event => some event.drive
  | _ => none

/-- The drives of a run. -/
def drives (actions : List (Action α)) : List (Drive α) := actions.filterMap Action.drive?

theorem drives_cons (a : Action α) (rest : List (Action α)) :
    drives (a :: rest) = a.drive?.toList ++ drives rest := by
  unfold drives
  rw [List.filterMap_cons]
  cases a.drive? <;> rfl

/-- The part of the state that drives read and write. -/
def steering (c : Controller σ α) : Steering α := ⟨c.rotation, c.pointer.map (·.x)⟩

variable [Scalar α]

/-- A pointer event steers by its drive: its height decides what is hovered and clicked, not how the
globe turns. -/
theorem steering_handle (event : PointerEvent α) (c : Controller σ α) :
    (c.handle event).2.steering = c.steering.step c.spin event.drive := by
  cases event with
  | down position => rfl
  | move position =>
      simp only [handle, pointerMove]
      split_ifs with hd
      · cases hp : c.pointer <;> simp only [steering, Steering.step, PointerEvent.drive, hp] <;> rfl
      · -- a move of the free globe hovers, and a drive that moves the free globe does nothing
        have hfree (dx : α) : c.rotation.dragMove c.spin dx = c.rotation := by
          rw [Rotation.dragMove, if_neg hd]
        simp only [steering, Steering.step, PointerEvent.drive, updateHover, setHover_eq, hfree]
        rfl
  | up position =>
      simp only [handle, pointerUp_eq]
      split
      · rw [click_eq]
        rfl
      · rfl
  | leave =>
      simp only [handle, pointerLeave, setHover_eq, endDrag_eq]
      rfl

variable [PhaseSource σ α]

/-- An action steers by its drive; one without a drive leaves the steering alone. -/
theorem steering_act (a : Action α) (c : Controller σ α) :
    (c.act a).steering = a.drive?.toList.foldl (Steering.step c.spin) c.steering := by
  obtain ⟨frame, rfl⟩ | ⟨event, rfl⟩ | ⟨ha, _, _, h⟩ | ⟨ha, _, _, _, _, h⟩ := c.act_cases a
  · rfl
  · exact steering_handle event c
  · rw [h]
    cases a <;> first | rfl | cases ha
  · rw [h]
    cases a <;> first | rfl | cases ha

theorem steering_run (actions : List (Action α)) (c : Controller σ α) :
    (c.run actions).steering = (drives actions).foldl (Steering.step c.spin) c.steering := by
  induction actions generalizing c with
  | nil => rfl
  | cons a rest ih =>
      calc (c.run (a :: rest)).steering
          = ((c.act a).run rest).steering := rfl
        _ = (drives rest).foldl (Steering.step c.spin) (c.act a).steering := by rw [ih, act_spin]
        _ = (drives (a :: rest)).foldl (Steering.step c.spin) c.steering := by
            rw [steering_act, ← List.foldl_append, drives_cons]

/-- The rotation of a globe is a function of its configuration and of what drove it. -/
theorem rotation_run (actions : List (Action α)) (config : Config α) (source : σ) :
    ((create config source).run actions).rotation =
      ((drives actions).foldl (Steering.step (.ofConfig config))
        ⟨.atRest config.initialPhi config.theta, none⟩).rotation :=
  congrArg Steering.rotation (steering_run actions (create config source))

/-- **Only ticks and the pointer's way from left to right turn the globe.**  Take two globes with
one configuration and any two runs whose ticks and pointer events agree but for the heights of the
pointer.  After as many of them in the one run as in the other, both globes are turned, tilted,
moving and held alike, whatever the markers, connections, heat, containers, measurements, heights,
frames, click handlers and seeds were; and no globe is ever tilted otherwise than configured. -/
theorem rotation_follows_drives {σ₁ σ₂ : Type} [PhaseSource σ₁ α] [PhaseSource σ₂ α]
    (config : Config α) (source₁ : σ₁) (source₂ : σ₂) :
    (∀ actions, ((create config source₁).run actions).rotation.theta = config.theta) ∧
    ∀ actions₁ actions₂ : List (Action α), drives actions₁ = drives actions₂ →
      ∀ before₁ before₂, before₁ <+: actions₁ → before₂ <+: actions₂ →
        (drives before₁).length = (drives before₂).length →
          ((create config source₁).run before₁).rotation =
            ((create config source₂).run before₂).rotation := by
  constructor
  · intro actions
    rw [rotation_run, Steering.theta_foldl]
    rfl
  · intro actions₁ actions₂ hdrives before₁ before₂ hbefore₁ hbefore₂ hlength
    have hprefix₁ : drives before₁ <+: drives actions₁ := hbefore₁.filterMap _
    have hprefix₂ : drives before₂ <+: drives actions₁ := hdrives ▸ hbefore₂.filterMap _
    have hshort : drives before₁ <+: drives before₂ :=
      List.prefix_of_prefix_length_le hprefix₁ hprefix₂ (Nat.le_of_eq hlength)
    have hsame : drives before₁ = drives before₂ := hshort.eq_of_length hlength
    rw [rotation_run, rotation_run, hsame]

/-- Two globes are dragged alike at different heights, one of them through new markers and a
measurement. -/
theorem rotation_follows_drives_dragged :
    let config : Config Float := .default
    let m : Marker Float := ⟨⟨10, 20⟩, 0.1, some "here", false⟩
    let before₁ : List (Action Float) :=
      [.tick ⟨0, 0, 0⟩, .pointer (.down ⟨10, 5⟩), .pointer (.move ⟨30, 7⟩)]
    let before₂ : List (Action Float) :=
      [.setMarkers [m], .tick ⟨8, 1, 9⟩, .resize ⟨500, 400⟩ 1, .pointer (.down ⟨10, 90⟩),
        .onClick "open", .pointer (.move ⟨30, 300⟩), .settle ⟨800, 800⟩ 2]
    let actions₁ := before₁ ++ [.pointer (.up ⟨30, 7⟩)]
    let actions₂ := before₂ ++ [.setMarkers [], .pointer (.up ⟨30, 0⟩)]
    let c₁ := (create config Unseeded.mk).run before₁
    let c₂ := (create config (Random.Xoshiro.ofSeed 7)).run before₂
    drives actions₁ = drives actions₂ ∧ (drives before₁).length = (drives before₂).length ∧
      c₁.rotation = c₂.rotation ∧ c₁.rotation.isDragging = true := by
  intro config m before₁ before₂ actions₁ actions₂ c₁ c₂
  have hdrives : drives actions₁ = drives actions₂ := by decide +kernel
  have hlength : (drives before₁).length = (drives before₂).length := by decide
  have hrotation : c₁.rotation = c₂.rotation :=
    (rotation_follows_drives config Unseeded.mk (Random.Xoshiro.ofSeed 7)).2 actions₁ actions₂
      hdrives before₁ before₂ (List.prefix_append _ _) (List.prefix_append _ _) hlength
  have hheld : c₁.rotation.isDragging = true := by decide +kernel
  exact ⟨hdrives, hlength, hrotation, hheld⟩

end Controller
end GlobeView
