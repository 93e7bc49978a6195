import GlobeView.Proofs.Coasting

/-! # Dragging

While the globe is held, each move of the pointer turns it by the way since the place where the
pointer was before.  `Steering.Pulled` says what all moves since the press have come to: the ways
add up to the way from the first place to the last, and the velocity is that of the last way alone.
Nothing that happens in between but a move changes this (`Steering.Pulled.run`).

* A drag turns the globe by its endpoints; ticks show it as it is turned, and neither they nor the
  moves look for a marker (`Controller.drag_turns_by_endpoints`).
* A gesture in a queue passes through evenly spaced places, so that its last way is the whole way
  divided by their number (`Controller.gesture_turns`). -/

namespace GlobeView

variable {σ α : Type}

/-- Where a drive moves the pointer. -/
def Drive.moveTo? : Drive α → Option α
  | .move x => some x
  | _ => none

/-- Whether a drive leaves the grip on the globe as it is. -/
def Drive.keepsGrip : Drive α → Bool
  | .tick | .move _ => true
  | .press _ | .release _ | .leave => false

namespace Steering

/-- A globe that was turned as in `r`, then pressed at `start` and pulled through `xs`. -/
structure Pulled (spin : Spin ℝ) (r : Rotation ℝ) (start : ℝ) (xs : List ℝ) (s : Steering ℝ) :
    Prop where
  held : s.rotation.isDragging = true
  pointerX : s.pointerX = some (xs.getLastD start)
  phi : s.rotation.phi = r.phi + spin.dragSensitivity * (xs.getLastD start - start)
  still : xs = [] → s.rotation.velocity = 0
  velocity : ∀ before x y, start :: xs = before ++ [x, y] →
    s.rotation.velocity = spin.dragSensitivity * (y - x)

variable {spin : Spin ℝ} {r : Rotation ℝ} {start : ℝ} {xs : List ℝ} {s : Steering ℝ}

theorem pulled_press (spin : Spin ℝ) (s : Steering ℝ) (start : ℝ) :
    Pulled spin s.rotation start [] (s.step spin (.press start)) where
  held := rfl
  pointerX := rfl
  phi := by simp [step, Rotation.dragStart]
  still _ := Exact.zero_eq
  velocity before x y h := by
    have hlength := congrArg List.length h
    simp at hlength

namespace Pulled

theorem step_tick (h : Pulled spin r start xs s) : s.step spin .tick = s := by
  show { s with rotation := s.rotation.tick spin } = s
  rw [Rotation.tick, if_pos h.held]

theorem step_move (h : Pulled spin r start xs s) (x : ℝ) :
    Pulled spin r start (xs ++ [x]) (s.step spin (.move x)) := by
  have hstep : s.step spin (.move x) =
      ⟨s.rotation.dragMove spin (x - xs.getLastD start), some x⟩ := by
    simp only [step, h.pointerX]
  have hmove (dx : ℝ) : s.rotation.dragMove spin dx =
      { s.rotation with
        velocity := dx * spin.dragSensitivity
        phi := s.rotation.phi + dx * spin.dragSensitivity } := by
    rw [Rotation.dragMove, if_pos h.held]
  rw [hstep, hmove]
  constructor
  · exact h.held
  · rw [List.getLastD_concat]
  · show s.rotation.phi + (x - xs.getLastD start) * spin.dragSensitivity = _
    rw [h.phi, List.getLastD_concat]
    ring
  · intro hnil
    simp at hnil
  · intro before x' y hpath
    have hsplit : (start :: xs) ++ [x] = (before ++ [x']) ++ [y] := by simpa using hpath
    obtain ⟨hbefore, hlast⟩ := List.append_inj' hsplit rfl
    have hx : xs.getLastD start = x' := by
      have hlast? := congrArg List.getLast? hbefore
      simpa [List.getLast?_cons, List.getLastD_eq_getLast?] using hlast?
    obtain rfl := List.singleton_inj.mp hlast
    show (x - xs.getLastD start) * spin.dragSensitivity = _
    rw [hx]
    ring

/-- Drives that leave the grip as it is pull the globe through the places of their moves. -/
theorem run (h : Pulled spin r start xs s) {drives : List (Drive ℝ)}
    (hgrip : ∀ d ∈ drives, d.keepsGrip = true) :
    Pulled spin r start (xs ++ drives.filterMap Drive.moveTo?) (drives.foldl (step spin) s) := by
  induction drives generalizing xs s with
  | nil => simpa using h
  | cons d rest ih =>
      have hrest : ∀ d ∈ rest, d.keepsGrip = true := fun d hd => hgrip d (List.mem_cons_of_mem _ hd)
      have hd : d.keepsGrip = true := hgrip d List.mem_cons_self
      cases d with
      | tick =>
          rw [List.foldl_cons, h.step_tick]
          exact ih h hrest
      | move x =>
          have hmoved := ih (h.step_move x) hrest
          rw [List.append_assoc] at hmoved
          exact hmoved
      | press x | release x | leave => cases hd

theorem run_moves (h : Pulled spin r start xs s) (places : List ℝ) :
    Pulled spin r start (xs ++ places) ((places.map Drive.move).foldl (step spin) s) := by
  have hgrip : ∀ d ∈ places.map Drive.move, d.keepsGrip = true := by
    intro d hd
    obtain ⟨x, _, rfl⟩ := List.mem_map.mp hd
    rfl
  have hplaces : (places.map Drive.move).filterMap Drive.moveTo? = places := by
    rw [List.filterMap_map]
    exact List.filterMap_some
  have hrun := h.run hgrip
  rwa [hplaces] at hrun

end Pulled
end Steering

namespace Controller

/-! ### Drags -/

/-- Where an action moves the pointer, from left to right. -/
def Action.moveTo? : Action α → Option α
  | .pointer (.move position) => some position.x
  | _ => none

/-- The places through which a run moves the pointer, from left to right. -/
def moves (actions : List (Action α)) : List α := actions.filterMap Action.moveTo?

theorem moves_eq (actions : List (Action α)) :
    moves actions = (drives actions).filterMap Drive.moveTo? := by
  rw [moves, drives, List.filterMap_filterMap]
  congr 1
  funext a
  cases a with
  | pointer event => cases event <;> rfl
  | _ => rfl

theorem keepsGrip_of_grip? {actions : List (Action α)} (hgrip : ∀ a ∈ actions, a.grip? = none) :
    ∀ d ∈ drives actions, d.keepsGrip = true := by
  intro d hd
  obtain ⟨a, ha, hdrive⟩ := List.mem_filterMap.mp hd
  have hnone := hgrip a ha
  cases a with
  | tick frame =>
      obtain rfl := Option.some.inj hdrive
      rfl
  | pointer event =>
      obtain rfl := Option.some.inj hdrive
      cases event with
      | move position => rfl
      | down position | up position | leave => cases hnone
  | _ => cases hdrive

/-- A run of a pressed globe in which it is not let go. -/
theorem pulled_run [PhaseSource σ ℝ] (c : Controller σ ℝ) (start : Vec2 ℝ)
    {actions : List (Action ℝ)} (hgrip : ∀ a ∈ actions, a.grip? = none) :
    Steering.Pulled c.spin c.rotation start.x (moves actions)
      ((c.act (.pointer (.down start))).run actions).steering := by
  have hpressed : (c.act (.pointer (.down start))).steering =
      c.steering.step c.spin (.press start.x) := steering_handle (.down start) c
  have hspin : (c.act (.pointer (.down start))).spin = c.spin := rfl
  rw [steering_run, hspin, hpressed, moves_eq]
  exact (Steering.pulled_press c.spin c.steering start.x).run (keepsGrip_of_grip? hgrip)

theorem hover_move_of_held [Scalar α] {c : Controller σ α} (hheld : c.rotation.isDragging = true)
    (position : Vec2 α) : (c.handle (.move position)).2.hover = c.hover := by
  simp only [handle, pointerMove, if_pos hheld]

/-- A release and a departure of the pointer let go of the globe and leave it turned and moving as
it is. -/
theorem rotation_letGo [Scalar α] {event : PointerEvent α}
    (hevent : (∃ position, event = .up position) ∨ event = .leave) (c : Controller σ α) :
    (c.handle event).2.rotation = { c.rotation with isDragging := false } := by
  have hsteering := congrArg Steering.rotation (steering_handle event c)
  obtain ⟨position, rfl⟩ | rfl := hevent
  · exact hsteering
  · exact hsteering

/-- **A drag turns the globe by its endpoints.**  Press any globe and do whatever else but press,
release or leave.  Then its angle has changed by the way of the pointer from the press to its last
place, as the sensitivity has it, whatever the places in between; its velocity is that of the last
move, or nothing if there was none; ticks leave it as it is turned and show it so, and neither they
nor moves change what is hovered.  Letting go changes neither angle nor velocity, and the next tick
coasts from there, however much later it comes. -/
theorem drag_turns_by_endpoints [PhaseSource σ ℝ] (c : Controller σ ℝ) (start : Vec2 ℝ)
    {actions : List (Action ℝ)} (hgrip : ∀ a ∈ actions, a.grip? = none) :
    let pressed := c.act (.pointer (.down start))
    let held := pressed.run actions
    let sensitivity := c.config.dragSensitivity
    held.rotation.phi =
        c.rotation.phi + sensitivity * ((moves actions).getLastD start.x - start.x) ∧
    (moves actions = [] → held.rotation.phi = c.rotation.phi ∧ held.rotation.velocity = 0) ∧
    (∀ before x y, start.x :: moves actions = before ++ [x, y] →
      held.rotation.velocity = sensitivity * (y - x)) ∧
    (∀ before a after, actions = before ++ a :: after →
      let now := pressed.run before
      (∀ position, a = .pointer (.move position) → (now.act a).hover = now.hover) ∧
      ∀ frame, a = .tick frame →
        (now.act a).hover = now.hover ∧ (now.act a).rotation = now.rotation ∧
          (now.tick frame).1.sphere.phi = now.rotation.phi) ∧
    ∀ event, ((∃ position, event = .up position) ∨ event = .leave) →
      let released := (held.handle event).2
      released.rotation = { held.rotation with isDragging := false } ∧
      ∀ between : List (Action ℝ), (∀ position, .pointer (.down position) ∉ between) →
        (∀ frame, .tick frame ∉ between) → ∀ frame,
          let coasting := (released.run between).tick frame
          let velocity := c.spin.coast held.rotation.velocity
          coasting.2.rotation.velocity = velocity ∧
            coasting.2.rotation.phi = held.rotation.phi + velocity ∧
            coasting.1.sphere.phi = held.rotation.phi + velocity := by
  intro pressed held sensitivity
  have hpulled := c.pulled_run start hgrip
  refine ⟨hpulled.phi, ?_, hpulled.velocity, ?_, ?_⟩
  · intro hnone
    have hphi := hpulled.phi
    rw [hnone, List.getLastD_nil, sub_self, mul_zero, add_zero] at hphi
    exact ⟨hphi, hpulled.still hnone⟩
  · rintro before a after rfl now
    have hbefore : ∀ a ∈ before, a.grip? = none := fun a ha =>
      hgrip a (List.mem_append_left _ ha)
    have hheld : now.rotation.isDragging = true := (c.pulled_run start hbefore).held
    refine ⟨?_, ?_⟩
    · rintro position rfl
      exact hover_move_of_held hheld position
    · rintro frame rfl
      have hkept : now.rotation.tick now.spin = now.rotation := if_pos hheld
      exact ⟨rfl, hkept, congrArg Rotation.phi hkept⟩
  · intro event hevent released
    have hreleased := rotation_letGo hevent held
    refine ⟨hreleased, ?_⟩
    intro between hpress htick frame coasting velocity
    have hfree : released.rotation.isDragging = false := by rw [hreleased]
    have hticks : between.countP Action.isTick = 0 := by
      rw [List.countP_eq_zero]
      intro a ha hisTick
      cases a with
      | tick frame => exact htick frame ha
      | _ => cases hisTick
    have hspin : (released.run between).spin = c.spin := by
      rw [run_spin]
      exact (act_spin (.pointer event) held).trans (run_spin actions pressed)
    have hrotation : coasting.2.rotation =
        { released.rotation with velocity := velocity, phi := held.rotation.phi + velocity } := by
      show (released.run between).rotation.tick (released.run between).spin = _
      rw [rotation_run_of_free hpress hfree, hticks, hspin]
      rw [Function.iterate_zero_apply, Rotation.tick_of_free hfree, hreleased]
    have hphi : coasting.2.rotation.phi = held.rotation.phi + velocity := by rw [hrotation]
    exact ⟨by rw [hrotation], hphi, hphi⟩

/-- A globe is pressed at 10, moved to 30 and on to 25, with new markers and ticks in between, and
let go. -/
theorem drag_turns_by_endpoints_back :
    let c : Controller Unseeded ℝ := create .default .mk
    let start : Vec2 ℝ := ⟨10, 5⟩
    let actions : List (Action ℝ) :=
      [.tick ⟨0, 0, 0⟩, .pointer (.move ⟨30, 7⟩), .setMarkers [], .tick ⟨1, 1, 1⟩,
        .pointer (.move ⟨25, 90⟩)]
    let held := (c.act (.pointer (.down start))).run actions
    (∀ a ∈ actions, a.grip? = none) ∧ held.rotation.phi = 0.075 ∧
      held.rotation.velocity = -0.025 ∧
      (held.handle (.up ⟨25, 90⟩)).2.rotation = { held.rotation with isDragging := false } := by
  intro c start actions held
  have hgrip : ∀ a ∈ actions, a.grip? = none := by simp [actions, Action.grip?]
  obtain ⟨hphi, _, hvelocity, _, hletGo⟩ := drag_turns_by_endpoints c start hgrip
  have hsensitivity : c.config.dragSensitivity = 0.005 := rfl
  have hbefore : c.rotation.phi = 0 := Exact.zero_eq
  have hmoves : moves actions = [30, 25] := rfl
  refine ⟨hgrip, ?_, ?_, (hletGo _ (.inl ⟨_, rfl⟩)).1⟩
  · rw [hphi, hmoves, hsensitivity, hbefore]
    norm_num [start]
  · rw [hvelocity [10] 30 25 (by rw [hmoves]; rfl), hsensitivity]
    norm_num

end Controller

/-! ### Gestures in a queue -/

namespace Gesture

/-- Where the pointer is after `i` of the evenly spaced moves of a gesture, from left to right. -/
noncomputable def stop (start finish : ℝ) (steps i : ℕ) : ℝ := start + (finish - start) * i / steps

theorem stop_zero (start finish : ℝ) (steps : ℕ) : stop start finish steps 0 = start := by
  simp [stop]

theorem stop_self (start finish : ℝ) {steps : ℕ} (h : steps ≠ 0) :
    stop start finish steps steps = finish := by
  rw [stop, mul_div_cancel_right₀ _ (Nat.cast_ne_zero.mpr h), add_sub_cancel]

theorem stop_succ_sub (start finish : ℝ) (steps i : ℕ) :
    stop start finish steps (i + 1) - stop start finish steps i = (finish - start) / steps := by
  rw [stop, stop, add_sub_add_left_eq_sub, ← sub_div, ← mul_sub, Nat.cast_succ,
    add_sub_cancel_left, mul_one]

/-- The places of the moves of a gesture. -/
noncomputable def stops (start finish : ℝ) (steps : ℕ) : List ℝ :=
  (List.range steps).map fun i => stop start finish steps (i + 1)

/-- The places of a gesture end with one that is a step away from its end, and its end. -/
theorem cons_stops (start finish : ℝ) (k : ℕ) :
    start :: stops start finish (k + 1) =
      (List.range k).map (stop start finish (k + 1)) ++ [stop start finish (k + 1) k, finish] := by
  calc start :: stops start finish (k + 1)
      = (List.range (k + 2)).map (stop start finish (k + 1)) := by
        rw [List.range_succ_eq_map, List.map_cons, stop_zero, List.map_map]
        rfl
    _ = _ := by
        rw [List.range_succ, List.range_succ, List.append_assoc, List.map_append]
        simp [stop_self start finish (Nat.succ_ne_zero k)]

end Gesture

namespace Controller

open Gesture

/-- Handling the oldest event so many times empties a queue. -/
inductive Handles [Scalar α] :
    ℕ → PointerQueue α → Controller σ α → Controller σ α → Prop
  | done {queue : PointerQueue α} {c : Controller σ α} : queue.pop? = none → Handles 0 queue c c
  | next {n : ℕ} {queue rest : PointerQueue α} {event : PointerEvent α} {c c' : Controller σ α} :
    queue.pop? = some (event, rest) → Handles n rest (c.handle event).2 c' →
      Handles (n + 1) queue c c'

theorem handles_drain [Scalar α] (events : List (PointerEvent α)) (c : Controller σ α) :
    Handles events.length ⟨events⟩ c (c.drain ⟨events⟩).2 := by
  induction events generalizing c with
  | nil => exact .done rfl
  | cons event rest ih => exact .next rfl (ih (c.handle event).2)

theorem Handles.unique [Scalar α] {n n' : ℕ} {queue : PointerQueue α} {c c₁ c₂ : Controller σ α}
    (h : Handles n queue c c₁) (h' : Handles n' queue c c₂) : n = n' ∧ c₁ = c₂ := by
  induction h generalizing n' with
  | done hpop =>
      cases h' with
      | done _ => exact ⟨rfl, rfl⟩
      | next hpop' _ => simp [hpop] at hpop'
  | next hpop hrest ih =>
      cases h' with
      | done hpop' => simp [hpop] at hpop'
      | next hpop' hrest' =>
          rw [hpop] at hpop'
          obtain ⟨rfl, rfl⟩ := Prod.mk.inj (Option.some.inj hpop')
          obtain ⟨rfl, rfl⟩ := ih hrest'
          exact ⟨rfl, rfl⟩

/-- Emptying a queue takes as many events as it has, and gives what draining it gives. -/
theorem handles_iff [Scalar α] {n : ℕ} {queue : PointerQueue α} {c c' : Controller σ α} :
    Handles n queue c c' ↔ n = queue.size ∧ c' = (c.drain queue).2 := by
  constructor
  · intro h
    exact h.unique (handles_drain queue.events c)
  · rintro ⟨rfl, rfl⟩
    exact handles_drain queue.events c

theorem handleAll_append [Scalar α] (before after : List (PointerEvent α)) (c : Controller σ α) :
    (c.handleAll (before ++ after)).2 = ((c.handleAll before).2.handleAll after).2 := by
  induction before generalizing c with
  | nil => rfl
  | cons event rest ih => exact ih (c.handle event).2

theorem steering_handleAll [Scalar α] (events : List (PointerEvent α)) (c : Controller σ α) :
    (c.handleAll events).2.steering =
      (events.map PointerEvent.drive).foldl (Steering.step c.spin) c.steering := by
  induction events generalizing c with
  | nil => rfl
  | cons event rest ih =>
      have hspin : (c.handle event).2.spin = c.spin := by
        obtain ⟨_, _, _, _, _, _, h⟩ := c.handle_shape event
        rw [h]
        rfl
      calc (c.handleAll (event :: rest)).2.steering
          = ((c.handle event).2.handleAll rest).2.steering := rfl
        _ = (rest.map PointerEvent.drive).foldl (Steering.step c.spin)
              (c.handle event).2.steering := by rw [ih, hspin]
        _ = ((event :: rest).map PointerEvent.drive).foldl (Steering.step c.spin) c.steering := by
            rw [steering_handle]
            rfl

theorem drives_dragGesture (start finish : Vec2 ℝ) (steps : ℕ) :
    (dragGesture start finish steps).map PointerEvent.drive =
      .press start.x ::
        (stops start.x finish.x (max steps 1)).map .move ++ [.release finish.x] := by
  simp only [dragGesture, stops, List.cons_append, List.map_cons, List.map_append, List.map_map]
  rfl

theorem length_dragGesture (start finish : Vec2 ℝ) (steps : ℕ) :
    (dragGesture start finish steps).length = max steps 1 + 2 := by
  simp [dragGesture]

/-- A globe after a gesture: it was pulled through the places of the gesture and let go. -/
theorem steering_gesture (c : Controller σ ℝ) (start finish : Vec2 ℝ) (steps : ℕ) :
    ∃ s, Steering.Pulled c.spin c.rotation start.x (stops start.x finish.x (max steps 1)) s ∧
      (c.handleAll (dragGesture start finish steps)).2.steering =
        ⟨s.rotation.dragEnd, some finish.x⟩ := by
  have hpressed := Steering.pulled_press c.spin c.steering start.x
  refine ⟨_, hpressed.run_moves (stops start.x finish.x (max steps 1)), ?_⟩
  rw [steering_handleAll, drives_dragGesture, List.foldl_append, List.foldl_cons]
  rfl

theorem pointer_gesture (c : Controller σ ℝ) (start finish : Vec2 ℝ) (steps : ℕ) :
    (c.handleAll (dragGesture start finish steps)).2.pointer = some finish := by
  rw [dragGesture, handleAll_append]
  show ((_ : Controller σ ℝ).handle (.up finish)).2.pointer = some finish
  rw [handle_eq]
  rfl

/-- **A queued gesture turns the globe by its endpoints, in any number of moves.**  Draining a queue
that was filled with a gesture handles a press, the moves, of which there is at least one, and a
release.  It leaves the globe free and the pointer at the end of the gesture; the angle has changed
by the whole way, as the sensitivity has it, and the velocity is that divided by the number of
moves. -/
theorem gesture_turns (c : Controller σ ℝ) (start finish : Vec2 ℝ) (steps : ℕ) :
    let queue := PointerQueue.empty.pushDrag start finish steps
    let after := (c.drain queue).2
    let way := c.config.dragSensitivity * (finish.x - start.x)
    (∀ n c', Handles n queue c c' ↔ n = max steps 1 + 2 ∧ c' = after) ∧
      (c.drain queue).1.2 = .empty ∧
      after.rotation.isDragging = false ∧ after.pointer = some finish ∧
      after.rotation.phi = c.rotation.phi + way ∧
      after.rotation.velocity = way / (max steps 1 : ℕ) := by
  intro queue after way
  obtain ⟨s, hpulled, hsteering⟩ := steering_gesture c start finish steps
  have hrotation : after.rotation = s.rotation.dragEnd := congrArg Steering.rotation hsteering
  obtain ⟨k, hk⟩ : ∃ k, max steps 1 = k + 1 :=
    ⟨max steps 1 - 1, (Nat.sub_add_cancel (Nat.le_max_right steps 1)).symm⟩
  rw [hk] at hpulled
  have hpath := cons_stops start.x finish.x k
  have hlast : (stops start.x finish.x (k + 1)).getLastD start.x = finish.x := by
    have hlast? := congrArg List.getLast? hpath
    simpa [List.getLast?_cons, List.getLastD_eq_getLast?] using hlast?
  refine ⟨?_, rfl, by rw [hrotation]; rfl, pointer_gesture c start finish steps, ?_, ?_⟩
  · intro n c'
    rw [handles_iff, ← length_dragGesture start finish steps]
    rfl
  · rw [hrotation]
    show s.rotation.phi = _
    rw [hpulled.phi, hlast]
    rfl
  · rw [hrotation]
    show s.rotation.velocity = _
    have hend : stop start.x finish.x (k + 1) (k + 1) = finish.x :=
      stop_self _ _ (Nat.succ_ne_zero k)
    rw [hpulled.velocity _ _ _ hpath, hk, mul_div_assoc, ← stop_succ_sub _ _ (k + 1) k, hend]
    rfl

end Controller
end GlobeView
