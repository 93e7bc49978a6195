import Mathlib.Data.List.DropRight
import GlobeView.Proofs.ControllerRuns

/-! # What a run gives away

A run changes a controller, and on the way it gives something away: the frames of its ticks, the
markers that its releases answer, the events that it logs.  `trace f` collects what `f` reads off
every action of a run, and `trace_induction` is how a field of the state is compared with what was
given away before.

The log keeps its last entries only: an action adds what it logs, and the oldest entries make room
(`holds_act`).  `history` is everything that a run logs. -/

namespace GlobeView

namespace EventLog

variable {ε : Type}

/-- Logs events against the current frame. -/
def emitAll (events : List ε) (log : EventLog ε) : EventLog ε :=
  events.foldl (fun log e => log.emitNow e) log

theorem emitAll_append (before after : List ε) (log : EventLog ε) :
    log.emitAll (before ++ after) = (log.emitAll before).emitAll after := List.foldl_append

/-- A log that holds the last `limit` of the given entries. -/
structure Holds (count : ℕ) (all : List (Logged ε)) (log : EventLog ε) : Prop where
  limit : log.limit = some count
  entries : log.entries = all.rtake count

theorem rtake_concat {count : ℕ} (h : 1 ≤ count) (all : List ε) (e : ε) :
    (all.rtake count).drop ((all.rtake count).length + 1 - count) ++ [e] =
      (all ++ [e]).rtake count := by
  unfold List.rtake
  have hlen : (all ++ [e]).length - count ≤ all.length := by
    rw [List.length_append, List.length_singleton]
    omega
  rw [List.drop_append_of_le_length hlen, List.drop_drop, List.length_drop]
  congr 2
  rw [List.length_append, List.length_singleton]
  omega

variable {count : ℕ} {all : List (Logged ε)} {log : EventLog ε}

theorem holds_bounded (hcount : 1 ≤ count) : (bounded count : EventLog ε).Holds count [] where
  limit := congrArg some (Nat.max_eq_left hcount)
  entries := (List.rtake_nil count).symm

theorem Holds.emitNow (h : log.Holds count all) (hcount : 1 ≤ count) (e : ε) :
    (log.emitNow e).Holds count (all ++ [⟨log.frame, e⟩]) where
  limit := h.limit
  entries := by
    rw [← rtake_concat hcount, ← h.entries]
    simp only [EventLog.emitNow, push, makeRoom, h.limit]

theorem Holds.emitAll (h : log.Holds count all) (hcount : 1 ≤ count) (events : List ε) :
    (log.emitAll events).Holds count (all ++ events.map (⟨log.frame, ·⟩)) := by
  induction events generalizing log all with
  | nil =>
      rw [List.map_nil, List.append_nil]
      exact h
  | cons e rest ih =>
      have hrest := ih (h.emitNow hcount e)
      rw [List.append_assoc] at hrest
      exact hrest

theorem Holds.self (h : log.Holds count all) : log.Holds count log.entries where
  limit := h.limit
  entries := by
    have hlength : log.entries.length ≤ count := by
      rw [h.entries, List.rtake, List.length_drop]
      omega
    rw [List.rtake, Nat.sub_eq_zero_of_le hlength, List.drop_zero]

end EventLog

/-- Where a pointer event leaves the pointer. -/
def PointerEvent.position? {α : Type} : PointerEvent α → Option (Vec2 α)
  | .down position | .move position | .up position => some position
  | .leave => none

namespace Controller

variable {σ α β : Type} [Scalar α]

section traces
variable [PhaseSource σ α]

/-- What the actions of a run give away, in order, if `f a c` is what action `a` gives away on
`c`. -/
def trace (f : Action α → Controller σ α → List β) : List (Action α) → Controller σ α → List β
  | [], _ => []
  | a :: rest, c => f a c ++ trace f rest (c.act a)

variable {f : Action α → Controller σ α → List β}

theorem trace_append (before after : List (Action α)) (c : Controller σ α) :
    trace f (before ++ after) c = trace f before c ++ trace f after (c.run before) := by
  induction before generalizing c with
  | nil => rfl
  | cons a rest ih =>
      rw [List.cons_append, trace, ih, trace, List.append_assoc]
      rfl

/-- What every action keeps between the state and everything given away so far holds after a run. -/
theorem trace_induction {P : List β → Controller σ α → Prop} {actions : List (Action α)}
    (hact : ∀ a ∈ actions, ∀ seen c, P seen c → P (seen ++ f a c) (c.act a)) {seen : List β}
    {c : Controller σ α} (hc : P seen c) : P (seen ++ trace f actions c) (c.run actions) := by
  induction actions generalizing seen c with
  | nil =>
      rw [trace, List.append_nil]
      exact hc
  | cons a rest ih =>
      rw [trace, ← List.append_assoc]
      exact ih (fun b hb => hact b (List.mem_cons_of_mem a hb))
        (hact a List.mem_cons_self seen c hc)

/-- The frame that an action shows: a tick shows one. -/
def frameOf : Action α → Controller σ α → List (FrameOutput α)
  | .tick frame, c => [(c.tick frame).1]
  | _, _ => []

/-- The marker that an action answers: a release answers what it clicks. -/
def clickOf : Action α → Controller σ α → List (Marker α)
  | .pointer event, c => (c.handle event).1.toList
  | _, _ => []

/-- The frames that a run shows. -/
def frames (actions : List (Action α)) (c : Controller σ α) : List (FrameOutput α) :=
  trace frameOf actions c

/-- The markers that a run clicks. -/
def clicks (actions : List (Action α)) (c : Controller σ α) : List (Marker α) :=
  trace clickOf actions c

end traces

/-! ### Clicking -/

theorem handle_fst (event : PointerEvent α) (c : Controller σ α) :
    (c.handle event).1 =
      match event with
      | .up position => (c.hitTest position).map (·.marker)
      | _ => none := by
  cases event with
  | up position =>
      simp only [handle, pointerUp_eq]
      cases c.hitTest position <;> rfl
  | _ => rfl

theorem handle_records (event : PointerEvent α) (c : Controller σ α) :
    (c.handle event).2.metrics =
        (c.handle event).1.toList.foldl (fun m _ => m.incCounter "clicks" 1) c.metrics ∧
      (c.handle event).2.handlerCalls =
        c.handlerCalls ++
          (c.handle event).1.toList.flatMap fun m => (c.clickHandler.map (·, m)).toList := by
  cases event with
  | down position => exact ⟨rfl, (List.append_nil _).symm⟩
  | move position =>
      simp only [handle, pointerMove]
      split_ifs
      · exact ⟨rfl, (List.append_nil _).symm⟩
      · rw [updateHover, setHover_eq]
        exact ⟨rfl, (List.append_nil _).symm⟩
  | up position =>
      simp only [handle, pointerUp_eq]
      cases c.hitTest position with
      | none => exact ⟨rfl, (List.append_nil _).symm⟩
      | some hit =>
          simp only [click_eq, Option.toList_some, List.flatMap_cons, List.flatMap_nil,
            List.append_nil]
          exact ⟨rfl, rfl⟩
  | leave =>
      simp only [handle, pointerLeave, setHover_eq, endDrag_eq]
      exact ⟨rfl, (List.append_nil _).symm⟩

/-! ### Logging -/

/-- What is logged of a hover that goes over to `hit`. -/
def hoverChange (hit : Option (MarkerHit α)) (c : Controller σ α) : List (Interaction α) :=
  if c.hover.map (·.index) = hit.map (·.index) then [] else [hoverInteraction hit]

/-- What is logged of a drag that ends with `event`. -/
def dragChange (event : Interaction α) (c : Controller σ α) : List (Interaction α) :=
  if c.rotation.isDragging then [event] else []

/-- What a pointer event logs. -/
def pointerInteractions (c : Controller σ α) : PointerEvent α → List (Interaction α)
  | .down _ => [.dragStarted]
  | .move position => if c.rotation.isDragging then [] else c.hoverChange (c.hitTest position)
  | .up position =>
    c.dragChange (.dragEnded c.rotation.velocity) ++ c.hoverChange (c.hitTest position) ++
      (c.hitTest position).toList.map fun hit => .clicked hit.marker.label
  | .leave => c.dragChange .dragCancelled ++ c.hoverChange none

/-- What an action logs. -/
def interactions : Action α → Controller σ α → List (Interaction α)
  | .pointer event, c => c.pointerInteractions event
  | .resize container now, c => (c.sizer.observe container now).1.toList.map .resized
  | .settle container now, c => (c.sizer.settle container now).1.toList.map .settled
  | .setScene scene, c => c.hoverChange { c with scene := scene }.freshHover
  | .setMarkers markers, c =>
    c.hoverChange { c with scene := { c.scene with markers := markers } }.freshHover
  | _, _ => []

omit [Scalar α] in
theorem hoverLog_eq (hit : Option (MarkerHit α)) (c : Controller σ α) :
    c.hoverLog hit = c.log.emitAll (c.hoverChange hit) := by
  unfold hoverLog hoverChange
  split_ifs <;> rfl

omit [Scalar α] in
theorem sizeLog_eq (event : SurfaceSize α → Interaction α) (changed : Option (SurfaceSize α))
    (c : Controller σ α) :
    c.sizeLog event changed = c.log.emitAll (changed.toList.map event) := by
  cases changed <;> rfl

omit [Scalar α] in
theorem log_endDrag (event : Interaction α) (c : Controller σ α) :
    (c.endDrag event).log = c.log.emitAll (c.dragChange event) := by
  unfold endDrag dragChange
  split_ifs <;> rfl

theorem releaseLog_eq (position : Vec2 α) (c : Controller σ α) :
    c.releaseLog position =
      c.log.emitAll (c.dragChange (.dragEnded c.rotation.velocity) ++
        c.hoverChange (c.hitTest position)) := by
  rw [releaseLog, hoverLog_eq, log_endDrag, EventLog.emitAll_append]
  rw [endDrag_eq]
  rfl

theorem log_pointer (event : PointerEvent α) (c : Controller σ α) :
    (c.handle event).2.log = c.log.emitAll (c.pointerInteractions event) := by
  cases event with
  | down position => rfl
  | move position =>
      simp only [handle, pointerMove, pointerInteractions]
      split_ifs
      · rfl
      · rw [updateHover, setHover_eq]
        exact hoverLog_eq _ _
  | up position =>
      simp only [handle, pointerUp_eq, pointerInteractions]
      rw [EventLog.emitAll_append, ← releaseLog_eq]
      cases c.hitTest position with
      | none => rfl
      | some hit =>
          simp only [click_eq]
          rfl
  | leave =>
      simp only [handle, pointerLeave, setHover_eq, pointerInteractions]
      rw [hoverLog_eq, log_endDrag, EventLog.emitAll_append, endDrag_eq]
      rfl

/-- The rotation after a pointer event. -/
def turnedBy (c : Controller σ α) : PointerEvent α → Rotation α
  | .down _ => c.rotation.dragStart
  | .move position =>
    c.rotation.dragMove c.spin (match c.pointer with
      | some before => position.x - before.x
      | none => 0)
  | .up _ | .leave => c.rotation.dragEnd

/-- The hovered marker after a pointer event. -/
def hoverAfter (c : Controller σ α) : PointerEvent α → Option (MarkerHit α)
  | .down _ => c.hover
  | .move position => if c.rotation.isDragging then c.hover else c.hitTest position
  | .up position => c.hitTest position
  | .leave => none

theorem handle_eq (event : PointerEvent α) (c : Controller σ α) :
    (c.handle event).2 =
      { c with
        rotation := c.turnedBy event
        hover := c.hoverAfter event
        pointer := event.position?
        handlerCalls := c.handlerCalls ++
          (c.handle event).1.toList.flatMap fun m => (c.clickHandler.map (·, m)).toList
        log := c.log.emitAll (c.pointerInteractions event)
        metrics := (c.handle event).1.toList.foldl (fun m _ => m.incCounter "clicks" 1)
          c.metrics } := by
  obtain ⟨hmetrics, hcalls⟩ := handle_records event c
  rw [← hmetrics, ← hcalls, ← log_pointer]
  cases event with
  | down position => rfl
  | move position =>
      simp only [handle, pointerMove, turnedBy, hoverAfter, PointerEvent.position?]
      split_ifs with hd
      · rfl
      · rw [updateHover, setHover_eq, Rotation.dragMove, if_neg hd]
        rfl
  | up position =>
      simp only [handle, pointerUp_eq, click_eq]
      split <;> rfl
  | leave =>
      simp only [handle, pointerLeave, setHover_eq, endDrag_eq]
      rfl

variable [PhaseSource σ α]

/-- How an action changes the log: a tick sets the current frame, reading takes the entries out, and
everything else logs its interactions. -/
theorem log_act (a : Action α) (c : Controller σ α) :
    (c.act a).log =
      match a with
      | .tick frame => c.log.setFrame frame.index
      | .drainEvents => c.log.drain.2
      | a => c.log.emitAll (interactions a c) := by
  cases a with
  | tick frame => rfl
  | drainEvents => rfl
  | pointer event => exact log_pointer event c
  | resize container now =>
      rw [act, resize_eq]
      exact sizeLog_eq _ _ _
  | settle container now =>
      rw [act, settle_eq]
      exact sizeLog_eq _ _ _
  | setScene scene =>
      simp only [act, setScene, refreshHover_eq, setHover_eq]
      exact hoverLog_eq _ _
  | setMarkers markers =>
      simp only [act, setMarkers, refreshHover_eq, setHover_eq]
      exact hoverLog_eq _ _
  | settleDue now => rfl
  | setConnections connections => rfl
  | setHeat heat => rfl
  | onClick handler => rfl

theorem metrics_act (a : Action α) (c : Controller σ α) :
    (c.act a).metrics =
      match a with
      | .tick frame => recordFrame (c.tick frame).1.overlay (c.tick frame).2.rotation c.metrics
      | a => (clickOf a c).foldl (fun m _ => m.incCounter "clicks" 1) c.metrics := by
  obtain ⟨frame, rfl⟩ | ⟨event, rfl⟩ | ⟨ha, _, _, h⟩ | ⟨ha, _, _, _, _, h⟩ := c.act_cases a
  · rfl
  · exact (handle_records event c).1
  · rw [h]
    cases a <;> first | rfl | cases ha
  · rw [h]
    cases a <;> first | rfl | cases ha

theorem handlerCalls_act (a : Action α) (c : Controller σ α) :
    (c.act a).handlerCalls =
      c.handlerCalls ++ (clickOf a c).flatMap fun m => (c.clickHandler.map (·, m)).toList := by
  obtain ⟨frame, rfl⟩ | ⟨event, rfl⟩ | ⟨ha, _, _, h⟩ | ⟨ha, _, _, _, _, h⟩ := c.act_cases a
  · exact (List.append_nil _).symm
  · exact (handle_records event c).2
  · rw [h]
    cases a <;> first | exact (List.append_nil _).symm | cases ha
  · rw [h]
    cases a <;> first | exact (List.append_nil _).symm | cases ha

/-- What an action logs, with the frame it belongs to. -/
def logged (a : Action α) (c : Controller σ α) : List (Logged (Interaction α)) :=
  (interactions a c).map (⟨c.log.frame, ·⟩)

/-- Everything that a run logs. -/
def history (actions : List (Action α)) (c : Controller σ α) : List (Logged (Interaction α)) :=
  trace logged actions c

theorem holds_act {a : Action α} (ha : a ≠ .drainEvents) {limit : ℕ} (hlimit : 1 ≤ limit)
    {all : List (Logged (Interaction α))} {c : Controller σ α} (h : c.log.Holds limit all) :
    (c.act a).log.Holds limit (all ++ logged a c) := by
  have hall := h.emitAll hlimit (interactions a c)
  rw [log_act]
  cases a with
  | tick frame =>
      show (c.log.setFrame frame.index).Holds limit (all ++ [])
      rw [List.append_nil]
      exact ⟨h.limit, h.entries⟩
  | drainEvents => exact absurd rfl ha
  | _ => exact hall

theorem one_le_eventLimit : 1 ≤ eventLimit := by
  unfold eventLimit
  omega

/-- The log of a globe never holds more than it may, and an action adds what it logs. -/
theorem log_run (actions : List (Action α)) (config : Config α) (source : σ) :
    let c := (create config source).run actions
    c.log.Holds eventLimit c.log.entries := by
  refine run_induction (P := fun c => c.log.Holds eventLimit c.log.entries) ?_ actions
    (EventLog.holds_bounded one_le_eventLimit)
  intro a c h
  by_cases ha : a = .drainEvents
  · subst ha
    exact ⟨h.limit, (List.rtake_nil _).symm⟩
  · exact (holds_act ha one_le_eventLimit h).self

end Controller
end GlobeView
