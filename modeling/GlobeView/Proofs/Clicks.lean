import GlobeView.Proofs.RenderCap
import GlobeView.Proofs.Counters
import GlobeView.Proofs.Picking

/-! # Clicks

A click leaves four records: the host gets the marker as an answer, the click handler is called with
it, the log tells its label, and a counter counts it.  They are written in different places and stay
in agreement through every run (`clicks_agree`).

A host makes one `Call` after another.  It can hand over pointer events one at a time or in a queue;
either way its calls come down to a list of actions (`callAll_eq`). -/

namespace GlobeView.Controller

variable {σ α : Type} [Scalar α]

/-! ### Calls -/

/-- A call of the host: an action, or the handling of everything in a queue. -/
inductive Call (α : Type) where
  | act (a : Action α)
  | drain (queue : PointerQueue α)

/-- The actions that a call comes down to. -/
def Call.actions : Call α → List (Action α)
  | .act a => [a]
  | .drain queue => queue.events.map .pointer

section runs
variable [PhaseSource σ α]

/-- A call, with the markers that it answers. -/
def call : Call α → Controller σ α → List (Marker α) × Controller σ α
  | .act (.pointer event), c => ((c.handle event).1.toList, (c.handle event).2)
  | .act a, c => ([], c.act a)
  | .drain queue, c => ((c.drain queue).1.1, (c.drain queue).2)

/-- Calls in order, with all the markers that they answer. -/
def callAll : List (Call α) → Controller σ α → List (Marker α) × Controller σ α
  | [], c => ([], c)
  | next :: rest, c =>
    let (clicked, c) := c.call next
    let (more, c) := callAll rest c
    (clicked ++ more, c)

theorem handleAll_eq (events : List (PointerEvent α)) (c : Controller σ α) :
    c.handleAll events = (clicks (events.map .pointer) c, c.run (events.map .pointer)) := by
  induction events generalizing c with
  | nil => rfl
  | cons event rest ih =>
      simp only [handleAll, ih]
      rfl

theorem call_eq (next : Call α) (c : Controller σ α) :
    c.call next = (clicks next.actions c, c.run next.actions) := by
  cases next with
  | act a =>
      have hone : clicks [a] c = clickOf a c := List.append_nil _
      rw [Call.actions, hone]
      cases a <;> rfl
  | drain queue =>
      rw [call, drain, handleAll_eq]
      rfl

theorem callAll_eq (calls : List (Call α)) (c : Controller σ α) :
    c.callAll calls =
      (clicks (calls.flatMap Call.actions) c, c.run (calls.flatMap Call.actions)) := by
  induction calls generalizing c with
  | nil => rfl
  | cons next rest ih =>
      have hclicks := trace_append (f := clickOf) next.actions (rest.flatMap Call.actions) c
      rw [List.flatMap_cons, run_append, clicks, hclicks]
      simp only [callAll, call_eq, ih]
      rfl

theorem call_drain (queue : PointerQueue α) (c : Controller σ α) :
    c.call (.drain queue) = c.callAll (queue.events.map fun event => .act (.pointer event)) := by
  have hactions : (queue.events.map fun event => Call.act (.pointer event)).flatMap Call.actions =
      queue.events.map .pointer := by
    rw [List.flatMap_map]
    exact List.flatMap_pure_eq_map _ _
  rw [call_eq, callAll_eq, hactions]
  rfl

omit [Scalar α] in
theorem onClick_not_mem {name : String} {calls : List (Call α)}
    (h : .act (.onClick name) ∉ calls) : .onClick name ∉ calls.flatMap Call.actions := by
  intro hmem
  obtain ⟨next, hnext, hmem⟩ := List.mem_flatMap.mp hmem
  cases next with
  | act a =>
      obtain rfl := List.mem_singleton.mp hmem
      exact h hnext
  | drain queue =>
      obtain ⟨_, _, heq⟩ := List.mem_map.mp hmem
      cases heq

/-! ### Records -/

theorem clickHandler_act (a : Action α) (c : Controller σ α) :
    (c.act a).clickHandler =
      match a with
      | .onClick handler => some handler
      | _ => c.clickHandler := by
  cases a with
  | pointer event =>
      obtain ⟨_, _, _, _, _, _, h⟩ := c.handle_shape event
      rw [act, h]
  | resize container now => rw [act, resize_eq]
  | settle container now => rw [act, settle_eq]
  | setScene scene => simp only [act, setScene, refreshHover_eq, setHover_eq]
  | setMarkers markers => simp only [act, setMarkers, refreshHover_eq, setHover_eq]
  | _ => rfl

/-- The counter of the clicks goes on by what an action clicks, as a word. -/
theorem clickCount_act {count : ℕ} {c : Controller σ α}
    (h : c.metrics.counter "clicks" = count % wordRange) (a : Action α) :
    (c.act a).metrics.counter "clicks" = (count + (clickOf a c).length) % wordRange := by
  -- the counter wraps around at every click, so the sum is carried as a remainder
  have hcounted (clicked : List (Marker α)) : ∀ (count : ℕ) (m : Metrics α),
      m.counter "clicks" = count % wordRange →
      (clicked.foldl (fun m _ => m.incCounter "clicks" 1) m).counter "clicks" =
        (count + clicked.length) % wordRange := by
    induction clicked with
    | nil => exact fun _ _ hm => hm
    | cons _ rest ih =>
        intro count m hm
        have hnext : (m.incCounter "clicks" 1).counter "clicks" = (count + 1) % wordRange := by
          rw [Metrics.counter_incCounter, if_pos rfl, hm, Nat.mod_add_mod]
        rw [List.foldl_cons, ih (count + 1) _ hnext, List.length_cons, Nat.add_assoc,
          Nat.add_comm 1]
  rw [metrics_act]
  cases a with
  | tick frame =>
      have hkept : (recordFrame (c.tick frame).1.overlay (c.tick frame).2.rotation
          c.metrics).counter "clicks" = c.metrics.counter "clicks" := by
        simp [recordFrame, Metrics.counter_incCounter]
      exact hkept.trans h
  | _ => exact hcounted _ _ _ h

/-- The records of what was clicked that a controller keeps, once a handler is installed: its calls
and the counter. -/
structure Recorded (clicked : List (Marker α)) (c : Controller σ α) : Prop where
  installed : c.clickHandler.isSome = true
  calls : c.handlerCalls.map (·.2) = clicked
  counter : c.metrics.counter "clicks" = clicked.length % wordRange

theorem Recorded.act {clicked : List (Marker α)} {c : Controller σ α} (h : Recorded clicked c)
    (a : Action α) : Recorded (clicked ++ clickOf a c) (c.act a) where
  installed := by
    rw [clickHandler_act]
    cases a <;> first | rfl | exact h.installed
  calls := by
    obtain ⟨handler, hhandler⟩ := Option.isSome_iff_exists.mp h.installed
    rw [handlerCalls_act, List.map_append, h.calls, hhandler, List.map_flatMap]
    exact congrArg (clicked ++ ·) (List.flatMap_pure_eq_map id _ |>.trans (List.map_id _))
  counter := by
    rw [List.length_append]
    exact clickCount_act h.counter a

/-- Unless another handler is installed, the one that is there gets all the calls. -/
theorem handlerCalls_run {handler : String} {actions : List (Action α)}
    (hactions : ∀ name, .onClick name ∉ actions) {c : Controller σ α}
    (h : c.clickHandler = some handler) :
    (c.run actions).handlerCalls = c.handlerCalls ++ (clicks actions c).map (handler, ·) := by
  induction actions generalizing c with
  | nil => exact (List.append_nil _).symm
  | cons a rest ih =>
      have hkept : (c.act a).clickHandler = some handler := by
        rw [clickHandler_act]
        cases a with
        | onClick name => exact absurd List.mem_cons_self (hactions name)
        | _ => exact h
      have hrest := ih (fun name hname => hactions name (List.mem_cons_of_mem a hname)) hkept
      have hact : (c.act a).handlerCalls = c.handlerCalls ++ (clickOf a c).map (handler, ·) := by
        rw [handlerCalls_act, h]
        exact congrArg (c.handlerCalls ++ ·) (List.flatMap_pure_eq_map _ _)
      have hclicks : clicks (a :: rest) c = clickOf a c ++ clicks rest (c.act a) := rfl
      show ((c.act a).run rest).handlerCalls = _
      rw [hrest, hact, List.append_assoc, hclicks, List.map_append]

/-! ### The log -/

/-- The tooltips that logged clicks tell of. -/
def clickTexts (text : α → String) (events : List (Logged (Interaction α))) :
    List (Option String) :=
  (events.filter (·.event.kind = "click")).map fun e => some (e.event.message text)

omit [Scalar α] [PhaseSource σ α] in
theorem filter_hoverChange (hit : Option (MarkerHit α)) (c : Controller σ α) :
    (c.hoverChange hit).filter (·.kind = "click") = [] := by
  unfold hoverChange
  split_ifs
  · rfl
  · cases hit <;> simp [hoverInteraction, Interaction.kind]

omit [Scalar α] [PhaseSource σ α] in
theorem filter_dragChange {event : Interaction α} (h : event.kind ≠ "click")
    (c : Controller σ α) : (c.dragChange event).filter (·.kind = "click") = [] := by
  unfold dragChange
  split_ifs
  · simp [h]
  · rfl

omit [PhaseSource σ α] in
theorem clickTexts_logged (text : α → String) (a : Action α) (c : Controller σ α) :
    clickTexts text (logged a c) = (clickOf a c).map (·.tooltip) := by
  have hlogged : clickTexts text (logged a c) =
      ((interactions a c).filter (·.kind = "click")).map fun e => some (e.message text) := by
    rw [clickTexts, logged, List.filter_map, List.map_map]
    rfl
  rw [hlogged]
  cases a with
  | pointer event =>
      simp only [interactions, clickOf, handle_fst]
      cases event with
      | down position => simp [pointerInteractions, Interaction.kind]
      | move position =>
          simp only [pointerInteractions]
          split_ifs
          · rfl
          · rw [filter_hoverChange]
            rfl
      | up position =>
          simp only [pointerInteractions]
          rw [List.filter_append, List.filter_append, filter_hoverChange,
            filter_dragChange (by simp [Interaction.kind])]
          cases hhit : c.hitTest position with
          | none => rfl
          | some hit =>
              obtain ⟨_, htooltip⟩ := hitTest_eq_some hhit
              obtain ⟨label, hlabel⟩ := Option.isSome_iff_exists.mp htooltip
              simp [Interaction.kind, Interaction.message, Marker.label, hlabel]
      | leave =>
          simp only [pointerInteractions]
          rw [List.filter_append, filter_hoverChange,
            filter_dragChange (by simp [Interaction.kind])]
          rfl
  | resize container now =>
      simp only [interactions]
      cases (c.sizer.observe container now).1 <;> simp [Interaction.kind, clickOf]
  | settle container now =>
      simp only [interactions]
      cases (c.sizer.settle container now).1 <;> simp [Interaction.kind, clickOf]
  | setScene scene =>
      simp only [interactions]
      rw [filter_hoverChange]
      rfl
  | setMarkers markers =>
      simp only [interactions]
      rw [filter_hoverChange]
      rfl
  | _ => rfl

theorem clickTexts_history (text : α → String) (actions : List (Action α)) (c : Controller σ α) :
    clickTexts text (history actions c) = (clicks actions c).map (·.tooltip) := by
  induction actions generalizing c with
  | nil => rfl
  | cons a rest ih =>
      have hhistory : history (a :: rest) c = logged a c ++ history rest (c.act a) := rfl
      have hclicks : clicks (a :: rest) c = clickOf a c ++ clicks rest (c.act a) := rfl
      have hrest := ih (c.act a)
      unfold clickTexts at hrest ⊢
      rw [hhistory, hclicks, List.filter_append, List.map_append, List.map_append, hrest,
        ← clickTexts_logged text a c]
      rfl

/-- **Clicks are neither lost nor doubled nor stale.**  After any calls the markers that were
answered are those that the click handler was called with and those whose tooltips were logged, in
the same order, and the counter is their number as a word; an action adds just what it logs to the
log.  A release answers the marker that is under the pointer now, among the current markers, on the
globe as it is turned and as large as it is shown now; it carries a tooltip, and no other event
answers one.  A queue is handled like its events one by one, and is empty afterwards. -/
theorem clicks_agree (config : Config α) (source : σ) (handler : String) (calls : List (Call α)) :
    let start := (create config source).onClick handler
    let clicked := (start.callAll calls).1
    let c := (start.callAll calls).2
    let events := history (calls.flatMap Call.actions) start
    (c.handlerCalls.map (·.2) = clicked ∧
      ((∀ name, .act (.onClick name) ∉ calls) → c.handlerCalls = clicked.map (handler, ·)) ∧
      (∀ text, clickTexts text events = clicked.map (·.tooltip)) ∧
      c.metrics.counter "clicks" = clicked.length % wordRange) ∧
    (∀ a ≠ .drainEvents,
      (c.act a).log.entries = (c.log.entries ++ logged a c).rtake eventLimit) ∧
    (∀ event, (c.handle event).1 =
      match event with
      | .up position =>
        (GlobeView.hitTest c.scene.markers position c.rotation.phi c.rotation.theta c.surfaceSize
          c.hitOptions).map (·.marker)
      | _ => none) ∧
    (∀ event marker, (c.handle event).1 = some marker →
      marker ∈ c.scene.markers ∧ marker.tooltip.isSome = true) ∧
    ∀ queue, (c.drain queue).1.2 = .empty ∧
      c.call (.drain queue) = c.callAll (queue.events.map fun event => .act (.pointer event)) := by
  intro start clicked c events
  have hcalls := callAll_eq calls start
  have hclicked : clicked = clicks (calls.flatMap Call.actions) start := congrArg Prod.fst hcalls
  have hc : c = start.run (calls.flatMap Call.actions) := congrArg Prod.snd hcalls
  have hstart : Recorded [] start := ⟨rfl, rfl, Metrics.counter_empty "clicks"⟩
  have hrecorded : Recorded clicked c := by
    rw [hclicked, hc]
    exact trace_induction (P := Recorded) (fun a _ _ _ h => h.act a) hstart
  refine ⟨⟨hrecorded.calls, ?_, ?_, hrecorded.counter⟩, ?_, fun event => c.handle_fst event, ?_, ?_⟩
  · intro hcalls
    have hactions : ∀ name, .onClick name ∉ calls.flatMap Call.actions :=
      fun name => onClick_not_mem (hcalls name)
    rw [hclicked, hc]
    exact handlerCalls_run hactions rfl
  · intro text
    rw [hclicked]
    exact clickTexts_history text _ start
  · intro a ha
    have hlog : c.log.Holds eventLimit c.log.entries := by
      rw [hc]
      exact log_run (.onClick handler :: calls.flatMap Call.actions) config source
    exact (holds_act ha one_le_eventLimit hlog).entries
  · intro event marker hmarker
    rw [handle_fst] at hmarker
    cases event with
    | up position =>
        obtain ⟨hit, hhit, rfl⟩ := Option.map_eq_some_iff.mp hmarker
        obtain ⟨hplace, htooltip⟩ := hitTest_eq_some hhit
        exact ⟨List.mem_of_getElem? hplace, htooltip⟩
    | _ => cases hmarker
  · intro queue
    exact ⟨rfl, c.call_drain queue⟩

/-- A marker is clicked through a queue and replaced afterwards. -/
theorem clicks_agree_queued :
    let m : Marker ℝ := ⟨⟨0, 0⟩, 0.05, some "here", false⟩
    let config : Config ℝ := { Config.default with theta := 0 }
    let calls : List (Call ℝ) :=
      [.act (.setMarkers [m]), .drain ⟨[.down ⟨150, 150⟩, .up ⟨150, 150⟩]⟩, .act (.setMarkers [])]
    let start : Controller Unseeded ℝ := (create config .mk).onClick "open"
    (∀ name, .act (.onClick name) ∉ calls) ∧ (start.callAll calls).1 = [m] ∧
      (start.callAll calls).2.handlerCalls = [("open", m)] ∧
      (start.callAll calls).2.metrics.counter "clicks" = 1 := by
  intro m config calls start
  have hcalls : ∀ name, .act (.onClick name) ∉ calls := by
    intro name
    simp [calls]
  have hsize : start.surfaceSize = ⟨300, 300⟩ := by
    show GlobeView.surfaceSize .fit Config.default.scale Config.default.renderCap
      Config.default.fallbackSize ⟨_, _⟩ = _
    simp [Config.default, GlobeView.surfaceSize, SizingMode.baseSize, measurable, Exact.min_eq]
    norm_num
  have hphi : start.rotation.phi = 0 := Exact.zero_eq
  have hcenter : GlobeView.hitTest [m] ⟨300 / 2, 300 / 2⟩ 0 0 ⟨300, 300⟩ ⟨10, 200⟩ =
      some ⟨0, m, ⟨300 / 2, 300 / 2⟩⟩ :=
    hitTest_center rfl rfl [] (by norm_num) (by norm_num) (by norm_num)
  have hhit : hitTest ⟨150, 150⟩ ((start.act (.setMarkers [m])).pointerDown ⟨150, 150⟩) =
      some ⟨0, m, ⟨150, 150⟩⟩ := by
    show GlobeView.hitTest [m] ⟨150, 150⟩ start.rotation.phi 0 start.surfaceSize ⟨10, 200⟩ = _
    have hhalf : (300 : ℝ) / 2 = 150 := by norm_num
    rw [hphi, hsize, ← hhalf]
    exact hcenter
  have hclicked : (start.callAll calls).1 = [m] := by
    simp only [calls, callAll, call, drain, handleAll, handle, pointerUp_eq, hhit]
    rfl
  obtain ⟨⟨_, honly, _, hcounter⟩, _⟩ := clicks_agree config Unseeded.mk "open" calls
  have honly := honly hcalls
  rw [hclicked] at honly hcounter
  exact ⟨hcalls, hclicked, honly, hcounter⟩
end runs

end GlobeView.Controller
