import GlobeView.Proofs.Clicks
import Std.Data.String.ToNat
import Mathlib.Data.List.Chain
import GlobeView.Proofs.PointerCoherence

/-! # The log can be replayed

State and log are written by separate statements, yet whoever reads everything that a globe has
logged knows how it stands: each kind of event tells one part of the state, and the last event of
the kind tells it as it is now (`log_replays`).

* **What an action logs.**  First how it takes hold of the globe or lets it go (`drags`), then the
  change of the hovered place, then what it clicks, then new sizes (`sizes`): `interactions_eq`.
* **What it does.**  The hover goes where the log says (`hoverTexts_act`), the globe is held after a
  logged start (`drag_act`), and the sizes are those logged last (`size_act`).
* **When.**  Everything is logged against the frame of the last tick (`frame_run`). -/

namespace GlobeView

namespace Interaction

variable {α : Type} {text : α → String}

/-- What the log says of a hovered place, or of none. -/
def hoverText : Option ℕ → String
  | some index => "marker " ++ toString index
  | none => "none"

theorem hoverText_injective : Function.Injective hoverText := by
  intro i j h
  have hchars := congrArg String.toList h
  cases i with
  | none =>
      cases j with
      | none => rfl
      | some j => simp [hoverText] at hchars
  | some i =>
      cases j with
      | none => simp [hoverText] at hchars
      | some j =>
          simp only [hoverText, String.toList_append, List.append_cancel_left_eq] at hchars
          exact congrArg some (Nat.repr_injective (String.toList_inj.mp hchars))

theorem message_dragEnded_ne (velocity : α) : (dragEnded velocity).message text ≠ "start" := by
  intro h
  have hchars := congrArg String.toList h
  simp [message] at hchars

end Interaction

namespace Controller

open Interaction

variable {σ α : Type} [Scalar α]

omit [Scalar α] in
theorem message_hoverInteraction (text : α → String) (hit : Option (MarkerHit α)) :
    (hoverInteraction hit).message text = hoverText (hit.map (·.index)) := by
  cases hit <;> rfl

/-! ### What an action logs -/

/-- What an action logs of the drag. -/
def drags : Action α → Controller σ α → List (Interaction α)
  | .pointer (.down _), _ => [.dragStarted]
  | .pointer (.up _), c => c.dragChange (.dragEnded c.rotation.velocity)
  | .pointer .leave, c => c.dragChange .dragCancelled
  | _, _ => []

/-- What an action logs of the sizes. -/
def sizes : Action α → Controller σ α → List (Interaction α)
  | .resize container now, c => (c.sizer.observe container now).1.toList.map .resized
  | .settle container now, c => (c.sizer.settle container now).1.toList.map .settled
  | _, _ => []

omit [Scalar α] in
theorem hoverChange_self (c : Controller σ α) : c.hoverChange c.hover = [] := if_pos rfl

theorem hover_pointerUp (position : Vec2 α) (c : Controller σ α) :
    (c.pointerUp position).2.hover = c.hitTest position := by
  rw [pointerUp_eq]
  cases hhit : c.hitTest position with
  | none => exact hhit
  | some hit =>
      simp only [click_eq, released]
      exact hhit

section
variable [PhaseSource σ α]

/-- An action logs what it does to the drag, to the hover, what it clicks and new sizes, in this
order. -/
theorem interactions_eq (a : Action α) (c : Controller σ α) :
    interactions a c =
      drags a c ++ c.hoverChange (c.act a).hover ++
        ((clickOf a c).map fun m => .clicked m.label) ++ sizes a c := by
  have hstill (h : (c.act a).hover = c.hover) : c.hoverChange (c.act a).hover = [] := by
    rw [h, hoverChange_self]
  cases a with
  | pointer event =>
      cases event with
      | down position => rw [hstill rfl]; rfl
      | move position =>
          show c.pointerInteractions (.move position) =
            c.hoverChange (c.pointerMove position).hover ++ [] ++ []
          rw [pointerInteractions, pointerMove, List.append_nil, List.append_nil]
          split_ifs
          · exact (hoverChange_self c).symm
          · rw [updateHover, setHover_eq]
            rfl
      | up position =>
          have hclick : clickOf (.pointer (.up position)) c =
              ((c.hitTest position).map (·.marker)).toList :=
            congrArg Option.toList (c.handle_fst (.up position))
          simp only [interactions, pointerInteractions, drags, act, handle, hover_pointerUp, hclick,
            sizes, List.append_nil]
          cases c.hitTest position <;> rfl
      | leave =>
          simp only [interactions, pointerInteractions, drags, act, handle, pointerLeave,
            setHover_eq]
          exact ((List.append_nil _).trans (List.append_nil _)).symm
  | resize container now =>
      rw [hstill (by rw [act, resize_eq])]
      rfl
  | settle container now =>
      rw [hstill (by rw [act, settle_eq])]
      rfl
  | setScene scene =>
      simp only [interactions, drags, clickOf, sizes, act, setScene, refreshHover_eq, setHover_eq,
        List.map_nil, List.append_nil, List.nil_append]
  | setMarkers markers =>
      simp only [interactions, drags, clickOf, sizes, act, setMarkers, refreshHover_eq, setHover_eq,
        List.map_nil, List.append_nil, List.nil_append]
  | _ =>
      rw [hstill rfl]
      rfl

end

/-! ### Events of a kind -/

/-- The events of a kind, in order. -/
def ofKind (kind : String) (events : List (Logged (Interaction α))) : List (Interaction α) :=
  (events.map (·.event)).filter (·.kind = kind)

omit [Scalar α] in
theorem ofKind_append (kind : String) (before after : List (Logged (Interaction α))) :
    ofKind kind (before ++ after) = ofKind kind before ++ ofKind kind after := by
  rw [ofKind, List.map_append, List.filter_append]
  rfl

omit [Scalar α] in
theorem filter_kind {events : List (Interaction α)} {kind : String}
    (h : ∀ e ∈ events, e.kind = kind) (wanted : String) :
    events.filter (·.kind = wanted) = if kind = wanted then events else [] := by
  split_ifs with hkind
  · rw [List.filter_eq_self]
    exact fun e he => decide_eq_true ((h e he).trans hkind)
  · rw [List.filter_eq_nil_iff]
    intro e he
    rw [h e he]
    simpa using hkind

omit [Scalar α] in
theorem kind_drags {a : Action α} {c : Controller σ α} {e : Interaction α} (h : e ∈ drags a c) :
    e.kind = "drag" := by
  have hchange {event : Interaction α} (hevent : event.kind = "drag")
      (h : e ∈ c.dragChange event) : e.kind = "drag" := by
    unfold dragChange at h
    split_ifs at h
    · rwa [List.mem_singleton.mp h]
    · cases h
  unfold drags at h
  split at h
  · rw [List.mem_singleton.mp h]
    rfl
  · exact hchange rfl h
  · exact hchange rfl h
  · cases h

omit [Scalar α] in
theorem kind_hoverChange {hit : Option (MarkerHit α)} {c : Controller σ α} {e : Interaction α}
    (h : e ∈ c.hoverChange hit) : e.kind = "hover" := by
  unfold hoverChange at h
  split_ifs at h
  · cases h
  · rw [List.mem_singleton.mp h]
    cases hit <;> rfl

theorem kind_sizes {a : Action α} {c : Controller σ α} {e : Interaction α} (h : e ∈ sizes a c) :
    e.kind = "resize" := by
  unfold sizes at h
  split at h
  · obtain ⟨_, _, rfl⟩ := List.mem_map.mp h
    rfl
  · obtain ⟨_, _, rfl⟩ := List.mem_map.mp h
    rfl
  · cases h

variable [PhaseSource σ α]

/-- The events of a kind that an action logs are one of the four parts. -/
theorem ofKind_logged (wanted : String) (a : Action α) (c : Controller σ α) :
    ofKind wanted (logged a c) =
      (if "drag" = wanted then drags a c else []) ++
        (if "hover" = wanted then c.hoverChange (c.act a).hover else []) ++
        (if "click" = wanted then (clickOf a c).map fun m => .clicked m.label else []) ++
        (if "resize" = wanted then sizes a c else []) := by
  have hclicks : ∀ e ∈ (clickOf a c).map fun m => (.clicked m.label : Interaction α),
      e.kind = "click" := by
    intro e he
    obtain ⟨_, _, rfl⟩ := List.mem_map.mp he
    rfl
  have hevents : (logged a c).map (·.event) = interactions a c := by
    rw [logged, List.map_map]
    exact List.map_id _
  rw [ofKind, hevents, interactions_eq, List.filter_append, List.filter_append, List.filter_append,
    filter_kind (fun _ => kind_drags), filter_kind (fun _ => kind_hoverChange),
    filter_kind hclicks, filter_kind (fun _ => kind_sizes)]

/-! ### What an action does -/

/-- What the log tells of the hover, from no hover on. -/
def hoverTexts (text : α → String) (events : List (Logged (Interaction α))) : List String :=
  "none" :: (ofKind "hover" events).map (·.message text)

/-- The log tells of the hover as it is now, and no two texts in a row are equal. -/
structure TellsHover (text : α → String) (events : List (Logged (Interaction α)))
    (c : Controller σ α) : Prop where
  last : (hoverTexts text events).getLast? = some (hoverText (c.hover.map (·.index)))
  changes : (hoverTexts text events).IsChain (· ≠ ·)

/-- An action that changes the hovered place logs where the hover went. -/
theorem TellsHover.act {text : α → String} {events : List (Logged (Interaction α))}
    {c : Controller σ α} (h : TellsHover text events c) (a : Action α) :
    TellsHover text (events ++ logged a c) (c.act a) := by
  have htexts : hoverTexts text (events ++ logged a c) = hoverTexts text events ++
      (c.hoverChange (c.act a).hover).map (·.message text) := by
    have hkind : ofKind "hover" (logged a c) = c.hoverChange (c.act a).hover := by
      simp [ofKind_logged]
    rw [hoverTexts, ofKind_append, hkind, List.map_append]
    rfl
  by_cases hsame : c.hover.map (·.index) = (c.act a).hover.map (·.index)
  · have hnone : c.hoverChange (c.act a).hover = [] := if_pos hsame
    rw [hnone, List.map_nil, List.append_nil] at htexts
    exact ⟨by rw [htexts, h.last, hsame], by rw [htexts]; exact h.changes⟩
  · have hone : c.hoverChange (c.act a).hover = [hoverInteraction (c.act a).hover] := if_neg hsame
    rw [hone, List.map_singleton, message_hoverInteraction] at htexts
    constructor
    · rw [htexts, List.getLast?_concat]
    · rw [htexts, List.isChain_append]
      refine ⟨h.changes, List.isChain_singleton _, ?_⟩
      intro x hx y hy
      rw [h.last] at hx
      obtain rfl := Option.some.inj hx
      obtain rfl := Option.some.inj hy
      exact fun heq => hsame (hoverText_injective heq)

/-- The last event of the drag is a start just as long as the globe is held. -/
def TellsDrag (text : α → String) (events : List (Logged (Interaction α)))
    (c : Controller σ α) : Prop :=
  (ofKind "drag" events).getLast?.map (·.message text) = some "start" ↔
    c.rotation.isDragging = true

/-- An action that takes hold of the globe logs a start, one that lets it go logs something else. -/
theorem drags_cases (text : α → String) (a : Action α) (c : Controller σ α) :
    (drags a c = [] ∧ (c.act a).rotation.isDragging = c.rotation.isDragging) ∨
    (drags a c = [.dragStarted] ∧ (c.act a).rotation.isDragging = true) ∨
    (∃ e, drags a c = [e] ∧ e.message text ≠ "start" ∧ (c.act a).rotation.isDragging = false) := by
  have hend (event : Interaction α) (hmessage : event.message text ≠ "start")
      (hdrags : drags a c = c.dragChange event)
      (hfree : (c.act a).rotation.isDragging = false) :
      (drags a c = [] ∧ (c.act a).rotation.isDragging = c.rotation.isDragging) ∨
      (drags a c = [.dragStarted] ∧ (c.act a).rotation.isDragging = true) ∨
      (∃ e, drags a c = [e] ∧ e.message text ≠ "start" ∧
        (c.act a).rotation.isDragging = false) := by
    by_cases hd : c.rotation.isDragging = true
    · exact .inr (.inr ⟨event, hdrags.trans (if_pos hd), hmessage, hfree⟩)
    · exact .inl ⟨hdrags.trans (if_neg hd), by simpa [hfree] using hd⟩
  have hstill := isDragging_act a c
  cases a with
  | pointer event =>
      cases event with
      | down position => exact .inr (.inl ⟨rfl, hstill⟩)
      | move position => exact .inl ⟨rfl, hstill⟩
      | up position => exact hend _ (message_dragEnded_ne _) rfl hstill
      | leave => exact hend .dragCancelled (by simp [message]) rfl hstill
  | _ => exact .inl ⟨rfl, hstill⟩

theorem TellsDrag.act {text : α → String} {events : List (Logged (Interaction α))}
    {c : Controller σ α} (h : TellsDrag text events c) (a : Action α) :
    TellsDrag text (events ++ logged a c) (c.act a) := by
  have hkind : ofKind "drag" (logged a c) = drags a c := by simp [ofKind_logged]
  unfold TellsDrag at h ⊢
  rw [ofKind_append, hkind]
  obtain ⟨hdrags, hd⟩ | ⟨hdrags, hd⟩ | ⟨e, hdrags, hmessage, hd⟩ := drags_cases text a c
  · rw [hdrags, List.append_nil, hd, h]
  · rw [hdrags, List.getLast?_concat, hd]
    exact iff_of_true rfl rfl
  · rw [hdrags, List.getLast?_concat, hd]
    exact iff_of_false (fun heq => hmessage (Option.some.inj heq)) (by decide)

/-- The last sizes that were logged are the current ones. -/
def TellsSize (events : List (Logged (Interaction α))) (c : Controller σ α) : Prop :=
  ∀ e, (ofKind "resize" events).getLast? = some e →
    e = .resized c.surfaceSize ∨ e = .settled c.surfaceSize

omit [PhaseSource σ α] in
theorem size_settle_eq (s : Sizer α) (container : ContainerSize α) (now : α) :
    (s.settle container now).2.size = (s.settle container now).1.getD s.size := by
  unfold Sizer.settle
  simp only
  split_ifs <;> rfl

theorem sizes_cases (a : Action α) (c : Controller σ α) :
    (sizes a c = [] ∧ (c.act a).surfaceSize = c.surfaceSize) ∨
    (sizes a c = [.resized (c.act a).surfaceSize]) ∨
    (sizes a c = [.settled (c.act a).surfaceSize]) := by
  cases a with
  | resize container now =>
      have hsize := size_settle_eq { c.sizer with settleAt := some (now + c.sizer.settleDelay) }
        container now
      rw [act, resize_eq, sizes]
      simp only [surfaceSize, Sizer.observe, hsize]
      cases (Sizer.settle _ container now).1 with
      | none => exact .inl ⟨rfl, rfl⟩
      | some size => exact .inr (.inl rfl)
  | settle container now =>
      have hsize := size_settle_eq c.sizer container now
      rw [act, settle_eq, sizes]
      simp only [surfaceSize, hsize]
      cases (Sizer.settle _ container now).1 with
      | none => exact .inl ⟨rfl, rfl⟩
      | some size => exact .inr (.inr rfl)
  | settleDue now =>
      refine .inl ⟨rfl, ?_⟩
      show (c.sizer.takeDue now).2.size = c.sizer.size
      unfold Sizer.takeDue
      split
      · split_ifs <;> rfl
      · rfl
  | _ => exact .inl ⟨rfl, congrArg Sizer.size (act_sizer rfl c)⟩

theorem TellsSize.act {events : List (Logged (Interaction α))} {c : Controller σ α}
    (h : TellsSize events c) (a : Action α) :
    TellsSize (events ++ logged a c) (c.act a) := by
  have hkind : ofKind "resize" (logged a c) = sizes a c := by simp [ofKind_logged]
  intro e he
  rw [ofKind_append, hkind] at he
  obtain ⟨hsizes, hsame⟩ | hsizes | hsizes := sizes_cases a c
  · rw [hsizes, List.append_nil] at he
    rw [hsame]
    exact h e he
  · rw [hsizes, List.getLast?_concat] at he
    exact .inl (Option.some.inj he).symm
  · rw [hsizes, List.getLast?_concat] at he
    exact .inr (Option.some.inj he).symm

/-- What actions keep of the events that were logged so far holds of all of them after a run. -/
theorem history_induction {P : List (Logged (Interaction α)) → Controller σ α → Prop}
    {actions : List (Action α)} {c : Controller σ α}
    (hact : ∀ a ∈ actions, ∀ seen c, P seen c → P (seen ++ logged a c) (c.act a)) (hc : P [] c) :
    P (history actions c) (c.run actions) := by
  have hrun := trace_induction (f := logged) hact hc
  rwa [List.nil_append] at hrun

theorem counter_clicks_run (config : Config α) (source : σ) (actions : List (Action α)) :
    ((create config source).run actions).metrics.counter "clicks" =
      (ofKind "click" (history actions (create config source))).length % wordRange := by
  have hkind (a : Action α) (c : Controller σ α) :
      (ofKind "click" (logged a c)).length = (clickOf a c).length := by
    simp [ofKind_logged]
  refine history_induction
    (P := fun events c => c.metrics.counter "clicks" = (ofKind "click" events).length % wordRange)
    ?_ (Metrics.counter_empty "clicks")
  intro a _ events c h
  rw [ofKind_append, List.length_append, hkind]
  exact clickCount_act h a

/-! ### When it was logged -/

/-- The number of the frame that a tick begins. -/
def Action.frame? : Action α → Option ℕ
  | .tick frame => some frame.index
  | _ => none

/-- The number of the frame that was begun last, zero before the first. -/
def latestFrame (actions : List (Action α)) : ℕ := (actions.filterMap Action.frame?).getLast?.getD 0

theorem frame_emitAll {ε : Type} (events : List ε) (log : EventLog ε) :
    (log.emitAll events).frame = log.frame := by
  induction events generalizing log with
  | nil => rfl
  | cons e rest ih => exact ih (log.emitNow e)

theorem frame_act (a : Action α) (c : Controller σ α) :
    (c.act a).log.frame = a.frame?.getD c.log.frame := by
  rw [log_act]
  cases a with
  | tick frame => rfl
  | drainEvents => rfl
  | _ => exact frame_emitAll _ _

theorem frame_run (config : Config α) (source : σ) (actions : List (Action α)) :
    ((create config source).run actions).log.frame = latestFrame actions := by
  induction actions using List.reverseRecOn with
  | nil => rfl
  | append_singleton actions a ih =>
      rw [run_concat, frame_act, latestFrame, List.filterMap_append]
      cases ha : a.frame? with
      | none =>
          have hnone : [a].filterMap Action.frame? = [] := by simp [ha]
          rw [hnone, List.append_nil]
          exact ih
      | some index => simp [ha]

/-- **The log is a faithful trace.**  Take everything that a globe has logged in a run, also what
the log forgot since or gave away.  The last event of the hover names the hovered place, if there
was any, and no event of the hover repeats the one before; the last event of the drag is a start
just as long as the globe is held; the clicks are as many as are counted, in a word; the last sizes
are the current ones; and each event carries the number of the frame that the last tick before it
began.  An action adds just what it logs to the log. -/
theorem log_replays (config : Config α) (source : σ) (text : α → String)
    (actions : List (Action α)) :
    let start := create config source
    let c := start.run actions
    let events := history actions start
    ((ofKind "hover" events).getLast?.map (·.message text)).getD "none" =
        hoverText (c.hover.map (·.index)) ∧
      (hoverTexts text events).IsChain (· ≠ ·) ∧
      ((ofKind "drag" events).getLast?.map (·.message text) = some "start" ↔
        c.rotation.isDragging = true) ∧
      (ofKind "click" events).length % wordRange = c.metrics.counter "clicks" ∧
      (∀ e, (ofKind "resize" events).getLast? = some e →
        e = .resized c.surfaceSize ∨ e = .settled c.surfaceSize) ∧
      (∀ before a after, actions = before ++ a :: after →
        events = history before start ++ logged a (start.run before) ++
          history after (start.run (before ++ [a])) ∧
        ∀ e ∈ logged a (start.run before), e.frame = latestFrame before) ∧
      ∀ a ≠ .drainEvents,
        (c.act a).log.entries = (c.log.entries ++ logged a c).rtake eventLimit := by
  intro start c events
  have hhover : TellsHover text events c :=
    history_induction (P := TellsHover text)
      (fun a _ _ _ h => h.act a) ⟨rfl, List.isChain_singleton _⟩
  have hdrag : TellsDrag text events c :=
    history_induction (P := TellsDrag text)
      (fun a _ _ _ h => h.act a) (iff_of_false (by simp [ofKind]) Bool.false_ne_true)
  have hsize : TellsSize events c :=
    history_induction (P := TellsSize)
      (fun a _ _ _ h => h.act a) (by simp [TellsSize, ofKind])
  refine ⟨?_, hhover.changes, hdrag, (counter_clicks_run config source actions).symm, hsize, ?_, ?_⟩
  · have hlast := hhover.last
    rw [hoverTexts, List.getLast?_cons, List.getLast?_map] at hlast
    exact Option.some.inj hlast
  · intro before a after hactions
    constructor
    · rw [run_concat, List.append_assoc]
      show history actions start = _
      rw [hactions, history, trace_append]
      rfl
    · intro e he
      obtain ⟨_, _, rfl⟩ := List.mem_map.mp he
      exact frame_run config source before
  · intro a ha
    exact (holds_act ha one_le_eventLimit (log_run actions config source)).entries

/-- A marker is pressed before a frame and released after it. -/
theorem log_replays_released (text : ℝ → String) :
    let m : Marker ℝ := ⟨⟨0, 0⟩, 0.05, some "here", false⟩
    let config : Config ℝ := { Config.default with theta := 0 }
    let pressed : List (Action ℝ) :=
      [.setMarkers [m], .pointer (.down ⟨150, 150⟩), .tick ⟨7, 0, 0⟩]
    let release : Action ℝ := .pointer (.up ⟨150, 150⟩)
    let start : Controller Unseeded ℝ := create config .mk
    let c := start.run (pressed ++ [release])
    let events := history (pressed ++ [release]) start
    c.hover.map (·.index) = some 0 ∧ c.rotation.isDragging = false ∧
      (ofKind "hover" events).getLast?.map (·.message text) = some "marker 0" ∧
      (ofKind "drag" events).getLast?.map (·.message text) ≠ some "start" ∧
      (ofKind "click" events).length % wordRange = c.metrics.counter "clicks" ∧
      latestFrame pressed = 7 ∧ ∀ e ∈ logged release (start.run pressed), e.frame = 7 := by
  intro m config pressed release start c events
  have hsize : start.surfaceSize = ⟨300, 300⟩ := by
    show GlobeView.surfaceSize .fit Config.default.scale Config.default.renderCap
      Config.default.fallbackSize ⟨_, _⟩ = _
    simp [Config.default, GlobeView.surfaceSize, SizingMode.baseSize, measurable, Exact.min_eq]
    norm_num
  have hcenter : GlobeView.hitTest [m] ⟨300 / 2, 300 / 2⟩ 0 0 ⟨300, 300⟩ ⟨10, 200⟩ =
      some ⟨0, m, ⟨300 / 2, 300 / 2⟩⟩ :=
    hitTest_center rfl rfl [] (by norm_num) (by norm_num) (by norm_num)
  have hhit : hitTest ⟨150, 150⟩ (start.run pressed) = some ⟨0, m, ⟨150, 150⟩⟩ := by
    show GlobeView.hitTest [m] ⟨150, 150⟩ start.rotation.phi 0 start.surfaceSize ⟨10, 200⟩ = _
    have hphi : start.rotation.phi = 0 := Exact.zero_eq
    have hhalf : (300 : ℝ) / 2 = 150 := by norm_num
    rw [hphi, hsize, ← hhalf]
    exact hcenter
  have hhover : c.hover = some ⟨0, m, ⟨150, 150⟩⟩ := (hover_pointerUp _ _).trans hhit
  have hfree : c.rotation.isDragging = false := isDragging_act release (start.run pressed)
  obtain ⟨hlast, _, hdrag, hclicks, _, hframes, _⟩ :=
    log_replays config Unseeded.mk text (pressed ++ [release])
  have hplace : c.hover.map (·.index) = some 0 := by rw [hhover]; rfl
  refine ⟨hplace, hfree, ?_, ?_, hclicks, rfl, (hframes pressed release [] rfl).2⟩
  · rw [hplace] at hlast
    cases hnames : (ofKind "hover" events).getLast?.map (·.message text) with
    | none =>
        rw [hnames] at hlast
        have hsilent : hoverText none = hoverText (some 0) := hlast
        cases hoverText_injective hsilent
    | some name =>
        rw [hnames] at hlast
        exact congrArg some hlast
  · intro h
    rw [hdrag.mp h] at hfree
    cases hfree

end Controller
end GlobeView
