import GlobeView.Double.Arithmetic
import GlobeView.Page.RefreshClock
import GlobeView.Proofs.CallbackDesk

/-! # One animation frame at a time

A `Display` is a clock on its page, with the frame that is being dispatched: its callbacks run one
after another, and while they do, callbacks may be registered and unregistered and the clock may
end.  Everything that happens is an `Event`; one that is out of turn has no result (`step`).

* **The registry.**  An event does to the callbacks of the clock what it asks of a registry
  (`desk_step`), so the live callbacks are those of a roster.
* **Requests.**  Every event keeps that the page holds the open request of the clock and nothing
  else, that no request is open while nothing is live, and that one is open between frames while
  anything is (`Tended.step`).
* **The end.**  A clock that has ended leaves the page alone (`Stopped.step`). -/

namespace GlobeView

open Callbacks (Request Roster Desk Entry registrations)

/-- A frame that is being dispatched. -/
structure Dispatch (κ α : Type) where
  frame : Frame α
  /-- The callbacks that were handed out for it. -/
  taken : List (ℕ × κ)
  /-- Those of them that have not run yet. -/
  remaining : List (ℕ × κ)

/-- A clock on its page. -/
structure Display (κ α : Type) where
  clock : RefreshClock κ α := .idle
  page : Page α
  dispatch : Option (Dispatch κ α) := none
  /-- The calls of callbacks, with the frames they were made with, the oldest first. -/
  calls : List (Frame α × ℕ × κ) := []

namespace RefreshClock

variable {κ α : Type}

theorem keepAsking_eq {c : RefreshClock κ α} {p : Page α} (hwindow : p.features.hasWindow = true)
    (hgrants : p.features.grantsFrames = true) (hrequest : c.request = none)
    (hneeded : c.callbacks.isEmpty = false) (hrunning : c.isRunning = true) :
    c.keepAsking p =
      ({ c with request := some p.requests },
        { p with requests := p.requests + 1, pending := p.pending ++ [p.requests] }.write
          [.requestFrame]) := by
  simp [keepAsking, hrequest, hneeded, hrunning, Page.requestFrame, hwindow, hgrants]

theorem cancel_spec {c : RefreshClock κ α} {p : Page α} (hwindow : p.features.hasWindow = true)
    (hpending : p.pending = c.request.toList) :
    (c.cancel p).1 = { c with request := none } ∧ (c.cancel p).2.pending = [] ∧
      (c.cancel p).2.features = p.features ∧ (c.cancel p).2.requests = p.requests := by
  unfold cancel
  cases hr : c.request with
  | none =>
      rw [hr] at hpending
      refine ⟨?_, hpending, rfl, rfl⟩
      show c = { c with request := none }
      rw [← hr]
  | some request =>
      rw [hr] at hpending
      simp [Page.cancelFrame, hwindow, Page.write, hpending]

end RefreshClock

namespace Display

variable {κ α : Type}

/-- Something that happens to a clock. -/
inductive Event (κ α : Type) where
  | register (callback : κ)
  | unregister (id : ℕ)
  /-- A requested frame comes. -/
  | fire (request : ℕ) (stamp : α)
  /-- The next callback of the frame runs. -/
  | call
  /-- The callbacks of the frame have run. -/
  | finish
  /-- The clock ends. -/
  | stop

/-- What an event asks of the registry of callbacks. -/
def Event.request? : Event κ α → Option (Request κ)
  | .register callback => some (.register callback)
  | .unregister id => some (.unregister id)
  | .fire _ _ => some .beginDispatch
  | .call => none
  | .finish => some .finishDispatch
  | .stop => none

/-- What events ask of the registry, in order. -/
def requests (events : List (Event κ α)) : List (Request κ) := events.filterMap Event.request?

variable [Scalar α]

/-- What happens at an event, unless it is out of turn: only requested frames come, one at a time,
and a frame is over when all its callbacks have run. -/
def step (d : Display κ α) : Event κ α → Option (Display κ α)
  | .register callback =>
    let (_, clock, page) := d.clock.register callback d.page
    some { d with clock := clock, page := page }
  | .unregister id =>
    let (_, clock, page) := d.clock.unregister id d.page
    some { d with clock := clock, page := page }
  | .fire request stamp =>
    if d.dispatch.isNone ∧ request ∈ d.page.pending then
      let ((frame, taken), clock) := d.clock.beginFrame stamp
      some
        { d with
          clock := clock
          page := { d.page with pending := d.page.pending.erase request }
          dispatch := some ⟨frame, taken, taken⟩ }
    else none
  | .call =>
    match d.dispatch with
    | some ⟨frame, taken, callback :: rest⟩ =>
      some
        { d with
          dispatch := some ⟨frame, taken, rest⟩
          calls := d.calls ++ [(frame, callback)] }
    | _ => none
  | .finish =>
    match d.dispatch with
    | some ⟨_, taken, []⟩ =>
      let (clock, page) := d.clock.finishFrame taken d.page
      some { d with clock := clock, page := page, dispatch := none }
    | _ => none
  | .stop =>
    let (clock, page) := d.clock.stop d.page
    some { d with clock := clock, page := page }

/-- What happens at events in order. -/
def run : List (Event κ α) → Display κ α → Option (Display κ α)
  | [], d => some d
  | e :: rest, d => (d.step e).bind (run rest)

theorem run_append (before after : List (Event κ α)) (d : Display κ α) :
    run (before ++ after) d = (run before d).bind (run after) := by
  induction before generalizing d with
  | nil => rfl
  | cons e rest ih =>
      rw [List.cons_append, run, run, Option.bind_assoc]
      exact congrArg _ (funext ih)

theorem run_induction {P : Display κ α → Prop} {events : List (Event κ α)}
    (hstep : ∀ e ∈ events, ∀ d d', P d → step d e = some d' → P d') {d d' : Display κ α}
    (hd : P d) (h : run events d = some d') : P d' := by
  induction events generalizing d with
  | nil =>
      obtain rfl := Option.some.inj h
      exact hd
  | cons e rest ih =>
      obtain ⟨d₁, hs, hrest⟩ := Option.bind_eq_some_iff.mp h
      exact ih (fun e he => hstep e (List.mem_cons_of_mem _ he))
        (hstep e List.mem_cons_self d d₁ hd hs) hrest

/-! ### The registry -/

/-- The registry of the clock, with the callbacks that are out. -/
def desk (d : Display κ α) : Desk κ := ⟨d.clock.callbacks, d.dispatch.map (·.taken)⟩

/-- A display after its clock did something on the page. -/
def after (d : Display κ α) (did : RefreshClock κ α × Page α) : Display κ α :=
  { d with clock := did.1, page := did.2 }

/-- A display that goes on with other callbacks and asks for a frame if one is needed. -/
def asking (callbacks : Callbacks κ) (d : Display κ α) : Display κ α :=
  d.after ({ d.clock with callbacks := callbacks }.keepAsking d.page)

/-- A display that goes on with other callbacks and takes its request back if there are none. -/
def quieting (callbacks : Callbacks κ) (d : Display κ α) : Display κ α :=
  let clock := { d.clock with callbacks := callbacks }
  d.after (if callbacks.isEmpty then clock.cancel d.page else (clock, d.page))

/-- Only a requested frame comes, and only between frames. -/
theorem step_fire {d d' : Display κ α} {request : ℕ} {stamp : α}
    (h : d.step (.fire request stamp) = some d') :
    d.dispatch = none ∧ request ∈ d.page.pending ∧
      d' =
        { d with
          clock := (d.clock.beginFrame stamp).2
          page := { d.page with pending := d.page.pending.erase request }
          dispatch := some ⟨d.clock.nextFrame stamp, d.clock.callbacks.waiting,
            d.clock.callbacks.waiting⟩ } := by
  simp only [step] at h
  split_ifs at h with hturn
  exact ⟨Option.isNone_iff_eq_none.mp hturn.1, hturn.2, (Option.some.inj h).symm⟩

theorem step_finish {d d' : Display κ α} (h : d.step .finish = some d') :
    ∃ frame taken, d.dispatch = some ⟨frame, taken, []⟩ ∧
      d' = { d with dispatch := none }.asking (d.clock.callbacks.finishDispatch taken) := by
  simp only [step] at h
  split at h
  · next hd => exact ⟨_, _, hd, (Option.some.inj h).symm⟩
  · cases h

/-- What an event in turn does. -/
theorem step_cases {d d' : Display κ α} {e : Event κ α} (h : d.step e = some d') :
    (∃ callback, e = .register callback ∧ d' = d.asking (d.clock.callbacks.register callback).2) ∨
    (∃ id, e = .unregister id ∧ d' = d.quieting (d.clock.callbacks.unregister id).2) ∨
    (∃ request stamp, e = .fire request stamp ∧ d.dispatch = none ∧ request ∈ d.page.pending ∧
      d' =
        { d with
          clock := (d.clock.beginFrame stamp).2
          page := { d.page with pending := d.page.pending.erase request }
          dispatch := some ⟨d.clock.nextFrame stamp, d.clock.callbacks.waiting,
            d.clock.callbacks.waiting⟩ }) ∨
    (∃ frame taken callback rest, e = .call ∧ d.dispatch = some ⟨frame, taken, callback :: rest⟩ ∧
      d' =
        { d with
          dispatch := some ⟨frame, taken, rest⟩
          calls := d.calls ++ [(frame, callback)] }) ∨
    (∃ frame taken, e = .finish ∧ d.dispatch = some ⟨frame, taken, []⟩ ∧
      d' = { d with dispatch := none }.asking (d.clock.callbacks.finishDispatch taken)) ∨
    (e = .stop ∧ d' = d.after (d.clock.stop d.page)) := by
  cases e with
  | register callback => exact .inl ⟨callback, rfl, (Option.some.inj h).symm⟩
  | unregister id => exact .inr (.inl ⟨id, rfl, (Option.some.inj h).symm⟩)
  | fire request stamp => exact .inr (.inr (.inl ⟨request, stamp, rfl, step_fire h⟩))
  | call =>
      simp only [step] at h
      split at h
      · next hd =>
          exact .inr (.inr (.inr (.inl ⟨_, _, _, _, rfl, hd, (Option.some.inj h).symm⟩)))
      · cases h
  | finish =>
      obtain ⟨frame, taken, hd, hd'⟩ := step_finish h
      exact .inr (.inr (.inr (.inr (.inl ⟨frame, taken, rfl, hd, hd'⟩))))
  | stop => exact .inr (.inr (.inr (.inr (.inr ⟨rfl, (Option.some.inj h).symm⟩))))

omit [Scalar α] in
theorem desk_asking (callbacks : Callbacks κ) (d : Display κ α) :
    (d.asking callbacks).desk = ⟨callbacks, d.desk.taken⟩ := by
  simp only [asking, after, desk, RefreshClock.keepAsking]
  split_ifs <;> rfl

omit [Scalar α] in
theorem desk_quieting (callbacks : Callbacks κ) (d : Display κ α) :
    (d.quieting callbacks).desk = ⟨callbacks, d.desk.taken⟩ := by
  simp only [quieting, after, desk, RefreshClock.cancel]
  split_ifs
  · split <;> rfl
  · rfl

theorem desk_step {d d' : Display κ α} {e : Event κ α} (h : d.step e = some d')
    (hstop : e ≠ .stop) :
    match e.request? with
    | some q => ∃ reply, d.desk.answer q = some (reply, d'.desk)
    | none => d'.desk = d.desk := by
  rcases step_cases h with ⟨callback, rfl, rfl⟩ | ⟨id, rfl, rfl⟩ |
    ⟨request, stamp, rfl, hd, _, rfl⟩ | ⟨frame, taken, callback, rest, rfl, hd, rfl⟩ |
    ⟨frame, taken, rfl, hd, rfl⟩ | ⟨rfl, _⟩
  · exact ⟨_, by rw [desk_asking]; rfl⟩
  · exact ⟨_, by rw [desk_quieting]; rfl⟩
  · refine ⟨.dispatched d.clock.callbacks.waiting, ?_⟩
    simp only [desk, hd]
    rfl
  · simp only [Event.request?, desk, hd]
    rfl
  · refine ⟨.finished, ?_⟩
    rw [desk_asking]
    simp only [desk, hd]
    rfl
  · exact absurd rfl hstop

/-! ### Requests -/

/-- The page holds the open request of a clock that is running, and nothing else. -/
structure Granting (d : Display κ α) : Prop where
  hasWindow : d.page.features.hasWindow = true
  grantsFrames : d.page.features.grantsFrames = true
  isRunning : d.clock.isRunning = true
  pending : d.page.pending = d.clock.request.toList

omit [Scalar α] in
theorem Granting.length_pending_le {d : Display κ α} (h : d.Granting) :
    d.page.pending.length ≤ 1 := by
  rw [h.pending]
  cases d.clock.request <;> simp

omit [Scalar α] in
/-- Asking leaves a request open if there was one or if there are callbacks. -/
theorem Granting.asking {d : Display κ α} (h : d.Granting) (callbacks : Callbacks κ) :
    (d.asking callbacks).Granting ∧
      (d.asking callbacks).clock.request.isSome =
        (d.clock.request.isSome || !callbacks.isEmpty) := by
  have hrunning := h.isRunning
  by_cases hneeded : d.clock.request = none ∧ callbacks.isEmpty = false
  · obtain ⟨hnone, hsome⟩ := hneeded
    have hpending : d.page.pending = [] := by rw [h.pending, hnone]; rfl
    have hasked : d.asking callbacks = d.after
        ({ d.clock with callbacks := callbacks, request := some d.page.requests },
          { d.page with
            requests := d.page.requests + 1
            pending := d.page.pending ++ [d.page.requests] }.write [.requestFrame]) :=
      congrArg d.after (RefreshClock.keepAsking_eq h.hasWindow h.grantsFrames hnone hsome hrunning)
    rw [hasked]
    refine ⟨⟨h.hasWindow, h.grantsFrames, hrunning, ?_⟩, by simp [after, hsome]⟩
    simp [after, Page.write, hpending]
  · have hdone : (d.clock.request.isSome || callbacks.isEmpty) = true := by
      cases hr : d.clock.request with
      | none => simpa [hr] using hneeded
      | some _ => rfl
    have hsame :
        d.asking callbacks = d.after ({ d.clock with callbacks := callbacks }, d.page) := by
      simp [Display.asking, RefreshClock.keepAsking, hdone]
    rw [hsame]
    refine ⟨⟨h.hasWindow, h.grantsFrames, hrunning, h.pending⟩, ?_⟩
    show d.clock.request.isSome = _
    cases hr : d.clock.request with
    | none => simpa [hr] using hdone
    | some _ => rfl

omit [Scalar α] in
/-- Quieting leaves a request open if there was one and there are callbacks. -/
theorem Granting.quieting {d : Display κ α} (h : d.Granting) (callbacks : Callbacks κ) :
    (d.quieting callbacks).Granting ∧
      (d.quieting callbacks).clock.request.isSome =
        (d.clock.request.isSome && !callbacks.isEmpty) := by
  simp only [Display.quieting]
  split_ifs with hempty
  · obtain ⟨hclock, hpending, hfeatures, _⟩ := RefreshClock.cancel_spec
      (c := { d.clock with callbacks := callbacks }) h.hasWindow h.pending
    simp only [after, hclock]
    refine ⟨⟨?_, ?_, h.isRunning, hpending⟩, by simp [hempty]⟩
    · rw [hfeatures]
      exact h.hasWindow
    · rw [hfeatures]
      exact h.grantsFrames
  · exact ⟨⟨h.hasWindow, h.grantsFrames, h.isRunning, h.pending⟩, by simp [after, hempty]⟩

/-- Until the clock ends the page goes on holding its open request and nothing else. -/
theorem Granting.step {d d' : Display κ α} (h : d.Granting) {e : Event κ α}
    (hs : d.step e = some d') (hstop : e ≠ .stop) : d'.Granting := by
  rcases step_cases hs with ⟨callback, rfl, rfl⟩ | ⟨id, rfl, rfl⟩ |
    ⟨request, stamp, rfl, _, hmem, rfl⟩ | ⟨frame, taken, callback, rest, rfl, _, rfl⟩ |
    ⟨frame, taken, rfl, _, rfl⟩ | ⟨rfl, _⟩
  · exact (h.asking _).1
  · exact (h.quieting _).1
  · refine ⟨h.hasWindow, h.grantsFrames, h.isRunning, ?_⟩
    -- the frame that comes is the only one that was requested
    show d.page.pending.erase request = []
    rw [h.pending] at hmem ⊢
    cases hr : d.clock.request with
    | none => rfl
    | some open' =>
        rw [hr, Option.toList_some, List.mem_singleton] at hmem
        simp [hmem]
  · exact ⟨h.hasWindow, h.grantsFrames, h.isRunning, h.pending⟩
  · have hidle : ({ d with dispatch := none } : Display κ α).Granting :=
      ⟨h.hasWindow, h.grantsFrames, h.isRunning, h.pending⟩
    exact (hidle.asking _).1
  · exact absurd rfl hstop

/-! ### Live callbacks -/

/-- A display whose clock looks after its callbacks: no request is open while nothing is live, and
between frames one is open while anything is. -/
structure Tended (d : Display κ α) : Prop where
  granting : d.Granting
  sound : d.desk.Sound
  quiet : d.clock.request.isSome = true → d.desk.live.isEmpty = false
  asked : d.dispatch = none → d.desk.live.isEmpty = false → d.clock.request.isSome = true

theorem Tended.roster_step {d d' : Display κ α} (h : d.Tended) {e : Event κ α}
    (hs : d.step e = some d') (hstop : e ≠ .stop)
    (hid : d.clock.callbacks.nextId + registrations (requests [e]) < wordRange) :
    d'.desk.Sound ∧
      match e.request? with
      | some q => ∃ reply, d.desk.roster.answer q = some (reply, d'.desk.roster)
      | none => d'.desk.roster = d.desk.roster := by
  have hdesk := desk_step hs hstop
  cases he : e.request? with
  | none =>
      rw [he] at hdesk
      have hsame : d'.desk = d.desk := hdesk
      rw [hsame]
      exact ⟨h.sound, rfl⟩
  | some q =>
      rw [he] at hdesk
      obtain ⟨reply, hreply⟩ := hdesk
      have hq : requests [e] = [q] := by simp [requests, he]
      rw [hq] at hid
      obtain ⟨reply', desk, hanswer, hsound, hroster⟩ | ⟨hnone, _⟩ := h.sound.answer hid
      · obtain ⟨rfl, rfl⟩ := Prod.mk.inj (Option.some.inj (hreply.symm.trans hanswer))
        exact ⟨hsound, reply, hroster⟩
      · rw [hreply] at hnone
        cases hnone

omit [Scalar α] in
/-- Whoever asks for a frame if one is needed tends the callbacks, unless a request was open for
nothing. -/
theorem Granting.tended_asking {d : Display κ α} (h : d.Granting) {callbacks : Callbacks κ}
    (hsound : (d.asking callbacks).desk.Sound)
    (hquiet : d.clock.request.isSome = true → (d.asking callbacks).desk.live.isEmpty = false) :
    (d.asking callbacks).Tended := by
  obtain ⟨hgranting, hrequest⟩ := h.asking callbacks
  have hempty : callbacks.isEmpty = (d.asking callbacks).desk.live.isEmpty := by
    have hempty := hsound.isEmpty_eq
    rwa [desk_asking] at hempty ⊢
  rw [hempty] at hrequest
  refine ⟨hgranting, hsound, ?_, ?_⟩
  · intro hsome
    rw [hrequest, Bool.or_eq_true] at hsome
    rcases hsome with hbefore | hlive
    · exact hquiet hbefore
    · simpa using hlive
  · intro _ hlive
    rw [hrequest, hlive]
    simp

omit [Scalar α] in
/-- Whoever takes a request back when nothing is left tends the callbacks, unless one was missing.
-/
theorem Granting.tended_quieting {d : Display κ α} (h : d.Granting) {callbacks : Callbacks κ}
    (hsound : (d.quieting callbacks).desk.Sound)
    (hasked : d.dispatch = none → (d.quieting callbacks).desk.live.isEmpty = false →
      d.clock.request.isSome = true) :
    (d.quieting callbacks).Tended := by
  obtain ⟨hgranting, hrequest⟩ := h.quieting callbacks
  have hempty : callbacks.isEmpty = (d.quieting callbacks).desk.live.isEmpty := by
    have hempty := hsound.isEmpty_eq
    rwa [desk_quieting] at hempty ⊢
  rw [hempty] at hrequest
  refine ⟨hgranting, hsound, ?_, ?_⟩
  · intro hsome
    rw [hrequest, Bool.and_eq_true] at hsome
    simpa using hsome.2
  · intro hidle hlive
    rw [hrequest, hlive, hasked hidle hlive]
    rfl

theorem Tended.step {d d' : Display κ α} (h : d.Tended) {e : Event κ α}
    (hs : d.step e = some d') (hstop : e ≠ .stop)
    (hid : d.clock.callbacks.nextId + registrations (requests [e]) < wordRange) : d'.Tended := by
  obtain ⟨hsound, hroster⟩ := h.roster_step hs hstop hid
  have hgranting := h.granting.step hs hstop
  rcases step_cases hs with ⟨callback, rfl, rfl⟩ | ⟨id, rfl, rfl⟩ |
    ⟨request, stamp, rfl, hd, _, rfl⟩ | ⟨frame, taken, callback, rest, rfl, hd, rfl⟩ |
    ⟨frame, taken, rfl, hd, rfl⟩ | ⟨rfl, _⟩
  · -- the new callback is live
    obtain ⟨reply, hroster⟩ := hroster
    have hlive : d.desk.live ++ [(d.clock.callbacks.nextId, callback)] = Desk.live _ :=
      congrArg (fun r => r.2.live) (Option.some.inj hroster)
    refine h.granting.tended_asking hsound fun _ => ?_
    rw [← hlive]
    simp
  · -- what is live now was live before
    obtain ⟨reply, hroster⟩ := hroster
    have hlive : d.desk.live.filter (·.1 != id) = Desk.live _ :=
      congrArg (fun r => r.2.live) (Option.some.inj hroster)
    refine h.granting.tended_quieting hsound fun hidle hsome => h.asked hidle ?_
    rw [← hlive] at hsome
    cases hbefore : d.desk.live with
    | nil => simp [hbefore] at hsome
    | cons _ _ => rfl
  · -- the request is no longer open, and it is not between frames
    exact ⟨hgranting, hsound, fun hsome => (nomatch hsome), fun hidle => (nomatch hidle)⟩
  · have hlive := congrArg Roster.live hroster
    refine ⟨hgranting, hsound, fun hsome => ?_, fun hidle => nomatch hidle⟩
    exact (congrArg List.isEmpty hlive).trans (h.quiet hsome)
  · -- the end of a frame changes nothing about what is live
    obtain ⟨reply, hroster⟩ := hroster
    have hopen : d.desk.roster.isOpen = true := by simp [Desk.roster, desk, hd]
    simp only [Roster.answer, hopen, if_true] at hroster
    have hlive : d.desk.live = Desk.live _ :=
      congrArg (fun r => r.2.live) (Option.some.inj hroster)
    have hidle : ({ d with dispatch := none } : Display κ α).Granting :=
      ⟨h.granting.hasWindow, h.granting.grantsFrames, h.granting.isRunning, h.granting.pending⟩
    refine hidle.tended_asking hsound fun hsome => ?_
    rw [← hlive]
    exact h.quiet hsome
  · exact absurd rfl hstop

theorem Tended.run {d d' : Display κ α} (h : d.Tended) {events : List (Event κ α)}
    (hrun : run events d = some d') (hstop : .stop ∉ events)
    (hid : d.clock.callbacks.nextId + registrations (requests events) < wordRange) :
    d'.Tended ∧ ∃ log, Roster.run (requests events) d.desk.roster = some (log, d'.desk.roster) := by
  induction events generalizing d with
  | nil =>
      obtain rfl := Option.some.inj hrun
      exact ⟨h, [], rfl⟩
  | cons e rest ih =>
      obtain ⟨d₁, hs, hrest⟩ := Option.bind_eq_some_iff.mp hrun
      have hne : e ≠ .stop := fun heq => hstop (heq ▸ List.mem_cons_self)
      have hlater : .stop ∉ rest := fun hmem => hstop (List.mem_cons_of_mem _ hmem)
      cases he : e.request? with
      | none =>
          have hone : requests [e] = [] := by simp [requests, he]
          have hall : requests (e :: rest) = requests rest := List.filterMap_cons_none he
          have hroom : d.clock.callbacks.nextId + registrations (requests [e]) < wordRange := by
            rw [hone, registrations]
            omega
          obtain ⟨_, hroster⟩ := h.roster_step hs hne hroom
          rw [he] at hroster
          have hsame : d₁.desk.roster = d.desk.roster := hroster
          have hnext : d₁.clock.callbacks.nextId = d.clock.callbacks.nextId :=
            congrArg Roster.next hsame
          rw [hall] at hid ⊢
          rw [← hsame]
          exact ih (h.step hs hne hroom) hrest hlater (by omega)
      | some q =>
          have hone : requests [e] = [q] := by simp [requests, he]
          have hall : requests (e :: rest) = q :: requests rest := List.filterMap_cons_some he
          rw [hall, Callbacks.registrations_cons] at hid
          have hroom : d.clock.callbacks.nextId + registrations (requests [e]) < wordRange := by
            rw [hone]
            omega
          obtain ⟨_, hroster⟩ := h.roster_step hs hne hroom
          rw [he] at hroster
          obtain ⟨reply, hreply⟩ := hroster
          have hlog : d.desk.roster.step q = some
              (⟨q, reply, d₁.desk.roster.live.length, d₁.desk.roster.live.isEmpty⟩,
                d₁.desk.roster) := by
            rw [Roster.step, hreply]
            rfl
          have hnext : d₁.clock.callbacks.nextId =
              d.clock.callbacks.nextId + registrations [q] := Roster.next_step hlog
          obtain ⟨htended, log, hrun'⟩ :=
            ih (h.step hs hne hroom) hrest hlater (by omega)
          rw [hall]
          exact ⟨htended, _, Callbacks.runWith_cons_eq_some.mpr ⟨_, _, log, hlog, hrun', rfl⟩⟩

/-! ### The calls of a frame -/

/-- A frame that is being dispatched: its callbacks run in order, and some of them have. -/
structure Calling (frame : Frame α) (taken : List (ℕ × κ)) (before : List (Frame α × ℕ × κ))
    (ran remaining : List (ℕ × κ)) (d : Display κ α) : Prop where
  dispatch : d.dispatch = some ⟨frame, taken, remaining⟩
  split : taken = ran ++ remaining
  calls : d.calls = before ++ ran.map (frame, ·)

theorem Calling.step {frame : Frame α} {taken ran remaining : List (ℕ × κ)}
    {before : List (Frame α × ℕ × κ)} {d d' : Display κ α}
    (h : Calling frame taken before ran remaining d) {e : Event κ α} (hs : d.step e = some d')
    (hfinish : e ≠ .finish) :
    ∃ ran' remaining', Calling frame taken before ran' remaining' d' := by
  rcases step_cases hs with ⟨callback, rfl, rfl⟩ | ⟨id, rfl, rfl⟩ | ⟨request, stamp, rfl, hd, _⟩ |
    ⟨frame', taken', callback, rest, rfl, hd, rfl⟩ | ⟨_, _, rfl, _⟩ | ⟨rfl, rfl⟩
  · exact ⟨ran, remaining, h.dispatch, h.split, h.calls⟩
  · exact ⟨ran, remaining, h.dispatch, h.split, h.calls⟩
  · rw [h.dispatch] at hd
    cases hd
  · rw [h.dispatch] at hd
    obtain ⟨rfl, rfl, rfl⟩ := (Dispatch.mk.injEq ..).mp (Option.some.inj hd)
    refine ⟨ran ++ [callback], rest, rfl, ?_, ?_⟩
    · rw [h.split, List.append_assoc]
      rfl
    · rw [h.calls, List.map_append, List.append_assoc]
      rfl
  · exact absurd rfl hfinish
  · exact ⟨ran, remaining, h.dispatch, h.split, h.calls⟩

/-- From the moment that a frame comes until it is over, all the callbacks that were handed out run,
each once and in order. -/
theorem calls_frame {d d' : Display κ α} {request : ℕ} {stamp : α} {during : List (Event κ α)}
    (hrun : run (.fire request stamp :: (during ++ [.finish])) d = some d')
    (hduring : .finish ∉ during) :
    d'.calls = d.calls ++ d.clock.callbacks.waiting.map (d.clock.nextFrame stamp, ·) := by
  obtain ⟨d₁, hfire, hrest⟩ := Option.bind_eq_some_iff.mp hrun
  rw [run_append] at hrest
  obtain ⟨d₂, hcalls, hfinish⟩ := Option.bind_eq_some_iff.mp hrest
  have hstart : Calling (d.clock.nextFrame stamp) d.clock.callbacks.waiting d.calls []
      d.clock.callbacks.waiting d₁ := by
    obtain ⟨_, _, rfl⟩ := step_fire hfire
    exact ⟨rfl, rfl, (List.append_nil _).symm⟩
  obtain ⟨ran, remaining, hcalling⟩ := run_induction
    (P := fun d₂ => ∃ ran remaining,
      Calling (d.clock.nextFrame stamp) d.clock.callbacks.waiting d.calls ran remaining d₂)
    (fun e he d d' ⟨_, _, h⟩ hs => h.step hs fun heq => hduring (heq ▸ he))
    ⟨_, _, hstart⟩ hcalls
  obtain ⟨d₃, hlast, hnil⟩ := Option.bind_eq_some_iff.mp hfinish
  obtain rfl := Option.some.inj hnil
  obtain ⟨_, _, hd, rfl⟩ := step_finish hlast
  rw [hcalling.dispatch] at hd
  obtain ⟨rfl, rfl, rfl⟩ := (Dispatch.mk.injEq ..).mp (Option.some.inj hd)
  have hall := hcalling.split
  rw [List.append_nil] at hall
  rw [hall]
  exact hcalling.calls

/-! ### The end -/

/-- A clock that has ended, with no request on its page. -/
structure Stopped (d : Display κ α) : Prop where
  isRunning : d.clock.isRunning = false
  request : d.clock.request = none
  pending : d.page.pending = []

theorem Granting.stop {d d' : Display κ α} (h : d.Granting) (hs : d.step .stop = some d') :
    d'.Stopped ∧ d'.page.requests = d.page.requests := by
  obtain rfl := Option.some.inj hs
  obtain ⟨hclock, hpending, _, hrequests⟩ := RefreshClock.cancel_spec h.hasWindow h.pending
  refine ⟨⟨rfl, ?_, hpending⟩, hrequests⟩
  show (d.clock.cancel d.page).1.request = none
  rw [hclock]

theorem Stopped.step {d d' : Display κ α} (h : d.Stopped) {e : Event κ α}
    (hs : d.step e = some d') : d'.Stopped ∧ d'.page = d.page := by
  have hasking (d : Display κ α) (h : d.Stopped) (callbacks : Callbacks κ) :
      (d.asking callbacks).Stopped ∧ (d.asking callbacks).page = d.page := by
    have hsame :
        d.asking callbacks = d.after ({ d.clock with callbacks := callbacks }, d.page) := by
      simp [asking, RefreshClock.keepAsking, h.isRunning]
    rw [hsame]
    exact ⟨⟨h.isRunning, h.request, h.pending⟩, rfl⟩
  rcases step_cases hs with ⟨callback, rfl, rfl⟩ | ⟨id, rfl, rfl⟩ | ⟨_, _, _, _, hmem, _⟩ |
    ⟨frame, taken, callback, rest, rfl, _, rfl⟩ | ⟨frame, taken, rfl, _, rfl⟩ | ⟨rfl, rfl⟩
  · exact hasking d h _
  · have hsame : d.quieting (d.clock.callbacks.unregister id).2 =
        d.after ({ d.clock with callbacks := (d.clock.callbacks.unregister id).2 }, d.page) := by
      simp [quieting, RefreshClock.cancel, h.request]
    rw [hsame]
    exact ⟨⟨h.isRunning, h.request, h.pending⟩, rfl⟩
  · rw [h.pending] at hmem
    cases hmem
  · exact ⟨⟨h.isRunning, h.request, h.pending⟩, rfl⟩
  · exact hasking { d with dispatch := none } ⟨h.isRunning, h.request, h.pending⟩ _
  · have hsame : d.clock.stop d.page =
        ({ d.clock with callbacks := .empty, isRunning := false }, d.page) := by
      simp [RefreshClock.stop, RefreshClock.cancel, h.request]
    rw [hsame]
    exact ⟨⟨rfl, h.request, h.pending⟩, rfl⟩

/-! ### Runs -/

/-- The live callbacks after events, kept as a plain list. -/
def liveAfter (events : List (Event κ α)) : Option (List (ℕ × κ)) :=
  (Roster.run (requests events) {}).map (·.2.live)

/-- A clock on a page, before anything has happened to it. -/
def start (page : Page α) : Display κ α := { page := page }

variable {page : Page α}

omit [Scalar α] in
theorem tended_start (hwindow : page.features.hasWindow = true)
    (hgrants : page.features.grantsFrames = true) (hpending : page.pending = []) :
    (start page : Display κ α).Tended where
  granting := ⟨hwindow, hgrants, rfl, hpending⟩
  sound := Desk.sound_start
  quiet h := nomatch h
  asked _ h := nomatch h

theorem granting_or_stopped (hwindow : page.features.hasWindow = true)
    (hgrants : page.features.grantsFrames = true) (hpending : page.pending = [])
    {events : List (Event κ α)} {d : Display κ α} (hrun : run events (start page) = some d) :
    d.Granting ∧ .stop ∉ events ∨ d.Stopped := by
  by_cases hstop : .stop ∈ events
  · obtain ⟨before, after, rfl⟩ := List.append_of_mem hstop
    refine .inr ?_
    have hboth (d : Display κ α) (h : d.Granting ∨ d.Stopped) {e : Event κ α} {d' : Display κ α}
        (hs : d.step e = some d') : (e ≠ .stop ∧ d'.Granting) ∨ d'.Stopped := by
      rcases h with h | h
      · by_cases he : e = .stop
        · subst he
          exact .inr (h.stop hs).1
        · exact .inl ⟨he, h.step hs he⟩
      · exact .inr (h.step hs).1
    rw [run_append] at hrun
    obtain ⟨d₁, hbefore, hrest⟩ := Option.bind_eq_some_iff.mp hrun
    obtain ⟨d₂, hs, hafter⟩ := Option.bind_eq_some_iff.mp hrest
    have h₁ : d₁.Granting ∨ d₁.Stopped :=
      run_induction (P := fun d => d.Granting ∨ d.Stopped)
        (fun e _ d d' h hs => (hboth d h hs).imp_left (·.2))
        (.inl (tended_start hwindow hgrants hpending).granting) hbefore
    have h₂ : d₂.Stopped := by
      rcases hboth d₁ h₁ hs with ⟨hne, _⟩ | h
      · exact absurd rfl hne
      · exact h
    exact run_induction (P := Stopped) (fun e _ d d' h hs => (h.step hs).1) h₂ hafter
  · refine .inl ⟨?_, hstop⟩
    exact run_induction (P := Granting)
      (fun e he d d' h hs => h.step hs fun heq => hstop (heq ▸ he))
      (tended_start hwindow hgrants hpending).granting hrun

theorem stopped_after (hwindow : page.features.hasWindow = true)
    (hgrants : page.features.grantsFrames = true) (hpending : page.pending = [])
    {before after : List (Event κ α)} {d : Display κ α}
    (hrun : run (before ++ .stop :: after) (start page) = some d) :
    d.page.pending = [] ∧
      ∃ d₁, run before (start page) = some d₁ ∧ d.page.requests = d₁.page.requests := by
  rw [run_append] at hrun
  obtain ⟨d₁, hbefore, hrest⟩ := Option.bind_eq_some_iff.mp hrun
  obtain ⟨d₂, hs, hafter⟩ := Option.bind_eq_some_iff.mp hrest
  have h₂ : d₂.Stopped ∧ d₂.page.requests = d₁.page.requests := by
    rcases granting_or_stopped hwindow hgrants hpending hbefore with ⟨h, _⟩ | h
    · exact h.stop hs
    · obtain ⟨hstopped, hpage⟩ := h.step hs
      exact ⟨hstopped, by rw [hpage]⟩
  have h : d.Stopped ∧ d.page = d₂.page :=
    run_induction (P := fun d => d.Stopped ∧ d.page = d₂.page)
      (fun e _ d d' h hs => ⟨(h.1.step hs).1, (h.1.step hs).2.trans h.2⟩) ⟨h₂.1, rfl⟩ hafter
  exact ⟨h.1.pending, d₁, hbefore, by rw [h.2, h₂.2]⟩

/-- As long as identifiers are not used up, the live callbacks are those of the plain list. -/
theorem tended_run (hwindow : page.features.hasWindow = true)
    (hgrants : page.features.grantsFrames = true) (hpending : page.pending = [])
    {events : List (Event κ α)} {d : Display κ α} (hrun : run events (start page) = some d)
    (hstop : .stop ∉ events) (hid : registrations (requests events) < wordRange) :
    d.Tended ∧ liveAfter events = some d.desk.live := by
  obtain ⟨htended, log, hroster⟩ := (tended_start hwindow hgrants hpending).run hrun hstop
    (by simpa [start, RefreshClock.idle, Callbacks.empty] using hid)
  refine ⟨htended, ?_⟩
  have hstart : (start page : Display κ α).desk.roster = {} := rfl
  rw [hstart] at hroster
  rw [liveAfter, hroster]
  rfl

theorem frame_calls_live (hwindow : page.features.hasWindow = true)
    (hgrants : page.features.grantsFrames = true) (hpending : page.pending = [])
    {before during after : List (Event κ α)} {request : ℕ} {stamp : α} {d : Display κ α}
    (hrun : run (before ++ .fire request stamp :: (during ++ .finish :: after)) (start page) =
      some d)
    (hduring : .finish ∉ during) (hid : registrations (requests before) < wordRange) :
    ∃ d₁ d₂ callbacks, run before (start page) = some d₁ ∧
      run (.fire request stamp :: (during ++ [.finish])) d₁ = some d₂ ∧
      liveAfter before = some callbacks ∧
      (callbacks.map Prod.fst).Pairwise (· < ·) ∧
      d₂.calls = d₁.calls ++ callbacks.map (d₁.clock.nextFrame stamp, ·) := by
  have hsplit : before ++ .fire request stamp :: (during ++ .finish :: after) =
      before ++ (.fire request stamp :: (during ++ [.finish]) ++ after) := by simp
  rw [hsplit, run_append] at hrun
  obtain ⟨d₁, hbefore, hrest⟩ := Option.bind_eq_some_iff.mp hrun
  rw [run_append] at hrest
  obtain ⟨d₂, hframe, _⟩ := Option.bind_eq_some_iff.mp hrest
  obtain ⟨d', hfire, _⟩ := Option.bind_eq_some_iff.mp hframe
  obtain ⟨hidle, hmem, _⟩ := step_fire hfire
  -- a clock that has ended has no request, so no frame of it comes
  have hstop : .stop ∉ before := by
    rcases granting_or_stopped hwindow hgrants hpending hbefore with ⟨_, h⟩ | h
    · exact h
    · rw [h.pending] at hmem
      cases hmem
  obtain ⟨h, hlive⟩ := tended_run hwindow hgrants hpending hbefore hstop hid
  have hwaiting : d₁.desk.live = d₁.clock.callbacks.waiting := by
    simp [Desk.live, Desk.held, desk, hidle]
  refine ⟨d₁, d₂, _, hbefore, hframe, hlive, ?_, ?_⟩
  · exact h.sound.increasing.sublist ((Desk.Sound.live_sublist d₁.desk).map Prod.fst)
  · rw [hwaiting]
    exact calls_frame hframe hduring

/-- **One animation frame is requested while one is needed.**  On a page with a window that grants
frames, whatever happens to a clock: at most one request is open; after the end of the clock none
is, and none is made again.  As long as identifiers are not used up, none is open while no callback
is live, and between frames one is open while any is; and each frame runs the callbacks that are
live when it comes, each once, in the order of their registration. -/
theorem one_frame_requested (hwindow : page.features.hasWindow = true)
    (hgrants : page.features.grantsFrames = true) (hpending : page.pending = [])
    {events : List (Event κ α)} {d : Display κ α} (hrun : run events (start page) = some d) :
    d.page.pending.length ≤ 1 ∧
      (∀ before after, events = before ++ .stop :: after →
        d.page.pending = [] ∧
          ∃ d₁, run before (start page) = some d₁ ∧ d.page.requests = d₁.page.requests) ∧
      (registrations (requests events) < wordRange → .stop ∉ events →
        ∃ callbacks, liveAfter events = some callbacks ∧
          (callbacks = [] → d.page.pending = []) ∧
          (d.dispatch = none → callbacks ≠ [] → d.page.pending.length = 1)) ∧
      ∀ before request stamp during after,
        events = before ++ .fire request stamp :: (during ++ .finish :: after) →
        .finish ∉ during → registrations (requests before) < wordRange →
          ∃ d₁ d₂ callbacks, run before (start page) = some d₁ ∧
            run (.fire request stamp :: (during ++ [.finish])) d₁ = some d₂ ∧
            liveAfter before = some callbacks ∧
            (callbacks.map Prod.fst).Pairwise (· < ·) ∧
            d₂.calls = d₁.calls ++ callbacks.map (d₁.clock.nextFrame stamp, ·) := by
  refine ⟨?_, ?_, ?_, ?_⟩
  · rcases granting_or_stopped hwindow hgrants hpending hrun with ⟨h, _⟩ | h
    · exact h.length_pending_le
    · rw [h.pending]
      exact Nat.zero_le 1
  · rintro before after rfl
    exact stopped_after hwindow hgrants hpending hrun
  · intro hid hstop
    obtain ⟨h, hlive⟩ := tended_run hwindow hgrants hpending hrun hstop hid
    have hopen := h.granting.pending
    refine ⟨d.desk.live, hlive, fun hnone => ?_, fun hidle hsome => ?_⟩
    · cases hr : d.clock.request with
      | none => simpa [hr] using hopen
      | some request =>
          have := h.quiet (by rw [hr]; rfl)
          simp [hnone] at this
    · obtain ⟨request, hr⟩ := Option.isSome_iff_exists.mp
        (h.asked hidle (by simpa using hsome))
      rw [hopen, hr]
      rfl
  · rintro before request stamp during after rfl hduring hid
    exact frame_calls_live hwindow hgrants hpending hrun hduring hid

/-- During a frame both of its callbacks are unregistered, one of them before its turn, and a third
is registered; the frame after that ends the clock before its own callback has run. -/
theorem one_frame_requested_ended_midframe :
    let page : Page Float := { elements := [], displayClock := 0, wallClock := 0 }
    let before : List (Event String Float) := [.register "a", .register "b"]
    let during : List (Event String Float) :=
      [.call, .unregister 1, .register "c", .unregister 0, .call]
    let frame : List (Event String Float) := .fire 0 16 :: (during ++ [.finish])
    let ending : List (Event String Float) := [.fire 1 33, .stop, .register "d", .call, .finish]
    ∃ d₁ d₂ d₃, run before (start page) = some d₁ ∧ run frame d₁ = some d₂ ∧
      run ending d₂ = some d₃ ∧
      d₁.page.pending.length = 1 ∧ d₂.page.pending.length = 1 ∧ d₃.page.pending = [] ∧
      liveAfter (before ++ frame) = some [(2, "c")] ∧
      d₂.calls.map Prod.snd = [(0, "a"), (1, "b")] := by
  intro page before during frame ending
  have hidle (events : List (Event String Float)) (d : Display String Float)
      (hnone : (run events (start page)).any (·.dispatch.isNone) = true)
      (h : run events (start page) = some d) : d.dispatch = none := by
    rw [h] at hnone
    exact Option.isNone_iff_eq_none.mp hnone
  obtain ⟨d₃, h₃⟩ : ∃ d, run (before ++ frame ++ ending) (start page) = some d :=
    Option.isSome_iff_exists.mp (by decide +kernel)
  obtain ⟨d₂, h₂, hending⟩ := Option.bind_eq_some_iff.mp ((run_append ..).symm.trans h₃)
  obtain ⟨d₁, h₁, hframe⟩ := Option.bind_eq_some_iff.mp ((run_append ..).symm.trans h₂)
  have hlive₁ : liveAfter before = some [(0, "a"), (1, "b")] := by decide +kernel
  have hlive₂ : liveAfter (before ++ frame) = some [(2, "c")] := by decide +kernel
  obtain ⟨_, _, hneeded₁, _⟩ := one_frame_requested rfl rfl rfl h₁
  obtain ⟨_, _, hneeded₂, hcalls⟩ := one_frame_requested rfl rfl rfl h₂
  obtain ⟨_, hended, _, _⟩ := one_frame_requested rfl rfl rfl h₃
  obtain ⟨c₁, hc₁, _, hone₁⟩ := hneeded₁ (by decide +kernel) (by simp [before])
  obtain ⟨c₂, hc₂, _, hone₂⟩ := hneeded₂ (by decide +kernel) (by simp [before, frame, during])
  obtain ⟨e₁, e₂, taken, he₁, he₂, htaken, _, hran⟩ :=
    hcalls before 0 16 during [] rfl (by simp [during]) (by decide +kernel)
  obtain rfl := Option.some.inj (h₁.symm.trans he₁)
  obtain rfl := Option.some.inj (hframe.symm.trans he₂)
  obtain rfl := Option.some.inj (hlive₁.symm.trans hc₁)
  obtain rfl := Option.some.inj (hlive₁.symm.trans htaken)
  obtain rfl := Option.some.inj (hlive₂.symm.trans hc₂)
  have hnothing : d₁.calls = [] := by
    have hnone : (run before (start page)).any (·.calls.isEmpty) = true := by decide +kernel
    rw [h₁] at hnone
    exact List.isEmpty_iff.mp hnone
  refine ⟨d₁, d₂, d₃, h₁, hframe, hending, ?_, ?_, ?_, hlive₂, ?_⟩
  · exact hone₁ (hidle _ _ (by decide +kernel) h₁) (by simp)
  · exact hone₂ (hidle _ _ (by decide +kernel) h₂) (by simp)
  · exact (hended (before ++ frame ++ [.fire 1 33]) _ rfl).1
  · rw [hran, hnothing]
    rfl

end Display
end GlobeView
