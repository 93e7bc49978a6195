import GlobeView.Proofs.ExactNumbers
import GlobeView.Proofs.PageHoldings
import GlobeView.Proofs.SettleTimer
import GlobeView.Proofs.SizeAgreement

/-! # Session time and the clock of the display

A frame comes with a time stamp of the display.  The clock of a session is moved on by the time that
has passed since the stamp before, or by nothing where the stamps go back; yet it is always the last
stamp that the next one is compared with.

* So the session runs ahead of the display by as much as the stamps went back, in total (`setback`):
  that is the invariant of a clock whose frames had given stamps (`RefreshClock.Follows`), which
  every event keeps (`Display.follows_run`).
* The timer of the second measurement is set by the clock of the page and asked in session time.  As
  that is never behind the display, the answer is yes by the first frame that the page itself would
  give it at (`MountedGlobe.measures_by`). -/

namespace GlobeView

open Scalar

/-! ### Time stamps -/

/-- How far time stamps go back, in total. -/
noncomputable def setback : List ℝ → ℝ
  | before :: stamp :: rest => Max.max (before - stamp) 0 + setback (stamp :: rest)
  | _ => 0

theorem setback_nonneg (stamps : List ℝ) : 0 ≤ setback stamps := by
  induction stamps using setback.induct with
  | case1 before stamp rest ih => exact add_nonneg (le_max_right _ _) ih
  | case2 stamps hshort => rw [setback.eq_2 _ hshort]

/-- Time stamps that go back by nothing in total never go back. -/
theorem setback_eq_zero_iff (stamps : List ℝ) : setback stamps = 0 ↔ stamps.IsChain (· ≤ ·) := by
  induction stamps using setback.induct with
  | case1 before stamp rest ih =>
      have hsum := add_eq_zero_iff_of_nonneg (le_max_right (before - stamp) 0)
        (setback_nonneg (stamp :: rest))
      rw [setback, hsum, ih, List.isChain_cons_cons, max_eq_right_iff, sub_nonpos]
  | case2 stamps hshort =>
      rw [setback.eq_2 _ hshort]
      match stamps with
      | [] => simp
      | [_] => simp
      | _ :: _ :: _ => exact absurd rfl (hshort _ _ _)

theorem setback_concat (earlier : List ℝ) (before stamp : ℝ) :
    setback (earlier ++ [before, stamp]) =
      setback (earlier ++ [before]) + Max.max (before - stamp) 0 := by
  induction earlier using setback.induct with
  | case1 a b rest ih =>
      simp only [List.cons_append, setback] at ih ⊢
      rw [ih, add_assoc]
  | case2 stamps hshort =>
      match stamps with
      | [] => simp [setback]
      | [_] => simp [setback]
      | _ :: _ :: _ => exact absurd rfl (hshort _ _ _)

/-- Session time at a time stamp that comes after others, in milliseconds. -/
noncomputable def sessionMillis (earlier : List ℝ) (stamp : ℝ) : ℝ :=
  stamp + setback (earlier ++ [stamp])

/-- Session time is moved on by the time that has passed, but not back. -/
theorem sessionMillis_next (earlier : List ℝ) (before stamp : ℝ) :
    sessionMillis (earlier ++ [before]) stamp =
      sessionMillis earlier before + Max.max (stamp - before) 0 := by
  have hpassed : Max.max (stamp - before) 0 = Max.max (before - stamp) 0 + (stamp - before) := by
    rcases le_total before stamp with h | h
    · rw [max_eq_left (by linarith), max_eq_right (by linarith), zero_add]
    · rw [max_eq_right (by linarith), max_eq_left (by linarith)]
      ring
  rw [sessionMillis, List.append_assoc, List.singleton_append, setback_concat, hpassed,
    sessionMillis]
  ring

theorem sessionMillis_le (earlier between : List ℝ) (before stamp : ℝ) :
    sessionMillis earlier before ≤ sessionMillis (earlier ++ before :: between) stamp := by
  have hnext (earlier : List ℝ) (before stamp : ℝ) :
      sessionMillis earlier before ≤ sessionMillis (earlier ++ [before]) stamp := by
    rw [sessionMillis_next]
    exact le_add_of_nonneg_right (le_max_right _ _)
  induction between generalizing earlier before with
  | nil => exact hnext earlier before stamp
  | cons b rest ih =>
      refine (hnext earlier before b).trans ?_
      rw [List.append_cons earlier before (b :: rest)]
      exact ih (earlier ++ [before]) b

/-- The frame for a time stamp that comes after others. -/
noncomputable def frameFor (earlier : List ℝ) (stamp : ℝ) : Frame ℝ where
  index := earlier.length % wordRange
  dt := earlier.getLast?.elim 0 fun before => Max.max ((stamp - before) / 1000) 0
  time := sessionMillis earlier stamp / 1000

theorem div_le_time (earlier : List ℝ) (stamp : ℝ) : stamp / 1000 ≤ (frameFor earlier stamp).time :=
  div_le_div_of_nonneg_right (le_add_of_nonneg_right (setback_nonneg _)) (by norm_num)

theorem time_eq_iff (earlier : List ℝ) (stamp : ℝ) :
    (frameFor earlier stamp).time = stamp / 1000 ↔ (earlier ++ [stamp]).IsChain (· ≤ ·) := by
  rw [← setback_eq_zero_iff, frameFor, div_left_inj' (by norm_num), sessionMillis, add_eq_left]

theorem time_le_time (earlier between : List ℝ) (before stamp : ℝ) :
    (frameFor earlier before).time ≤ (frameFor (earlier ++ before :: between) stamp).time :=
  div_le_div_of_nonneg_right (sessionMillis_le ..) (by norm_num)

theorem frameFor_advance (earlier : List ℝ) (before stamp : ℝ) :
    (frameFor earlier before).advance ((stamp - before) / 1000) =
      frameFor (earlier ++ [before]) stamp := by
  have hindex : (earlier.length % wordRange + 1) % wordRange =
      (earlier ++ [before]).length % wordRange := by
    rw [List.length_append, List.length_singleton, Nat.mod_add_mod]
  have hmillis : Max.max ((stamp - before) / 1000) 0 = Max.max (stamp - before) 0 / 1000 := by
    rw [← max_div_div_right (by norm_num), zero_div]
  simp only [Frame.advance, Frame.nextIndex, frameFor, hindex, Exact.max_eq, Exact.zero_eq,
    sessionMillis_next, List.getLast?_concat, Option.elim_some, add_div, hmillis]

namespace RefreshClock

variable {κ : Type} {c : RefreshClock κ ℝ} {stamps : List ℝ}

/-- The frames of a clock had given time stamps. -/
def Follows (stamps : List ℝ) (c : RefreshClock κ ℝ) : Prop :=
  c.last = stamps.getLast?.map fun stamp => (frameFor stamps.dropLast stamp, stamp)

theorem Follows.nextFrame (h : c.Follows stamps) (stamp : ℝ) :
    c.nextFrame stamp = frameFor stamps stamp := by
  unfold RefreshClock.nextFrame
  rw [Follows] at h
  rw [h]
  obtain rfl | ⟨earlier, before, rfl⟩ := stamps.eq_nil_or_concat
  · simp [Frame.first, frameFor, sessionMillis, setback]
  · simp only [List.concat_eq_append, List.getLast?_concat, List.dropLast_concat, Option.map_some]
    exact frameFor_advance earlier before stamp

theorem Follows.beginFrame (h : c.Follows stamps) (stamp : ℝ) :
    (c.beginFrame stamp).2.Follows (stamps ++ [stamp]) := by
  rw [Follows, List.getLast?_concat, List.dropLast_concat, Option.map_some, ← h.nextFrame]
  rfl

theorem last_keepAsking {α : Type} (c : RefreshClock κ α) (p : Page α) :
    (c.keepAsking p).1.last = c.last := by
  unfold keepAsking
  split_ifs <;> rfl

theorem callbacks_keepAsking {α : Type} (c : RefreshClock κ α) (p : Page α) :
    (c.keepAsking p).1.callbacks = c.callbacks := by
  unfold keepAsking
  split_ifs <;> rfl

theorem last_cancel {α : Type} (c : RefreshClock κ α) (p : Page α) :
    (c.cancel p).1.last = c.last := by
  unfold cancel
  split <;> rfl

end RefreshClock

namespace Display

variable {κ : Type}

/-- The time stamp that an event comes with. -/
def Event.stamp? {α : Type} : Event κ α → Option α
  | .fire _ stamp => some stamp
  | _ => none

/-- The time stamps of the frames among events. -/
def stamps {α : Type} (events : List (Event κ α)) : List α := events.filterMap Event.stamp?

theorem stamps_concat {α : Type} (events : List (Event κ α)) (e : Event κ α) :
    stamps (events ++ [e]) = stamps events ++ e.stamp?.toList := by
  rw [stamps, List.filterMap_append]
  cases e <;> rfl

/-- A frame is made for its time stamp; nothing else that happens makes one. -/
theorem follows_step {d d' : Display κ ℝ} {e : Event κ ℝ} (hs : d.step e = some d')
    {earlier : List ℝ} (h : d.clock.Follows earlier) :
    d'.clock.Follows (earlier ++ e.stamp?.toList) := by
  have hkept {c : RefreshClock κ ℝ} (hlast : c.last = d.clock.last) :
      c.Follows (earlier ++ []) := by
    rw [List.append_nil, RefreshClock.Follows, hlast]
    exact h
  rcases step_cases hs with ⟨callback, rfl, rfl⟩ | ⟨id, rfl, rfl⟩ |
    ⟨request, stamp, rfl, _, _, rfl⟩ | ⟨_, _, _, _, rfl, _, rfl⟩ | ⟨_, _, rfl, _, rfl⟩ |
    ⟨rfl, rfl⟩
  · exact hkept (RefreshClock.last_keepAsking ..)
  · refine hkept ?_
    simp only [quieting, after]
    split_ifs
    · exact RefreshClock.last_cancel ..
    · rfl
  · exact h.beginFrame stamp
  · exact hkept rfl
  · exact hkept (RefreshClock.last_keepAsking ..)
  · exact hkept (RefreshClock.last_cancel ..)

theorem follows_run {page : Page ℝ} {events : List (Event κ ℝ)} {d : Display κ ℝ}
    (hrun : run events (start page) = some d) : d.clock.Follows (stamps events) := by
  induction events using List.reverseRecOn generalizing d with
  | nil =>
      obtain rfl := Option.some.inj hrun
      rfl
  | append_singleton events e ih =>
      rw [run_append] at hrun
      obtain ⟨d₁, hbefore, hlast⟩ := Option.bind_eq_some_iff.mp hrun
      obtain ⟨d₂, hs, hnil⟩ := Option.bind_eq_some_iff.mp hlast
      obtain rfl := Option.some.inj hnil
      rw [stamps_concat]
      exact follows_step hs (ih hbefore)

theorem dispatch_fire {page : Page ℝ} {events : List (Event κ ℝ)} {request : ℕ} {stamp : ℝ}
    {d : Display κ ℝ} (hrun : run (events ++ [.fire request stamp]) (start page) = some d) :
    ∃ taken, d.dispatch = some ⟨frameFor (stamps events) stamp, taken, taken⟩ := by
  rw [run_append] at hrun
  obtain ⟨d₁, hbefore, hlast⟩ := Option.bind_eq_some_iff.mp hrun
  obtain ⟨d₂, hs, hnil⟩ := Option.bind_eq_some_iff.mp hlast
  obtain rfl := Option.some.inj hnil
  obtain ⟨_, _, rfl⟩ := step_fire hs
  exact ⟨_, by rw [(follows_run hbefore).nextFrame]⟩

end Display

/-! ### The timer -/

namespace Page

variable {α : Type} [Scalar α]

variable {p p' : Page α}

theorem now_tryObserve {id : String} {answer : Except PageFault ℕ}
    (h : p.tryObserve id = (answer, p')) : p'.now = p.now := by
  have hnow : (p.tryObserve id).2.now = p.now := by
    unfold tryObserve
    split_ifs <;> rfl
  rwa [h] at hnow

theorem now_createCanvas {answer : Except PageFault ℕ} (h : p.createCanvas = (answer, p')) :
    p'.now = p.now := by
  have hnow : p.createCanvas.2.now = p.now := by
    unfold createCanvas
    split
    · next htake =>
      obtain ⟨_, rfl⟩ := takeElement_keeps htake
      rfl
    · rfl
  rwa [h] at hnow

theorem now_tryAppend {id : String} {canvas : ℕ} {answer : Except PageFault Unit}
    (h : p.tryAppend id canvas = (answer, p')) : p'.now = p.now := by
  have hnow : (p.tryAppend id canvas).2.now = p.now := by
    unfold tryAppend
    split <;> rfl
  rwa [h] at hnow

end Page

namespace Controller

variable {σ α : Type} [Scalar α] [PhaseSource σ α]

/-- What a frame asks of the sizer. -/
def sizerCalls (container : ContainerSize α) (frame : Frame α) (c : Controller σ α) :
    List (Sizer.Call α) :=
  .takeDue frame.time :: if (c.settleDue frame.time).1 then [.settle container frame.time] else []

theorem sizer_drawFrame (container : ContainerSize α) (frame : Frame α) (c : Controller σ α) :
    (c.drawFrame container frame).2.sizer = c.sizer.run (c.sizerCalls container frame) := by
  have hsettled : (c.settled container frame.time).2.sizer =
      c.sizer.run (c.sizerCalls container frame) := by
    unfold settled sizerCalls
    split_ifs
    · rw [settle_eq]
      rfl
    · rfl
  exact hsettled

theorem settleAt_drawFrame (container : ContainerSize α) (frame : Frame α) (c : Controller σ α) :
    (c.drawFrame container frame).2.sizer.settleAt =
      if (c.settleDue frame.time).1 then none else c.sizer.settleAt := by
  have hasked : (c.sizer.call (.takeDue frame.time)).settleAt =
      if (c.settleDue frame.time).1 then none else c.sizer.settleAt := Sizer.settleAt_call rfl _
  rw [sizer_drawFrame, ← hasked]
  unfold sizerCalls
  split_ifs
  · exact Sizer.settleAt_settle ..
  · rfl

end Controller

namespace MountedGlobe

variable {σ α : Type}

/-- Something that happens to a globe on its page. -/
inductive Happening (α : Type) where
  | frame (stamp : α)
  | resized
  | pointer (event : PointerEvent α)
  | edit (new : Edit α)
  | handler (handler : Option ClickHandler)

/-- The time stamp of a frame. -/
def Happening.stamp? : Happening α → Option α
  | .frame stamp => some stamp
  | _ => none

/-- The time stamps of the frames among what happens. -/
def stamps (life : List (Happening α × Page α)) : List α := life.filterMap (·.1.stamp?)

variable [Scalar α] [PhaseSource σ α]

/-- The globe after something has happened to it on a page. -/
def meet (g : MountedGlobe σ α) : Happening α × Page α → MountedGlobe σ α
  | (.frame stamp, p) => (g.refresh stamp p).1
  | (.resized, p) => (g.resized p).1
  | (.pointer event, p) => (g.handle event p).2.1
  | (.edit new, _) => { g with controller := g.controller.act new.action }
  | (.handler handler, _) => { g with handler := handler }

/-- The globe after all that has happened to it, on the page as it was each time. -/
def live (life : List (Happening α × Page α)) (g : MountedGlobe σ α) : MountedGlobe σ α :=
  life.foldl meet g

/-- Whether a globe measures its element in a frame for a time stamp. -/
def measuresAt (stamp : α) (g : MountedGlobe σ α) : Bool :=
  (g.controller.settleDue (g.clock.nextFrame stamp).time).1

/-- Whether a globe measures its element for the second time when something happens to it. -/
def measures (g : MountedGlobe σ α) : Happening α → Bool
  | .frame stamp => g.measuresAt stamp
  | _ => false

theorem live_append (before after : List (Happening α × Page α)) (g : MountedGlobe σ α) :
    g.live (before ++ after) = (g.live before).live after := List.foldl_append

/-- What happens to a globe asks its sizer for something.  Apart from resizes that is no observation,
and the answer is yes exactly if the globe measures. -/
theorem sizer_meet {g : MountedGlobe σ α}
    (hcallbacks : g.clock.callbacks = { nextId := 1, waiting := [(g.callback, ())] })
    (e : Happening α × Page α) :
    ∃ calls, (g.meet e).controller.sizer = g.controller.sizer.run calls ∧
      (e.1 ≠ .resized → (g.meet e).controller.sizer.settleAt =
        if g.measures e.1 then none else g.controller.sizer.settleAt) := by
  obtain ⟨happening, p⟩ := e
  cases happening with
  | frame stamp =>
      have hcontroller : (g.meet (.frame stamp, p)).controller =
          (g.controller.drawFrame (p.measure g.element) (g.clock.nextFrame stamp)).2 := by
        rw [meet, refresh_eq hcallbacks]
        rfl
      rw [hcontroller]
      exact ⟨_, Controller.sizer_drawFrame .., fun _ => Controller.settleAt_drawFrame ..⟩
  | resized =>
      refine ⟨[.observe (p.measure g.element) p.now], ?_, fun hne => absurd rfl hne⟩
      have hcontroller : (g.meet (.resized, p)).controller =
          (g.controller.resize (p.measure g.element) p.now).2 := rfl
      rw [hcontroller, Controller.resize_eq]
      rfl
  | pointer event =>
      have hsizer : (g.controller.handle event).2.sizer = g.controller.sizer := by
        obtain ⟨_, _, _, _, _, _, hshape⟩ := g.controller.handle_shape event
        rw [hshape]
      exact ⟨[], hsizer, fun _ => congrArg Sizer.settleAt hsizer⟩
  | edit new =>
      have hsizer : (g.meet (.edit new, p)).controller.sizer = g.controller.sizer :=
        Session.sizer_edits [new] g.controller
      exact ⟨[], hsizer, fun _ => congrArg Sizer.settleAt hsizer⟩
  | handler handler => exact ⟨[], rfl, fun _ => rfl⟩

theorem settleAt_resized (g : MountedGlobe σ α) (p : Page α) :
    (g.meet (.resized, p)).controller.sizer.settleAt =
      some (p.now + g.controller.sizer.settleDelay) := by
  have hcontroller : (g.meet (.resized, p)).controller =
      (g.controller.resize (p.measure g.element) p.now).2 := rfl
  rw [hcontroller, Controller.resize_eq]
  exact Sizer.settleAt_observe ..

/-- A globe that was started at a time by the clock of its page has not had a frame, and its timer
is set by that clock. -/
structure Started (time : α) (config : Config α) (g : MountedGlobe σ α) : Prop where
  callbacks : g.clock.callbacks = { nextId := 1, waiting := [(g.callback, ())] }
  last : g.clock.last = none
  settleAt : g.controller.sizer.settleAt = some (time + config.settleDelay)
  settleDelay : g.controller.sizer.settleDelay = config.settleDelay

omit [PhaseSource σ α] in
theorem furnish_started {source : σ} {id : String} {config : Config α} {size : ContainerSize α}
    {observer sphere overlay : ℕ} {g : MountedGlobe σ α} {p p' : Page α}
    (h : furnish source id config size observer sphere overlay p = (.ok g, p')) :
    g.Started p.now config := by
  let controller := (Controller.create config source).mount size p.now
  let clock := (RefreshClock.drawing.keepAsking (p.drawAll sphere overlay controller.1)).1
  have hsizer : controller.2.sizer = (Sizer.ofConfig config).call (.observe size p.now) := by
    show (Controller.resize size p.now (Controller.create config source)).2.sizer = _
    rw [Controller.resize_eq]
    rfl
  have hclock : clock.callbacks = { nextId := 1, waiting := [(0, ())] } ∧ clock.last = none :=
    ⟨RefreshClock.callbacks_keepAsking .., RefreshClock.last_keepAsking ..⟩
  have hg : g.callback = 0 ∧ g.clock = clock ∧ g.controller = controller.2 := by
    simp only [furnish] at h
    split_ifs at h
    · obtain rfl := Except.ok.inj (Prod.mk.inj h).1
      exact ⟨rfl, rfl, rfl⟩
    · cases (Prod.mk.inj h).1
  obtain ⟨hcallback, hclock', hcontroller⟩ := hg
  constructor
  · rw [hcallback, hclock', hclock.1]
  · rw [hclock', hclock.2]
  · rw [hcontroller, hsizer]
    exact Sizer.settleAt_observe ..
  · rw [hcontroller, hsizer]
    exact Sizer.settleDelay_call ..

omit [PhaseSource σ α] in
theorem mount_started {source : σ} {id : String} {config : Config α} {g : MountedGlobe σ α}
    {p p' : Page α} (h : mount source id config p = (.ok g, p')) : g.Started p.now config := by
  unfold mount at h
  split at h
  · cases h
  split at h
  · cases h
  next p₁ hp₁ =>
  split at h
  · cases h
  next p₂ hp₂ =>
  split at h
  · cases h
  next p₃ hp₃ =>
  split at h
  · cases h
  next p₄ hp₄ =>
  split at h
  · cases h
  next p₅ hp₅ =>
  have hnow : p₅.now = p.now :=
    calc p₅.now = p₄.now := Page.now_tryAppend hp₅
      _ = p₃.now := Page.now_tryAppend hp₄
      _ = p₂.now := Page.now_createCanvas hp₃
      _ = p₁.now := Page.now_createCanvas hp₂
      _ = p.now := Page.now_tryObserve hp₁
  rw [← hnow]
  exact furnish_started h

/-- A globe whose frames had given time stamps, and whose clock draws it. -/
structure Tracks (stamps : List ℝ) (g : MountedGlobe σ ℝ) : Prop where
  callbacks : g.clock.callbacks = { nextId := 1, waiting := [(g.callback, ())] }
  follows : g.clock.Follows stamps

theorem Started.tracks {time : ℝ} {config : Config ℝ} {g : MountedGlobe σ ℝ}
    (h : g.Started time config) : g.Tracks [] := ⟨h.callbacks, h.last⟩

section tracking
variable [PhaseSource σ ℝ] {g : MountedGlobe σ ℝ} {earlier : List ℝ}

/-- Only frames matter to the clock of a globe, and they come with their time stamps. -/
theorem Tracks.meet (h : g.Tracks earlier) (e : Happening ℝ × Page ℝ) :
    (g.meet e).Tracks (earlier ++ e.1.stamp?.toList) := by
  obtain ⟨happening, p⟩ := e
  cases happening with
  | frame stamp =>
      rw [MountedGlobe.meet, refresh_eq h.callbacks]
      constructor
      · exact (RefreshClock.callbacks_keepAsking ..).trans h.callbacks
      · exact (RefreshClock.last_keepAsking ..).trans (h.follows.beginFrame stamp)
  | resized | pointer | edit | handler =>
      refine ⟨h.callbacks, ?_⟩
      show g.clock.Follows (earlier ++ [])
      rw [List.append_nil]
      exact h.follows

theorem Tracks.live (h : g.Tracks earlier) (life : List (Happening ℝ × Page ℝ)) :
    (g.live life).Tracks (earlier ++ stamps life) := by
  induction life generalizing g earlier with
  | nil =>
      rw [stamps, List.filterMap_nil, List.append_nil]
      exact h
  | cons e rest ih =>
      have hstamps : earlier ++ stamps (e :: rest) =
          earlier ++ e.1.stamp?.toList ++ stamps rest := by
        rw [stamps, List.filterMap_cons, List.append_assoc]
        cases e.1.stamp? <;> rfl
      rw [hstamps]
      exact ih (h.meet e)

omit [PhaseSource σ ℝ] in
theorem Tracks.measuresAt (h : g.Tracks earlier) {deadline stamp : ℝ}
    (hset : g.controller.sizer.settleAt = some deadline) (hlate : 1000 * deadline ≤ stamp) :
    g.measuresAt stamp = true := by
  have hdue : deadline ≤ (g.clock.nextFrame stamp).time := by
    rw [h.follows.nextFrame]
    have hdisplay := div_le_time earlier stamp
    have hpage : deadline ≤ stamp / 1000 := (le_div_iff₀' (by norm_num)).mpr hlate
    exact hpage.trans hdisplay
  simp only [MountedGlobe.measuresAt, Controller.settleDue, Sizer.takeDue, hset, if_pos hdue]

/-- Until the next resize, the timer of a globe stays set until it measures, and is not set again. -/
theorem Tracks.timer_live (h : g.Tracks earlier) {deadline : ℝ}
    (hset : g.controller.sizer.settleAt = some deadline) {life : List (Happening ℝ × Page ℝ)}
    (hquiet : ∀ e ∈ life, e.1 ≠ .resized) :
    (g.live life).controller.sizer.settleAt = some deadline ∨
      ∃ before stamp p after, life = before ++ (Happening.frame stamp, p) :: after ∧
        (g.live before).measuresAt stamp = true ∧
        (g.live life).controller.sizer.settleAt = none := by
  induction life using List.reverseRecOn with
  | nil => exact .inl hset
  | append_singleton life e ih =>
      rw [List.forall_mem_append, List.forall_mem_singleton] at hquiet
      obtain ⟨_, _, hmeet⟩ := sizer_meet (h.live life).callbacks e
      rw [live_append]
      show ((g.live life).meet e).controller.sizer.settleAt = _ ∨
        ∃ before stamp p after, _ ∧ _ ∧ ((g.live life).meet e).controller.sizer.settleAt = none
      rw [hmeet hquiet.2]
      obtain hkept | ⟨before, stamp, p, after, rfl, hmeasured, hcleared⟩ := ih hquiet.1
      · split_ifs with hmeasures
        · obtain ⟨happening, p⟩ := e
          cases happening with
          | frame stamp => exact .inr ⟨life, stamp, p, [], rfl, hmeasures, rfl⟩
          | _ => cases hmeasures
        · exact .inl hkept
      · refine .inr ⟨before, stamp, p, after ++ [e], by simp, hmeasured, ?_⟩
        rw [hcleared, ite_self]

/-- A globe measures by the first frame that comes when its timer has come by the clock of the page,
and its timer is not set afterwards. -/
theorem Tracks.measures_by (h : g.Tracks earlier) {deadline stamp : ℝ}
    (hset : g.controller.sizer.settleAt = some deadline) (hlate : 1000 * deadline ≤ stamp)
    {between : List (Happening ℝ × Page ℝ)} (hquiet : ∀ e ∈ between, e.1 ≠ .resized) (p : Page ℝ) :
    ∃ before stamp' p' after,
      between ++ [(Happening.frame stamp, p)] = before ++ (Happening.frame stamp', p') :: after ∧
      (g.live before).measuresAt stamp' = true ∧
      (g.live (between ++ [(Happening.frame stamp, p)])).controller.sizer.settleAt = none := by
  have hlast : ∀ e ∈ between ++ [(Happening.frame stamp, p)], e.1 ≠ .resized := by
    rw [List.forall_mem_append, List.forall_mem_singleton]
    exact ⟨hquiet, nofun⟩
  refine (h.timer_live hset hlast).resolve_left fun hkept => ?_
  obtain ⟨_, _, hmeet⟩ := sizer_meet (h.live between).callbacks (.frame stamp, p)
  have hafter : (g.live (between ++ [(Happening.frame stamp, p)])).controller.sizer.settleAt =
      if (g.live between).measuresAt stamp then none
      else (g.live between).controller.sizer.settleAt := by
    rw [live_append]
    exact hmeet nofun
  rw [hafter] at hkept
  split_ifs at hkept with hmeasures
  exact hmeasures ((h.live between).measuresAt hkept hlate)

end tracking

/-- The timer of a globe was set at a time by the clock of its page, when it was mounted there or
when its element was resized at the end of what happened to it since. -/
def SetAt (mounted : Page ℝ) (life : List (Happening ℝ × Page ℝ)) (time : ℝ) : Prop :=
  (life = [] ∧ time = mounted.now) ∨
    ∃ before page, life = before ++ [(.resized, page)] ∧ time = page.now

theorem settleDelay_live [PhaseSource σ ℝ] {g : MountedGlobe σ ℝ} {earlier : List ℝ}
    (h : g.Tracks earlier) (life : List (Happening ℝ × Page ℝ)) :
    (g.live life).controller.sizer.settleDelay = g.controller.sizer.settleDelay := by
  induction life using List.reverseRecOn with
  | nil => rfl
  | append_singleton life e ih =>
      obtain ⟨calls, hsizer, _⟩ := sizer_meet (h.live life).callbacks e
      rw [live_append]
      show ((g.live life).meet e).controller.sizer.settleDelay = _
      rw [hsizer, Sizer.settleDelay_run, ih]

theorem SetAt.settleAt [PhaseSource σ ℝ] {source : σ} {id : String} {config : Config ℝ}
    {g : MountedGlobe σ ℝ} {p p' : Page ℝ} (hmount : mount source id config p = (.ok g, p'))
    {life : List (Happening ℝ × Page ℝ)} {time : ℝ} (h : SetAt p life time) :
    (g.live life).controller.sizer.settleAt = some (time + config.settleDelay) := by
  have hstarted := mount_started hmount
  obtain ⟨rfl, rfl⟩ | ⟨before, page, rfl, rfl⟩ := h
  · exact hstarted.settleAt
  · rw [live_append, ← hstarted.settleDelay, ← settleDelay_live hstarted.tracks before]
    exact settleAt_resized ..

end MountedGlobe

open MountedGlobe (Happening)

/-- **Session time keeps up with the display.**  Whatever happens to a clock on its page: its frames
are numbered from zero on, as words; the time of a frame is not before that of any earlier one nor
before the time stamp that it came with, and it is at that time stamp exactly if the time stamps so
far never went back.

So the timer of a globe is not late.  When it was set by the clock of the page, at mounting or at a
resize, and not set again since, then the globe has measured its element by the first frame whose time
stamp has reached that time and the delay, and the timer is no longer set. -/
theorem frame_times_keep_up {κ σ : Type} [PhaseSource σ ℝ] :
    (∀ (page : Page ℝ) (events : List (Display.Event κ ℝ)) (request : ℕ) (stamp : ℝ)
      (d : Display κ ℝ),
      Display.run (events ++ [.fire request stamp]) (.start page) = some d →
        ∃ frame taken, d.dispatch = some ⟨frame, taken, taken⟩ ∧
          frame.index = (Display.stamps events).length % wordRange ∧
          stamp / 1000 ≤ frame.time ∧
          (frame.time = stamp / 1000 ↔ (Display.stamps events ++ [stamp]).IsChain (· ≤ ·)) ∧
          ∀ earlier request' stamp' later d',
            events = earlier ++ .fire request' stamp' :: later →
            Display.run (earlier ++ [.fire request' stamp']) (.start page) = some d' →
              ∃ frame' taken', d'.dispatch = some ⟨frame', taken', taken'⟩ ∧
                frame'.time ≤ frame.time) ∧
    ∀ (source : σ) (id : String) (config : Config ℝ) (p p' : Page ℝ) (g : MountedGlobe σ ℝ),
      MountedGlobe.mount source id config p = (.ok g, p') →
        ∀ (before between : List (Happening ℝ × Page ℝ)) (time stamp : ℝ) (q : Page ℝ),
          MountedGlobe.SetAt p before time →
          (∀ e ∈ between, e.1 ≠ .resized) →
          1000 * (time + config.settleDelay) ≤ stamp →
            ∃ earlier stamp' q' later,
              between ++ [(Happening.frame stamp, q)] = earlier ++ (Happening.frame stamp', q') :: later ∧
              (g.live (before ++ earlier)).measuresAt stamp' = true ∧
              (g.live (before ++ between ++ [(Happening.frame stamp, q)])).controller.sizer.settlePending =
                false := by
  constructor
  · intro page events request stamp d hrun
    obtain ⟨taken, hdispatch⟩ := Display.dispatch_fire hrun
    refine ⟨_, taken, hdispatch, rfl, div_le_time .., time_eq_iff .., ?_⟩
    rintro earlier request' stamp' later d' rfl hrun'
    obtain ⟨taken', hdispatch'⟩ := Display.dispatch_fire hrun'
    refine ⟨_, taken', hdispatch', ?_⟩
    have hstamps : Display.stamps (earlier ++ Display.Event.fire request' stamp' :: later) =
        Display.stamps earlier ++ stamp' :: Display.stamps later := by
      simp [Display.stamps, Display.Event.stamp?]
    rw [hstamps]
    exact time_le_time ..
  · intro source id config p p' g hmount before between time stamp q hset hquiet hlate
    have htracks := (MountedGlobe.mount_started hmount).tracks.live before
    obtain ⟨earlier, stamp', q', later, hsplit, hmeasured, hcleared⟩ :=
      htracks.measures_by (hset.settleAt hmount) hlate hquiet q
    refine ⟨earlier, stamp', q', later, hsplit, ?_, ?_⟩
    · rw [MountedGlobe.live_append]
      exact hmeasured
    · rw [List.append_assoc, MountedGlobe.live_append, Sizer.settlePending, hcleared]
      rfl

/-- The second of three time stamps goes back; a globe is resized, its first frame comes too early and
its second one late. -/
theorem frame_times_keep_up_setback :
    let page : Page ℝ := { elements := [("a", ⟨300, 300⟩)], displayClock := 0, wallClock := 0 }
    let events : List (Display.Event Unit ℝ) :=
      [.register (), .fire 0 40, .call, .finish, .fire 1 20, .call, .finish]
    let later : Page ℝ := { page with displayClock := 1000 }
    let before : List (Happening ℝ × Page ℝ) :=
      [(.pointer (.move ⟨1, 1⟩), page), (.resized, later)]
    let between : List (Happening ℝ × Page ℝ) := [(.frame 1010, later)]
    ∃ frame d taken g p', Display.run (events ++ [.fire 2 30]) (.start page) = some d ∧
      d.dispatch = some ⟨frame, taken, taken⟩ ∧ frame.index = 2 ∧ frame.time ≠ 30 / 1000 ∧
      MountedGlobe.mount Unseeded.mk "a" .default page = (.ok g, p') ∧
      (g.live (before ++ between ++ [(Happening.frame 1200, later)])).controller.sizer.settlePending =
        false := by
  intro page events later before between
  obtain ⟨hframes, htimer⟩ := frame_times_keep_up (κ := Unit) (σ := Unseeded)
  have hruns : (Display.run (events ++ [.fire 2 30]) (.start page)).isSome = true := rfl
  obtain ⟨d, hrun⟩ := Option.isSome_iff_exists.mp hruns
  obtain ⟨g, p', hmount⟩ :
      ∃ g p', MountedGlobe.mount Unseeded.mk "a" .default page = (.ok g, p') := ⟨_, _, rfl⟩
  obtain ⟨frame, taken, hdispatch, hindex, -, hchain, -⟩ := hframes page events 2 30 d hrun
  have hset : MountedGlobe.SetAt page before later.now :=
    .inr ⟨[(.pointer (.move ⟨1, 1⟩), page)], later, rfl, rfl⟩
  have hlate : 1000 * (later.now + (Config.default : Config ℝ).settleDelay) ≤ 1200 := by
    show (1000 : ℝ) * (1000 / 1000 + 0.15) ≤ 1200
    norm_num
  obtain ⟨_, _, _, _, -, -, hcleared⟩ := htimer Unseeded.mk "a" .default page p' g hmount before
    between later.now 1200 later hset (by simp [between]) hlate
  refine ⟨frame, d, taken, g, p', hrun, hdispatch, hindex, fun htime => ?_, hmount, hcleared⟩
  have hstamps : Display.stamps events ++ [30] = [40, 20, 30] := rfl
  rw [hchain, hstamps] at htime
  norm_num at htime

end GlobeView
