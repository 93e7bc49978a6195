import GlobeView.Page.Host
import GlobeView.Proofs.FrameRequests
import Mathlib.Data.List.Range

/-! # What a globe holds on the page

The `Holdings` of a page are what its hosts hold there and how much of it they ever made.  Painting,
cursors and notes in the log do not touch them.

* A globe that is mounted holds two canvases, four listeners, an observer and an animation frame,
  and nothing else is held (`MountedGlobe.Holds`); the observers of the globes before it are
  disconnected.
* Mounting on a page where nothing is held gets there (`MountedGlobe.mount_holds`), and releasing
  the globe gets back (`MountedGlobe.Holds.release`).
* Frames, resizes and pointer events in between keep it (`MountedGlobe.Holds.refresh` and the like).
-/

namespace GlobeView

/-- The observer that an act disconnects. -/
def Act.disconnected? {α : Type} : Act α → Option ℕ
  | .disconnect observer => some observer
  | _ => none

/-- A fault that mounting comes to after it has observed the element and before the globe has
started. -/
def PageFault.isHalfway : PageFault → Bool
  | .createFailed | .noContext | .appendFailed => true
  | _ => false

/-- What is held on a page. -/
structure Holdings where
  attached : List (String × ℕ)
  listeners : List (ℕ × PointerKind)
  observing : List (ℕ × String)
  pending : List ℕ
  /-- How many canvases were made. -/
  canvases : ℕ
  /-- How many observers were made. -/
  observers : ℕ
  /-- How many animation frames were requested. -/
  requests : ℕ
  /-- The observers that were disconnected, in order. -/
  disconnected : List ℕ
  hasWindow : Bool
  grantsFrames : Bool

/-- Nothing is held, and all observers that were made are disconnected. -/
structure Holdings.Vacant (s : Holdings) : Prop where
  attached : s.attached = []
  listeners : s.listeners = []
  observing : s.observing = []
  pending : s.pending = []
  disconnected : s.disconnected = List.range s.observers
  hasWindow : s.hasWindow = true
  grantsFrames : s.grantsFrames = true

namespace Page

variable {α : Type}

/-- The observers that were disconnected on a page, in order. -/
def disconnected (p : Page α) : List ℕ := p.log.filterMap Act.disconnected?

def holdings (p : Page α) : Holdings where
  attached := p.attached
  listeners := p.listeners
  observing := p.observing
  pending := p.pending
  canvases := p.canvases
  observers := p.observers
  requests := p.requests
  disconnected := p.disconnected
  hasWindow := p.features.hasWindow
  grantsFrames := p.features.grantsFrames

/-! ### Operations that hold nothing -/

theorem holdings_write {acts : List (Act α)} (h : acts.filterMap Act.disconnected? = [])
    (p : Page α) : (p.write acts).holdings = p.holdings := by
  simp [holdings, disconnected, write, h]

@[simp]
theorem holdings_setCursor (canvas : ℕ) (cursor : Cursor) (p : Page α) :
    (p.setCursor canvas cursor).holdings = p.holdings :=
  holdings_write (p := { p with cursors := _ }) rfl

@[simp]
theorem holdings_drawAll [Scalar α] (sphere overlay : ℕ) (steps : List (Drawing α)) (p : Page α) :
    (p.drawAll sphere overlay steps).holdings = p.holdings := by
  induction steps generalizing p with
  | nil => rfl
  | cons step rest ih =>
      have hstep : (p.draw sphere overlay step).holdings = p.holdings := by
        cases step with
        | resize size => exact holdings_write rfl p
        | sphere frame => exact holdings_write rfl p
        | overlay frame => exact holdings_write (p := { p with gradients := _ }) rfl
      exact (ih _).trans hstep

/-! ### Operations that take or give back -/

theorem holdings_observe (id : String) (p : Page α) :
    (p.observe id).2.holdings =
      { p.holdings with
        observers := p.holdings.observers + 1
        observing := p.holdings.observing ++ [(p.holdings.observers, id)] } :=
  holdings_write (p := { p with observers := _, observing := _ }) rfl

theorem holdings_disconnect (observer : ℕ) (p : Page α) :
    (p.disconnect observer).holdings =
      { p.holdings with
        observing := p.holdings.observing.filter (·.1 != observer)
        disconnected := p.holdings.disconnected ++ [observer] } := by
  simp [holdings, disconnect, disconnected, write, Act.disconnected?]

theorem container_error {id : String} {p : Page α} {e : PageFault}
    (h : p.container id = .error e) : e.isHalfway = false := by
  unfold container at h
  split_ifs at h <;> try split at h
  all_goals cases h <;> rfl

theorem tryObserve_ok {id : String} {p p' : Page α} {observer : ℕ}
    (h : p.tryObserve id = (.ok observer, p')) :
    observer = p.observers ∧ p' = (p.observe id).2 := by
  unfold tryObserve at h
  split_ifs at h
  · obtain ⟨hobserver, rfl⟩ := Prod.mk.inj h
    exact ⟨(Except.ok.inj hobserver).symm, rfl⟩
  · cases (Prod.mk.inj h).1

theorem tryObserve_error {id : String} {p p' : Page α} {e : PageFault}
    (h : p.tryObserve id = (.error e, p')) : e = .observeFailed ∧ p' = p := by
  unfold tryObserve at h
  split_ifs at h
  · cases (Prod.mk.inj h).1
  · obtain ⟨he, rfl⟩ := Prod.mk.inj h
    exact ⟨(Except.error.inj he).symm, rfl⟩

/-- Asking for an element uses up nothing but elements. -/
theorem takeElement_keeps {f f' : Features} {made : Bool} (h : takeElement f = (made, f')) :
    ∃ creations, f' = { f with creations := creations } := by
  unfold takeElement at h
  split_ifs at h
  all_goals exact ⟨_, (Prod.mk.inj h).2.symm⟩

theorem createCanvas_ok {p p' : Page α} {canvas : ℕ} (h : p.createCanvas = (.ok canvas, p')) :
    canvas = p.canvases ∧
      p'.holdings = { p.holdings with canvases := p.holdings.canvases + 1 } ∧
      p'.features.appends = p.features.appends := by
  unfold createCanvas at h
  split at h
  · next htake =>
    obtain ⟨creations, rfl⟩ := takeElement_keeps htake
    obtain ⟨hanswer, rfl⟩ := Prod.mk.inj h
    let left := (takeContext { p.features with creations := creations }).2
    refine ⟨?_, holdings_write (p := { p with canvases := _, features := left }) rfl, rfl⟩
    split_ifs at hanswer
    exact (Except.ok.inj hanswer).symm
  · cases (Prod.mk.inj h).1

/-- A canvas that lacks something is held nowhere; at most its number is used. -/
theorem createCanvas_error {p p' : Page α} {e : PageFault}
    (h : p.createCanvas = (.error e, p')) :
    (e = .createFailed ∨ e = .noContext) ∧
      ∃ made, p.canvases ≤ made ∧ p'.holdings = { p.holdings with canvases := made } := by
  unfold createCanvas at h
  split at h
  · next htake =>
    obtain ⟨creations, rfl⟩ := takeElement_keeps htake
    obtain ⟨hanswer, rfl⟩ := Prod.mk.inj h
    let left := (takeContext { p.features with creations := creations }).2
    refine ⟨?_, p.canvases + 1, Nat.le_succ _,
      holdings_write (p := { p with canvases := _, features := left }) rfl⟩
    split_ifs at hanswer
    exact .inr (Except.error.inj hanswer).symm
  · obtain ⟨hanswer, rfl⟩ := Prod.mk.inj h
    exact ⟨.inl (Except.error.inj hanswer).symm, p.canvases, le_rfl, rfl⟩

theorem tryAppend_ok {id : String} {canvas : ℕ} {p p' : Page α}
    (h : p.tryAppend id canvas = (.ok (), p')) :
    takeOne p.features.appends = (true, p'.features.appends) ∧
      p'.holdings =
        { p.holdings with attached := p.holdings.attached ++ [(id, canvas)] } := by
  unfold tryAppend at h
  split at h
  · next left htake =>
    obtain ⟨_, rfl⟩ := Prod.mk.inj h
    let features := { p.features with appends := left }
    exact ⟨htake, holdings_write (p := { p with attached := _, features := features }) rfl⟩
  · cases (Prod.mk.inj h).1

theorem tryAppend_error {id : String} {canvas : ℕ} {p p' : Page α} {e : PageFault}
    (h : p.tryAppend id canvas = (.error e, p')) :
    e = .appendFailed ∧ p.features.appends = some 0 ∧ p' = p := by
  unfold tryAppend at h
  split at h
  · cases (Prod.mk.inj h).1
  · next htake =>
    obtain ⟨he, rfl⟩ := Prod.mk.inj h
    refine ⟨(Except.error.inj he).symm, ?_, rfl⟩
    unfold takeOne at htake
    split at htake <;> simp_all

theorem holdings_remove (canvas : ℕ) (p : Page α) :
    (p.remove canvas).holdings =
      { p.holdings with attached := p.holdings.attached.filter (·.2 != canvas) } :=
  holdings_write (p := { p with attached := _ }) rfl

theorem holdings_tryListen (canvas : ℕ) (kinds : List PointerKind) (p : Page α) :
    (p.tryListen canvas kinds).2.holdings =
      { p.holdings with
        listeners := p.holdings.listeners ++ (p.tryListen canvas kinds).1.map (canvas, ·) } := by
  induction kinds generalizing p with
  | nil => simp [tryListen, holdings]
  | cons kind rest ih =>
      simp only [tryListen]
      split
      · next left _ =>
        let features := { p.features with listens := left }
        have hone : ({ p with features := features }.listen canvas kind).holdings =
            { p.holdings with listeners := p.holdings.listeners ++ [(canvas, kind)] } :=
          holdings_write (p := { p with listeners := _, features := features }) rfl
        rw [ih, hone]
        simp
      · simp [holdings]

theorem holdings_unlisten (canvas : ℕ) (kinds : List PointerKind) (p : Page α) :
    (kinds.foldl (fun p kind => p.unlisten canvas kind) p).holdings =
      { p.holdings with
        listeners := p.holdings.listeners.filter
          fun l => kinds.all fun kind => l != (canvas, kind) } := by
  induction kinds generalizing p with
  | nil => simp [holdings]
  | cons kind rest ih =>
      have hone : (p.unlisten canvas kind).holdings =
          { p.holdings with listeners := p.holdings.listeners.filter (· != (canvas, kind)) } :=
        holdings_write (p := { p with listeners := _ }) rfl
      rw [List.foldl_cons, ih, hone]
      simp [List.filter_filter, Bool.and_comm]

end Page

namespace RefreshClock

variable {κ α : Type}

theorem holdings_keepAsking {c : RefreshClock κ α} {p : Page α}
    (hwindow : p.features.hasWindow = true) (hgrants : p.features.grantsFrames = true)
    (hrequest : c.request = none) (hneeded : c.callbacks.isEmpty = false)
    (hrunning : c.isRunning = true) :
    (c.keepAsking p).1 = { c with request := some p.requests } ∧
      (c.keepAsking p).2.holdings =
        { p.holdings with
          requests := p.holdings.requests + 1
          pending := p.holdings.pending ++ [p.holdings.requests] } := by
  rw [keepAsking_eq hwindow hgrants hrequest hneeded hrunning]
  exact ⟨rfl, Page.holdings_write (p := { p with requests := _, pending := _ }) rfl⟩

/-- The clock of a globe, whose only callback draws it, before it has asked for a frame. -/
def drawing : RefreshClock Unit α := { callbacks := { nextId := 1, waiting := [(0, ())] } }

/-- A clock after a frame that left its callbacks alone, before it has asked for the next one. -/
def afterFrame [Scalar α] (stamp : α) (c : RefreshClock κ α) : RefreshClock κ α :=
  { c with last := some (c.nextFrame stamp, stamp), request := none }

/-- The animation frames that are still to come after a clock has taken its request back. -/
def openAfter (c : RefreshClock κ α) (s : Holdings) : List ℕ :=
  match c.request with
  | some request => if s.hasWindow then s.pending.filter (· != request) else s.pending
  | none => s.pending

theorem openAfter_of_none {c : RefreshClock κ α} (h : c.request = none) (s : Holdings) :
    c.openAfter s = s.pending := by
  rw [openAfter, h]

theorem holdings_cancel (c : RefreshClock κ α) (p : Page α) :
    (c.cancel p).1.request = none ∧
      (c.cancel p).2.holdings = { p.holdings with pending := c.openAfter p.holdings } := by
  cases hrequest : c.request with
  | none =>
      have hsame : c.cancel p = (c, p) := by rw [cancel, hrequest]
      rw [hsame, openAfter_of_none hrequest]
      exact ⟨hrequest, rfl⟩
  | some request =>
      refine ⟨by simp only [cancel, hrequest], ?_⟩
      simp only [cancel, openAfter, hrequest, Page.cancelFrame]
      by_cases hwindow : p.features.hasWindow = true
      · have hwindow' : p.holdings.hasWindow = true := hwindow
        rw [if_pos hwindow, if_pos hwindow']
        exact Page.holdings_write (p := { p with pending := _ }) rfl
      · have hwindow' : ¬ p.holdings.hasWindow = true := hwindow
        rw [if_neg hwindow, if_neg hwindow']

/-- The request is taken back with the last callback or with the clock, but only once. -/
theorem holdings_unregister (c : RefreshClock κ α) (id : ℕ) (p : Page α) :
    let after := (c.unregister id p).2
    after.1.request = none ∧
        after.2.holdings = { p.holdings with pending := c.openAfter p.holdings } ∨
      after.1.request = c.request ∧ after.2 = p := by
  simp only [unregister]
  split
  · exact .inl (holdings_cancel { c with callbacks := _ } p)
  · exact .inr ⟨rfl, rfl⟩

end RefreshClock

namespace MountedGlobe

variable {σ α : Type}

/-- Releasing a globe takes its canvases, its listeners, its observer and its request off the page,
whichever of them there are. -/
theorem holdings_releaseHearing (heard : List PointerKind) (g : MountedGlobe σ α) (p : Page α) :
    (g.releaseHearing heard p).holdings =
      { p.holdings with
        attached := (p.holdings.attached.filter (·.2 != g.overlay)).filter (·.2 != g.sphere)
        listeners := p.holdings.listeners.filter
          fun l => heard.all fun kind => l != (g.overlay, kind)
        observing := p.holdings.observing.filter (·.1 != g.observer)
        pending := g.clock.openAfter p.holdings
        disconnected := p.holdings.disconnected ++ [g.observer] } := by
  have hlast (c : RefreshClock Unit α) (p : Page α) :
      (c.stop p).2.holdings = { p.holdings with pending := c.openAfter p.holdings } :=
    (RefreshClock.holdings_cancel c p).2
  obtain ⟨hnone, hgiven⟩ | ⟨hsame, hgiven⟩ := g.clock.holdings_unregister g.callback p
  · simp only [releaseHearing, hlast, RefreshClock.openAfter_of_none hnone, Page.holdings_remove,
      Page.holdings_unlisten, Page.holdings_disconnect, hgiven]
  · simp only [releaseHearing, hlast, RefreshClock.openAfter, hsame, Page.holdings_remove,
      Page.holdings_unlisten, Page.holdings_disconnect, hgiven]

/-- A mounted globe holds two canvases, its listeners, its observer and an animation frame, and
nothing else is held; its clock runs the callback that draws it. -/
structure Holds (g : MountedGlobe σ α) (s : Holdings) : Prop where
  attached : s.attached = [(g.element, g.sphere), (g.element, g.overlay)]
  sphere_lt : g.sphere < g.overlay
  listeners : s.listeners = PointerKind.all.map (g.overlay, ·)
  observing : s.observing = [(g.observer, g.element)]
  pending : ∃ request, g.clock.request = some request ∧ s.pending = [request]
  observers : s.observers = g.observer + 1
  disconnected : s.disconnected = List.range g.observer
  callbacks : g.clock.callbacks = { nextId := 1, waiting := [(g.callback, ())] }
  isRunning : g.clock.isRunning = true
  hasWindow : s.hasWindow = true
  grantsFrames : s.grantsFrames = true

namespace Holds

variable {g : MountedGlobe σ α} {s : Holdings}

theorem change (h : g.Holds s) (controller : Controller σ α) (handler : Option ClickHandler) :
    ({ g with controller := controller, handler := handler } : MountedGlobe σ α).Holds s where
  attached := h.attached
  sphere_lt := h.sphere_lt
  listeners := h.listeners
  observing := h.observing
  pending := h.pending
  observers := h.observers
  disconnected := h.disconnected
  callbacks := h.callbacks
  isRunning := h.isRunning
  hasWindow := h.hasWindow
  grantsFrames := h.grantsFrames

theorem release {p : Page α} (h : g.Holds p.holdings) :
    (g.release p).holdings.Vacant ∧ (g.release p).observers = p.observers := by
  obtain ⟨request, hrequest, hpending⟩ := h.pending
  have hopen : g.clock.openAfter p.holdings = [] := by
    simp [RefreshClock.openAfter, hrequest, h.hasWindow, hpending]
  have hgiven : (g.release p).holdings =
      { p.holdings with
        attached := []
        listeners := []
        observing := []
        pending := []
        disconnected := List.range (g.observer + 1) } := by
    rw [MountedGlobe.release, holdings_releaseHearing, hopen]
    simp [h.attached, h.listeners, h.observing, h.disconnected, List.range_succ, PointerKind.all]
  refine ⟨?_, congrArg Holdings.observers hgiven⟩
  rw [hgiven]
  exact ⟨rfl, rfl, rfl, rfl, by rw [h.observers], h.hasWindow, h.grantsFrames⟩

end Holds

@[simp]
theorem holdings_showCursor (g : MountedGlobe σ α) (p : Page α) :
    (g.showCursor p).holdings = p.holdings :=
  Page.holdings_setCursor ..

variable [Scalar α]

/-- How far mounting gets on a page: it acquires nothing, or it stops half way, with the element
observed and perhaps the lower canvas in it, or it starts the globe on two new canvases. -/
inductive MountCase (source : σ) (id : String) (config : Config α) (p : Page α) :
    Except PageFault (MountedGlobe σ α) × Page α → Prop
  | refused {e : PageFault} (he : e.isHalfway = false) : MountCase source id config p (.error e, p)
  | stopped {e : PageFault} {p' : Page α} {made : ℕ} {left : List (String × ℕ)}
      (he : e.isHalfway = true)
      (hleft : left =
        if e = .appendFailed ∧ p.features.appends = some 1 then [(id, p.canvases)] else [])
      (hmade : p.canvases + left.length ≤ made)
      (hp' : p'.holdings =
        { p.holdings with
          attached := p.holdings.attached ++ left
          observing := p.holdings.observing ++ [(p.observers, id)]
          canvases := made
          observers := p.observers + 1 }) :
      MountCase source id config p (.error e, p')
  | started {size : ContainerSize α} {p' : Page α}
      (hp' : p'.holdings =
        { p.holdings with
          attached := p.holdings.attached ++ [(id, p.canvases), (id, p.canvases + 1)]
          observing := p.holdings.observing ++ [(p.observers, id)]
          canvases := p.canvases + 2
          observers := p.observers + 1 }) :
      MountCase source id config p
        (furnish source id config size p.observers p.canvases (p.canvases + 1) p')

theorem mountCase (source : σ) (id : String) (config : Config α) (p : Page α) :
    MountCase source id config p (mount source id config p) := by
  unfold mount
  split
  · next e he => exact .refused (Page.container_error he)
  split
  · next e p' he =>
    obtain ⟨rfl, rfl⟩ := Page.tryObserve_error he
    exact .refused rfl
  next observer p₁ hobserve =>
  obtain ⟨rfl, rfl⟩ := Page.tryObserve_ok hobserve
  have hp₁ := Page.holdings_observe id p
  -- a canvas that is not made leaves the numbers of those before it and nothing else
  have hmissing {e : PageFault} {made : ℕ} {p' : Page α} (he : e = .createFailed ∨ e = .noContext)
      (hmade : p.canvases ≤ made)
      (hp' : p'.holdings = { (p.observe id).2.holdings with canvases := made }) :
      MountCase source id config p (.error e, p') := by
    have hleft : ¬ (e = .appendFailed ∧ p.features.appends = some 1) := by
      rintro ⟨rfl, _⟩
      simp at he
    refine .stopped ?_ (if_neg hleft).symm hmade ?_
    · obtain rfl | rfl := he <;> rfl
    · rw [hp', hp₁, List.append_nil]
      rfl
  split
  · next e p' he =>
    obtain ⟨hfault, made, hmade, hp'⟩ := Page.createCanvas_error he
    exact hmissing hfault hmade hp'
  next sphere p₂ hsphere =>
  obtain ⟨rfl, hp₂, happends₂⟩ := Page.createCanvas_ok hsphere
  have hcanvases₂ : p₂.canvases = p.canvases + 1 := congrArg Holdings.canvases hp₂
  split
  · next e p' he =>
    obtain ⟨hfault, made, hmade, hp'⟩ := Page.createCanvas_error he
    rw [hcanvases₂] at hmade
    exact hmissing hfault (Nat.le_of_succ_le hmade) (by rw [hp', hp₂])
  next overlay p₃ hoverlay =>
  obtain ⟨rfl, hp₃, happends₃⟩ := Page.createCanvas_ok hoverlay
  have happends : p₃.features.appends = p.features.appends := happends₃.trans happends₂
  rw [hp₂] at hp₃
  rw [hcanvases₂]
  split
  · next e p' he =>
    obtain ⟨rfl, hfull, rfl⟩ := Page.tryAppend_error he
    rw [happends] at hfull
    have hleft : [] =
        if PageFault.appendFailed = .appendFailed ∧ p.features.appends = some 1 then
          [(id, p.canvases)] else [] := by
      simp [hfull]
    refine .stopped rfl hleft (Nat.le_add_right _ 2) ?_
    rw [hp₃, hp₁, List.append_nil]
    rfl
  next p₄ hlower =>
  obtain ⟨htake, hp₄⟩ := Page.tryAppend_ok hlower
  rw [hp₃] at hp₄
  split
  · next e p' he =>
    obtain ⟨rfl, hfull, rfl⟩ := Page.tryAppend_error he
    rw [hfull, happends] at htake
    have hone : p.features.appends = some 1 := by
      unfold takeOne at htake
      split at htake <;> simp_all
    refine .stopped rfl (if_pos ⟨rfl, hone⟩).symm (Nat.le_succ _) ?_
    rw [hp₄, hp₁]
    rfl
  next p₅ hupper =>
  obtain ⟨_, hp₅⟩ := Page.tryAppend_ok hupper
  refine .started ?_
  rw [hp₅, hp₄, hp₁]
  simp only [List.append_assoc]
  rfl

/-- The globe is drawn first, which acquires nothing, and then asks for an animation frame and for
its listeners. -/
theorem furnish_eq (source : σ) (id : String) (config : Config α) (size : ContainerSize α)
    (observer sphere overlay : ℕ) (p : Page α) :
    ∃ controller drawn, drawn.holdings = p.holdings ∧
      furnish source id config size observer sphere overlay p =
        let (clock, p) := RefreshClock.drawing.keepAsking drawn
        let (heard, p) := p.tryListen overlay PointerKind.all
        let g : MountedGlobe σ α :=
          { element := id
            controller := controller
            clock := clock
            callback := 0
            observer := observer
            sphere := sphere
            overlay := overlay }
        if heard = PointerKind.all then (.ok g, g.showCursor p)
        else (.error .listenFailed, g.releaseHearing heard p) :=
  ⟨_, _, Page.holdings_drawAll .., rfl⟩

theorem mount_holds {source : σ} {id : String} {config : Config α} {g : MountedGlobe σ α}
    {p p' : Page α} (hp : p.holdings.Vacant) (h : mount source id config p = (.ok g, p')) :
    g.Holds p'.holdings ∧ g.element = id ∧ p'.observers = p.observers + 1 := by
  have hcase := mountCase source id config p
  rw [h] at hcase
  generalize hresult : (Except.ok g, p') = result at hcase
  cases hcase with
  | refused => cases (Prod.mk.inj hresult).1
  | stopped => cases (Prod.mk.inj hresult).1
  | @started size p₁ hp₁ =>
      obtain ⟨controller, drawn, hdrawn, hfurnish⟩ :=
        furnish_eq source id config size p.observers p.canvases (p.canvases + 1) p₁
      have hholdings : drawn.holdings =
          { p.holdings with
            attached := [(id, p.canvases), (id, p.canvases + 1)]
            observing := [(p.observers, id)]
            canvases := p.canvases + 2
            observers := p.observers + 1 } := by
        rw [hdrawn, hp₁, hp.attached, hp.observing]
        rfl
      obtain ⟨hclock, hasked⟩ := RefreshClock.holdings_keepAsking (c := RefreshClock.drawing)
        ((congrArg Holdings.hasWindow hholdings).trans hp.hasWindow)
        ((congrArg Holdings.grantsFrames hholdings).trans hp.grantsFrames) rfl rfl rfl
      rw [hfurnish] at hresult
      simp only at hresult
      split_ifs at hresult with hheard
      · obtain ⟨hg, hpage⟩ := Prod.mk.inj hresult
        obtain rfl := Except.ok.inj hg
        have hheld : p'.holdings =
            { drawn.holdings with
              listeners := PointerKind.all.map (p.canvases + 1, ·)
              requests := drawn.requests + 1
              pending := [drawn.requests] } := by
          have hlisteners : drawn.holdings.listeners = [] := hholdings ▸ hp.listeners
          have hpending : drawn.holdings.pending = [] := hholdings ▸ hp.pending
          rw [hpage, holdings_showCursor, Page.holdings_tryListen, hheard, hasked]
          simp only [hlisteners, hpending, List.nil_append]
          rfl
        rw [hholdings] at hheld
        refine ⟨?_, rfl, congrArg Holdings.observers hheld⟩
        rw [hheld]
        simp only [hclock]
        exact ⟨rfl, Nat.lt_succ_self _, rfl, rfl, ⟨_, rfl, rfl⟩, rfl, hp.disconnected, rfl, rfl,
          hp.hasWindow, hp.grantsFrames⟩
      · cases (Prod.mk.inj hresult).1

theorem mount_noElement {source : σ} {id missing : String} {config : Config α} {p p' : Page α}
    (h : mount source id config p = (.error (.noElement missing), p')) : p' = p := by
  have hcase := mountCase source id config p
  rw [h] at hcase
  generalize hresult :
    ((.error (.noElement missing) : Except PageFault (MountedGlobe σ α)), p') = result at hcase
  cases hcase with
  | refused => exact (Prod.mk.inj hresult).2
  | stopped he =>
      obtain rfl := Except.error.inj (Prod.mk.inj hresult).1
      cases he
  | started =>
      have hanswer := congrArg Prod.fst hresult
      simp only [furnish] at hanswer
      split_ifs at hanswer
      all_goals cases hanswer

/-- The only callback of a globe draws it and comes back, so that the clock goes on asking. -/
theorem refresh_eq [PhaseSource σ α] {g : MountedGlobe σ α}
    (hcallbacks : g.clock.callbacks = { nextId := 1, waiting := [(g.callback, ())] }) (stamp : α)
    (p : Page α) :
    g.refresh stamp p =
      let (drawn, p) := g.draw (g.clock.nextFrame stamp) p
      let (clock, p) := (g.clock.afterFrame stamp).keepAsking p
      ({ drawn with clock := clock }, p) := by
  let frame := g.clock.nextFrame stamp
  let handed : RefreshClock Unit α :=
    { g.clock with
      callbacks := { nextId := 1, dispatching := [g.callback] }
      last := some (frame, stamp)
      request := none }
  have hbegin : g.clock.beginFrame stamp = ((frame, [(g.callback, ())]), handed) := by
    simp [RefreshClock.beginFrame, Callbacks.beginDispatch, hcallbacks, handed, frame]
  have hfinish (p : Page α) :
      handed.finishFrame [(g.callback, ())] p = (g.clock.afterFrame stamp).keepAsking p := by
    simp [RefreshClock.finishFrame, RefreshClock.afterFrame, Callbacks.finishDispatch, hcallbacks,
      handed, frame]
  rw [MountedGlobe.refresh, hbegin]
  exact congrArg (fun after => ({ (g.draw frame p).1 with clock := after.1 }, after.2)) (hfinish _)

namespace Holds

variable {g : MountedGlobe σ α} {p : Page α}

theorem resized (h : g.Holds p.holdings) :
    (g.resized p).1.Holds (g.resized p).2.holdings ∧ (g.resized p).2.holdings = p.holdings := by
  have hpage : (g.resized p).2.holdings = p.holdings := Page.holdings_drawAll ..
  exact ⟨hpage ▸ h.change _ g.handler, hpage⟩

theorem handle (h : g.Holds p.holdings) (event : PointerEvent α) :
    (g.handle event p).2.1.Holds (g.handle event p).2.2.holdings ∧
      (g.handle event p).2.2.holdings = p.holdings := by
  have hpage : (g.handle event p).2.2.holdings = p.holdings := holdings_showCursor ..
  exact ⟨hpage ▸ h.change _ g.handler, hpage⟩

theorem refresh [PhaseSource σ α] {s : Holdings} (h : g.Holds s) (stamp : α)
    (hcame : p.holdings = { s with pending := [] }) :
    (g.refresh stamp p).1.Holds (g.refresh stamp p).2.holdings ∧
      (g.refresh stamp p).2.observers = s.observers := by
  let drawn := g.draw (g.clock.nextFrame stamp) p
  have hdrawn : drawn.2.holdings = { s with pending := [] } :=
    (Page.holdings_drawAll ..).trans hcame
  obtain ⟨hclock, hpage⟩ := RefreshClock.holdings_keepAsking (c := g.clock.afterFrame stamp)
    (p := drawn.2) ((congrArg Holdings.hasWindow hdrawn).trans h.hasWindow)
    ((congrArg Holdings.grantsFrames hdrawn).trans h.grantsFrames) rfl
    (by simp [RefreshClock.afterFrame, h.callbacks, Callbacks.isEmpty, Callbacks.size]) h.isRunning
  rw [hdrawn] at hpage
  rw [refresh_eq h.callbacks]
  refine ⟨?_, congrArg Holdings.observers hpage⟩
  have hnext : drawn.2.requests = s.requests := congrArg Holdings.requests hdrawn
  simp only [drawn] at hclock hpage hnext
  simp only [hclock, hpage]
  exact ⟨h.attached, h.sphere_lt, h.listeners, h.observing, ⟨_, rfl, by simp [hnext]⟩, h.observers,
    h.disconnected, h.callbacks, h.isRunning, h.hasWindow, h.grantsFrames⟩

end Holds
end MountedGlobe
end GlobeView
