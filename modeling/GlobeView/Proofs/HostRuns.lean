import GlobeView.Page.HostJson
import GlobeView.Proofs.PageHoldings

/-! # Runs of a host

A `Call` is something that a page does with its host: it calls one of its functions, lets it know
about the pointer, a resize or an animation frame, or changes around it.

* A host is `Tidy` if its globe holds what it should and nothing else is held on the page.  Every
  call keeps that (`Tidy.act`), as long as no mount fails half way (`isRegular`).
* Hence nothing is ever left on the page by a globe that is gone (`page_resources_balanced`). -/

namespace GlobeView.Host

open MountedGlobe (Holds)

/-! ### Who hears the pointer -/

section hearing

variable {σ α : Type} [Scalar α] {h : Host σ α}

theorem pointer_of_nobody (hnobody : h.page.listeners = []) (canvas : ℕ) (kind : PointerKind)
    (position : Vec2 α) : (h.pointer canvas kind position).2 = h := by
  simp only [Host.pointer, Page.listenerCount, hnobody]
  rfl

/-- A globe with all its listeners hears every pointer event on its upper canvas once, and nobody
hears one elsewhere. -/
theorem pointer_of_globe {overlay : ℕ}
    (hlisteners : h.page.listeners = PointerKind.all.map (overlay, ·)) (canvas : ℕ)
    (kind : PointerKind) (position : Vec2 α) :
    (h.pointer canvas kind position).2 =
      if overlay = canvas then h.pointerCall overlay (kind.event position) else h := by
  have hcount : (PointerKind.all.map (overlay, ·)).count (canvas, kind) =
      if overlay = canvas then 1 else 0 := by
    split_ifs with hcanvas
    · rw [hcanvas]
      cases kind <;> simp [PointerKind.all]
    · simp [PointerKind.all, List.count_eq_zero, Ne.symm hcanvas]
  simp only [Host.pointer, Page.listenerCount, hlisteners, hcount]
  split_ifs with hcanvas
  · rw [hcanvas]
    rfl
  · rfl

end hearing

section Tidy

variable {σ α : Type}

/-- What is held on the page is held by the globe. -/
def Tidy (h : Host σ α) : Prop :=
  match h.globe with
  | some g => g.Holds h.page.holdings
  | none => h.page.holdings.Vacant

/-- A host that is tidy after something happened to `h`; observers are never numbered again. -/
structure Keeps (h h' : Host σ α) : Prop where
  tidy : h'.Tidy
  observers : h.page.observers ≤ h'.page.observers

theorem Keeps.trans {h₁ h₂ h₃ : Host σ α} (h : Keeps h₁ h₂) (h' : Keeps h₂ h₃) : Keeps h₁ h₃ :=
  ⟨h'.tidy, h.observers.trans h'.observers⟩

namespace Tidy

variable {h : Host σ α}

theorem keeps_self (ht : h.Tidy) : Keeps h h := ⟨ht, le_rfl⟩

theorem write (ht : h.Tidy) {page : Page α} (hpage : page.holdings = h.page.holdings) :
    Keeps h { h with page := page } := by
  refine ⟨?_, (congrArg Holdings.observers hpage).ge⟩
  unfold Tidy at ht ⊢
  simp only [hpage]
  exact ht

theorem globe_holds (ht : h.Tidy) {g : MountedGlobe σ α} (hg : h.globe = some g) :
    g.Holds h.page.holdings := by
  unfold Tidy at ht
  rwa [hg] at ht

theorem vacant (ht : h.Tidy) (hnone : h.globe = none) : h.page.holdings.Vacant := by
  unfold Tidy at ht
  rwa [hnone] at ht

theorem unmount (ht : h.Tidy) : Keeps h h.unmount ∧ h.unmount.globe = none := by
  unfold Host.unmount
  cases hg : h.globe with
  | none => exact ⟨ht.keeps_self, hg⟩
  | some g =>
      obtain ⟨hvacant, hobservers⟩ := (ht.globe_holds hg).release
      exact ⟨⟨hvacant, hobservers.ge⟩, rfl⟩

theorem modifyController (ht : h.Tidy) (f : Controller σ α → Controller σ α) :
    Keeps h (h.modifyController f).2 := by
  unfold Host.modifyController
  cases hg : h.globe with
  | none => exact ht.keeps_self
  | some g => exact ⟨(ht.globe_holds hg).change _ g.handler, le_rfl⟩

theorem setHandler (ht : h.Tidy) (handler : Option ClickHandler) :
    Keeps h (h.setHandler handler).2 := by
  unfold Host.setHandler
  cases hg : h.globe with
  | none => exact ht.keeps_self
  | some g => exact ⟨(ht.globe_holds hg).change g.controller _, le_rfl⟩

variable [Scalar α]

theorem callHandler (ht : h.Tidy) (handler : ClickHandler) (marker : Marker α) :
    Keeps h (h.callHandler handler marker) := by
  have hcalled : Keeps h { h with page := h.page.write [.callHandler marker] } :=
    ht.write (Page.holdings_write rfl _)
  cases handler with
  | ignore => exact hcalled
  | fail reason => exact hcalled.trans (hcalled.tidy.write (Page.holdings_write rfl _))
  | unmount => exact hcalled.trans hcalled.tidy.unmount.1
  | clearMarkers => exact hcalled.trans (hcalled.tidy.modifyController _)
  | uninstall => exact hcalled.trans (hcalled.tidy.setHandler none)

theorem mount_ok (ht : h.Tidy) {source : σ} {id : String} {config : Config α} {h' : Host σ α}
    (hmount : h.mount source id config = (.ok (), h')) : Keeps h h' := by
  obtain ⟨hkeeps, hnone⟩ := ht.unmount
  unfold Host.mount at hmount
  split at hmount
  · next g page hg =>
    obtain ⟨_, rfl⟩ := Prod.mk.inj hmount
    obtain ⟨hholds, _, hobservers⟩ := MountedGlobe.mount_holds (hkeeps.tidy.vacant hnone) hg
    exact ⟨hholds, hkeeps.observers.trans (hobservers ▸ Nat.le_succ _)⟩
  · cases (Prod.mk.inj hmount).1

theorem mount_noElement (ht : h.Tidy) {source : σ} {id missing : String} {config : Config α}
    {h' : Host σ α} (hmount : h.mount source id config = (.error (.noElement missing), h')) :
    Keeps h h' := by
  obtain ⟨hkeeps, hnone⟩ := ht.unmount
  unfold Host.mount at hmount
  split at hmount
  · cases (Prod.mk.inj hmount).1
  · next e page he =>
    obtain ⟨hfault, rfl⟩ := Prod.mk.inj hmount
    rw [Except.error.inj hfault] at he
    rw [MountedGlobe.mount_noElement he, ← hnone]
    exact hkeeps

/-! ### Calls of the page -/

theorem pointerCall (ht : h.Tidy) {g : MountedGlobe σ α} (hg : h.globe = some g)
    (event : PointerEvent α) : Keeps h (h.pointerCall g.overlay event) := by
  obtain ⟨hholds, hpage⟩ := (ht.globe_holds hg).handle event
  have hhandled : Keeps h
      { page := (g.handle event h.page).2.2, globe := some (g.handle event h.page).2.1 } :=
    ⟨hholds, (congrArg Holdings.observers hpage).ge⟩
  unfold Host.pointerCall
  simp only [hg, if_true]
  split
  · exact hhandled.trans (hhandled.tidy.callHandler _ _)
  · exact hhandled

theorem pointer (ht : h.Tidy) (canvas : ℕ) (kind : PointerKind) (position : Vec2 α) :
    Keeps h (h.pointer canvas kind position).2 := by
  cases hg : h.globe with
  | none =>
      rw [pointer_of_nobody (ht.vacant hg).listeners]
      exact ht.keeps_self
  | some g =>
      rw [pointer_of_globe (ht.globe_holds hg).listeners]
      split_ifs
      · exact ht.pointerCall hg _
      · exact ht.keeps_self

theorem elementResized (ht : h.Tidy) (id : String) : Keeps h (h.elementResized id).2 := by
  unfold Host.elementResized Page.observersOf
  cases hg : h.globe with
  | none =>
      have hnobody : h.page.observing = [] := (ht.vacant hg).observing
      rw [hnobody]
      exact ht.keeps_self
  | some g =>
      have hobserving : h.page.observing = [(g.observer, g.element)] :=
        (ht.globe_holds hg).observing
      rw [hobserving]
      by_cases hid : g.element = id
      · obtain ⟨hholds, hpage⟩ := (ht.globe_holds hg).resized
        have hresized : h.observerCall g.observer =
            { page := (g.resized h.page).2, globe := some (g.resized h.page).1 } := by
          simp [observerCall, hg]
        simp only [List.filter_cons, hid, beq_self_eq_true, if_true, List.filter_nil, List.map_cons,
          List.map_nil, List.foldl_cons, List.foldl_nil, hresized]
        exact ⟨hholds, (congrArg Holdings.observers hpage).ge⟩
      · simp only [List.filter_cons, beq_eq_false_iff_ne.mpr hid, List.filter_nil]
        exact ht.keeps_self

theorem animationFrames [PhaseSource σ α] (ht : h.Tidy) (stamp : α) :
    Keeps h (h.animationFrames stamp).2 := by
  unfold Host.animationFrames Page.takePending
  obtain hg | ⟨g, hg⟩ := Option.eq_none_or_eq_some h.globe
  · have hnothing : h.page.pending = [] := (ht.vacant hg).pending
    have hsame : { h.page with pending := [] } = h.page := by rw [← hnothing]
    rw [hnothing, hsame]
    exact ht.keeps_self
  · have hholds := ht.globe_holds hg
    obtain ⟨request, hrequest, hpending⟩ := hholds.pending
    have hone : h.page.pending = [request] := hpending
    obtain ⟨hnext, hobservers⟩ :=
      hholds.refresh (p := { h.page with pending := [] }) stamp rfl
    simp only [hone, List.foldl_cons, List.foldl_nil, frameCall, hg, hrequest, if_true]
    exact ⟨hnext, hobservers.ge⟩

end Tidy
end Tidy

/-! ### Calls and runs -/

/-- Something that a page does with its host. -/
inductive Call (σ : Type) where
  | start
  | mount (source : σ) (id : String) (config : Option String)
  | unmount
  | setScene (text : String)
  | setMarkers (text : String)
  | setConnections (text : String)
  | setHeat (text : String)
  | setHandler (handler : Option ClickHandler)
  | pointer (canvas : ℕ) (kind : PointerKind) (position : Vec2 Float)
  | resized (id : String)
  | frames (stamp : Float)
  /-- The page changes around its host: the elements, what it is able to do, and the clocks. -/
  | surroundings (elements : List (String × ContainerSize Float)) (features : Features)
      (displayClock wallClock : Float)

variable {σ : Type} [PhaseSource σ Float]

/-- What a call does, and its answer. -/
def act : Call σ → Host σ Float → Except HostError Unit × Host σ Float
  | .start, h => (.ok (), h.start)
  | .mount source id config, h => h.mountText source id config
  | .unmount, h => (.ok (), h.unmount)
  | .setScene text, h => h.setSceneText text
  | .setMarkers text, h => h.setMarkersText text
  | .setConnections text, h => h.setConnectionsText text
  | .setHeat text, h => h.setHeatText text
  | .setHandler handler, h => h.installHandler handler
  | .pointer canvas kind position, h => (.ok (), (h.pointer canvas kind position).2)
  | .resized id, h => (.ok (), (h.elementResized id).2)
  | .frames stamp, h => (.ok (), (h.animationFrames stamp).2)
  | .surroundings elements features displayClock wallClock, h =>
    (.ok (),
      { h with
        page :=
          { h.page with
            elements := elements
            features := features
            displayClock := displayClock
            wallClock := wallClock } })

omit [PhaseSource σ Float] in
theorem installHandler_snd (handler : Option ClickHandler) (h : Host σ Float) :
    (h.installHandler handler).2 = (h.setHandler handler).2 := by
  unfold installHandler Host.setHandler
  cases h.globe <;> rfl

/-- What calls do in order. -/
def run (calls : List (Call σ)) (h : Host σ Float) : Host σ Float :=
  calls.foldl (fun h call => (act call h).2) h

/-- Whether the page still has a window and grants frames after a call with its answer, and the call
is no mount that failed half way: one that fails does so on its configuration or on its element. -/
def isRegular : Call σ → Except HostError Unit → Bool
  | .mount .., .error (.config _) => true
  | .mount .., .error (.page (.noElement _)) => true
  | .mount .., .error _ => false
  | .surroundings _ features _ _, _ => features.hasWindow && features.grantsFrames
  | _, _ => true

/-- Whether all calls of a run are regular. -/
def regular : List (Call σ) → Host σ Float → Bool
  | [], _ => true
  | call :: rest, h => isRegular call (act call h).1 && regular rest (act call h).2

theorem regular_append {before after : List (Call σ)} {h : Host σ Float} :
    regular (before ++ after) h = (regular before h && regular after (run before h)) := by
  induction before generalizing h with
  | nil => rfl
  | cons call rest ih => rw [List.cons_append, regular, ih, regular, Bool.and_assoc]; rfl

/-! ### Tidy runs -/

namespace Tidy

variable {h : Host σ Float}

omit [PhaseSource σ Float] in
theorem supply {β : Type} (ht : h.Tidy) (value : Except HostError β)
    (f : β → Controller σ Float → Controller σ Float) : Keeps h (Host.supply value f h).2 := by
  unfold Host.supply
  split
  · exact ht.keeps_self
  · next v =>
    have hkeeps := ht.modifyController (f v)
    split <;> next hm => rwa [hm] at hkeeps

omit [PhaseSource σ Float] in
/-- A mount that does not fail half way leaves a tidy host. -/
theorem mountText (ht : h.Tidy) {source : σ} {id : String} {config : Option String}
    (hregular : isRegular (.mount source id config) (h.mountText source id config).1 = true) :
    Keeps h (h.mountText source id config).2 := by
  unfold Host.mountText at hregular ⊢
  cases hc : Config.ofText? config with
  | error e => exact ht.unmount.1
  | ok c =>
      simp only [hc] at hregular
      rcases hm : h.mount source id c with ⟨result, h'⟩
      simp only [hm] at hregular ⊢
      cases result with
      | ok _ => exact ht.mount_ok hm
      | error e =>
          cases e with
          | noElement missing => exact ht.mount_noElement hm
          | noWindow | noDocument | observeFailed | createFailed | noContext | appendFailed
          | listenFailed => cases hregular

omit [PhaseSource σ Float] in
theorem grants (ht : h.Tidy) :
    h.page.features.hasWindow = true ∧ h.page.features.grantsFrames = true := by
  cases hg : h.globe with
  | none => exact ⟨(ht.vacant hg).hasWindow, (ht.vacant hg).grantsFrames⟩
  | some g => exact ⟨(ht.globe_holds hg).hasWindow, (ht.globe_holds hg).grantsFrames⟩

theorem act (ht : h.Tidy) {call : Call σ} (hregular : isRegular call (act call h).1 = true) :
    Keeps h (Host.act call h).2 := by
  cases call with
  | start => exact ht.write (Page.holdings_write rfl _)
  | mount source id config => exact ht.mountText hregular
  | unmount => exact ht.unmount.1
  | setScene text => exact ht.supply _ _
  | setMarkers text => exact ht.supply _ _
  | setConnections text => exact ht.supply _ _
  | setHeat text => exact ht.supply _ _
  | setHandler handler =>
      simp only [Host.act, installHandler_snd]
      exact ht.setHandler handler
  | pointer canvas kind position => exact ht.pointer canvas kind position
  | resized id => exact ht.elementResized id
  | frames stamp => exact ht.animationFrames stamp
  | surroundings elements features displayClock wallClock =>
      obtain ⟨hwindow, hgrants⟩ := ht.grants
      obtain ⟨hwindow', hgrants'⟩ := Bool.and_eq_true_iff.mp hregular
      refine ht.write ?_
      simp only [Page.holdings, hwindow, hgrants, hwindow', hgrants']
      rfl

theorem run (ht : h.Tidy) {calls : List (Call σ)} (hregular : regular calls h = true) :
    Keeps h (Host.run calls h) := by
  induction calls generalizing h with
  | nil => exact ht.keeps_self
  | cons call rest ih =>
      obtain ⟨hcall, hrest⟩ := Bool.and_eq_true_iff.mp hregular
      exact (ht.act hcall).trans (ih (ht.act hcall).tidy hrest)

omit [PhaseSource σ Float] in
/-- The observers of globes that are gone were disconnected once, that of the globe is not. -/
theorem count_disconnected (ht : h.Tidy) {observer : ℕ} (hmade : observer < h.page.observers) :
    h.page.disconnected.count observer =
      if h.globe.any (·.observer = observer) then 0 else 1 := by
  cases hg : h.globe with
  | none =>
      have hall : h.page.disconnected = List.range h.page.observers := (ht.vacant hg).disconnected
      rw [hall, List.count_eq_one_of_mem List.nodup_range (List.mem_range.mpr hmade)]
      rfl
  | some g =>
      have hall : h.page.disconnected = List.range g.observer := (ht.globe_holds hg).disconnected
      have hlast : h.page.observers = g.observer + 1 := (ht.globe_holds hg).observers
      rw [hall]
      by_cases heq : g.observer = observer
      · simp [heq]
      · have hbefore : observer ∈ List.range g.observer := List.mem_range.mpr (by omega)
        rw [List.count_eq_one_of_mem List.nodup_range hbefore]
        simp [heq]

end Tidy

/-- A host of a page that nothing was done to yet. -/
def onFreshPage (elements : List (String × ContainerSize Float)) (features : Features)
    (displayClock wallClock : Float) : Host σ Float where
  page :=
    { elements := elements
      features := features
      displayClock := displayClock
      wallClock := wallClock }

variable {elements : List (String × ContainerSize Float)} {features : Features}
  {displayClock wallClock : Float}

/-- **Nothing is left on the page.**  After any calls to the host of a fresh page with a window that
grants frames, none of which is a mount that fails half way: the globe that is mounted holds its two
canvases, one above the other, its four listeners on the upper one, one observer and one animation
frame, and nothing else is held on the page; without a globe nothing is, and unmounting changes
nothing.  The observer of each globe that was ever mounted was disconnected once if that globe is
gone, and never if it is not. -/
theorem page_resources_balanced (hwindow : features.hasWindow = true)
    (hgrants : features.grantsFrames = true) {calls : List (Call σ)}
    (hregular :
      regular calls (onFreshPage elements features displayClock wallClock) = true) :
    let start : Host σ Float := onFreshPage elements features displayClock wallClock
    let h := run calls start
    (∀ g, h.globe = some g →
      h.page.attached = [(g.element, g.sphere), (g.element, g.overlay)] ∧ g.sphere < g.overlay ∧
      h.page.listeners = PointerKind.all.map (g.overlay, ·) ∧
      h.page.observing = [(g.observer, g.element)] ∧
      ∃ request, g.clock.request = some request ∧ h.page.pending = [request]) ∧
    (h.globe = none →
      h.page.attached = [] ∧ h.page.listeners = [] ∧ h.page.observing = [] ∧ h.page.pending = [] ∧
      h.unmount = h) ∧
    ∀ before after g, calls = before ++ after → (run before start).globe = some g →
      h.page.disconnected.count g.observer =
        if h.globe.any (·.observer = g.observer) then 0 else 1 := by
  intro start h
  have hstart : start.Tidy := ⟨rfl, rfl, rfl, rfl, rfl, hwindow, hgrants⟩
  have ht : h.Tidy := (hstart.run hregular).tidy
  refine ⟨fun g hg => ?_, fun hnone => ?_, ?_⟩
  · have hholds := ht.globe_holds hg
    exact ⟨hholds.attached, hholds.sphere_lt, hholds.listeners, hholds.observing, hholds.pending⟩
  · have hvacant := ht.vacant hnone
    refine ⟨hvacant.attached, hvacant.listeners, hvacant.observing, hvacant.pending, ?_⟩
    rw [unmount, hnone]
  · rintro before after g rfl hg
    rw [regular_append, Bool.and_eq_true_iff] at hregular
    obtain ⟨hbefore, hafter⟩ := hregular
    have hkeeps := hstart.run hbefore
    have hlater : Keeps (run before start) h := by
      have hrun : h = run after (run before start) := List.foldl_append
      rw [hrun]
      exact hkeeps.tidy.run hafter
    have hmade : (run before start).page.observers = g.observer + 1 :=
      (hkeeps.tidy.globe_holds hg).observers
    exact ht.count_disconnected (by have := hlater.observers; omega)

/-- A globe is used and then replaced by another one, after two attempts that failed: in an element
that is not there, and with a wrong configuration. -/
theorem page_resources_balanced_remounted :
    let elements : List (String × ContainerSize Float) := [("a", ⟨300, 300⟩), ("b", ⟨500, 500⟩)]
    let before : List (Call Unseeded) :=
      [.mount Unseeded.mk "a" none, .pointer 1 .down ⟨10, 10⟩, .frames 16]
    let after : List (Call Unseeded) :=
      [.mount Unseeded.mk "c" none, .mount Unseeded.mk "b" (some "7"), .mount Unseeded.mk "b" none,
        .pointer 1 .up ⟨10, 10⟩, .resized "b", .frames 33]
    ∃ h g g', run (before ++ after) (onFreshPage elements {} 0 0) = h ∧
      (run before (onFreshPage elements {} 0 0)).globe = some g ∧ h.globe = some g' ∧
      g.observer ≠ g'.observer ∧ h.page.observing = [(g'.observer, "b")] ∧
      h.page.pending.length = 1 ∧ h.page.disconnected.count g.observer = 1 ∧
      h.page.disconnected.count g'.observer = 0 := by
  intro elements before after
  have hregular : regular (before ++ after) (onFreshPage elements {} 0 0) = true := by
    decide +kernel
  have hfirst : (run before (onFreshPage elements {} 0 0)).globe.map (·.observer) = some 0 := by
    decide +kernel
  have hlast : (run (before ++ after) (onFreshPage elements {} 0 0)).globe.map
      (fun g => (g.observer, g.element)) = some (1, "b") := by
    decide +kernel
  obtain ⟨g, hg, hnumber⟩ := Option.map_eq_some_iff.mp hfirst
  obtain ⟨g', hg', hplace⟩ := Option.map_eq_some_iff.mp hlast
  obtain ⟨hnumber', helement⟩ := Prod.mk.inj hplace
  obtain ⟨hmounted, _, hgone⟩ := page_resources_balanced rfl rfl hregular
  obtain ⟨_, _, _, hobserving, request, _, hpending⟩ := hmounted g' hg'
  have hcount := hgone before after g rfl hg
  have hcount' := hgone (before ++ after) [] g' (List.append_nil _).symm hg'
  rw [hg'] at hcount hcount'
  refine ⟨_, g, g', rfl, hg, hg', by rw [hnumber, hnumber']; decide, ?_, ?_, ?_, ?_⟩
  · rw [hobserving, helement]
  · rw [hpending]
    rfl
  · rw [hcount]
    simp [hnumber, hnumber']
  · rw [hcount']
    simp

end GlobeView.Host
