import GlobeView.Proofs.HeldHover
import GlobeView.Proofs.SizeAgreement
import GlobeView.Proofs.DataSetters
import GlobeView.Proofs.FailedMounts

/-! # The cursor over a globe

The cursor over the upper canvas shows whether the globe is held and whether a marker is hovered, as
of the last time it was set: when the globe was mounted, or at the last pointer event over it
(`Host.cursor_of_last_look`).  Nothing else changes whether the globe is held.  But new markers may
change the hover, and then the cursor is wrong until the pointer moves again
(`Host.cursor_left_over`).

What happens between two looks at a globe is a relation on hosts (`Host.Aside`), kept by every call
that neither mounts a globe nor tells it about the pointer. -/

namespace GlobeView

/-! ### Cursors of a page -/

namespace Page

variable {α : Type}

theorem cursor?_setCursor (canvas : ℕ) (cursor : Cursor) (p : Page α) :
    (p.setCursor canvas cursor).cursor? canvas = some cursor := by
  simp [setCursor, cursor?, write]

theorem cursors_drawAll [Scalar α] (sphere overlay : ℕ) (steps : List (Drawing α)) (p : Page α) :
    (p.drawAll sphere overlay steps).cursors = p.cursors := by
  induction steps generalizing p with
  | nil => rfl
  | cons step rest ih => exact (ih _).trans (by cases step <;> rfl)

end Page

theorem RefreshClock.keepAsking_aside {κ α : Type} (c : RefreshClock κ α) (p : Page α) :
    (c.keepAsking p).2.cursors = p.cursors ∧ (c.keepAsking p).2.listeners = p.listeners := by
  unfold keepAsking Page.requestFrame
  split_ifs <;> exact ⟨rfl, rfl⟩

theorem Controller.drawFrame_still {σ α : Type} [Scalar α] [PhaseSource σ α]
    (container : ContainerSize α) (frame : Frame α) (c : Controller σ α) :
    (c.drawFrame container frame).2.hover = c.hover ∧
      (c.drawFrame container frame).2.rotation.isDragging = c.rotation.isDragging := by
  obtain ⟨sizer, log, hsettled⟩ := c.settled_shape container frame.time
  rw [drawFrame_eq]
  simp only [hsettled]
  exact ⟨rfl, Rotation.isDragging_tick _ _⟩

theorem Controller.containerResized_still {σ α : Type} [Scalar α] (container : ContainerSize α)
    (now : α) (c : Controller σ α) :
    (c.containerResized container now).2.hover = c.hover ∧
      (c.containerResized container now).2.rotation.isDragging = c.rotation.isDragging := by
  have hresize : (c.containerResized container now).2 = (c.resize container now).2 := rfl
  rw [hresize, resize_eq]
  exact ⟨rfl, rfl⟩

namespace MountedGlobe

variable {σ α : Type}

theorem cursor_eq_iff {g g' : MountedGlobe σ α}
    (hdragging : g'.controller.rotation.isDragging = g.controller.rotation.isDragging) :
    g.cursor = g'.cursor ↔ g'.controller.rotation.isDragging = true ∨
      g'.controller.hover.isSome = g.controller.hover.isSome := by
  unfold cursor
  rw [hdragging]
  cases g.controller.rotation.isDragging <;> cases g.controller.hover.isSome <;>
    cases g'.controller.hover.isSome <;> simp

theorem mount_ok [Scalar α] {source : σ} {id : String} {config : Config α} {p p' : Page α}
    {g : MountedGlobe σ α} (h : mount source id config p = (.ok g, p')) :
    p'.cursor? g.overlay = some g.cursor ∧
      p'.listeners = p.listeners ++ PointerKind.all.map (g.overlay, ·) ∧ g.handler = none := by
  have hcase := mountCase source id config p
  rw [h] at hcase
  generalize hresult : (Except.ok g, p') = result at hcase
  cases hcase with
  | refused => cases (Prod.mk.inj hresult).1
  | stopped => cases (Prod.mk.inj hresult).1
  | @started size p₁ hp₁ =>
      obtain ⟨controller, drawn, hdrawn, hfurnish⟩ :=
        furnish_eq source id config size p.observers p.canvases (p.canvases + 1) p₁
      rw [hfurnish] at hresult
      simp only at hresult
      split_ifs at hresult with hheard
      · obtain ⟨hg, hpage⟩ := Prod.mk.inj hresult
        obtain rfl := Except.ok.inj hg
        subst hpage
        refine ⟨Page.cursor?_setCursor .., ?_, rfl⟩
        have hlistened := congrArg Holdings.listeners
          (Page.holdings_tryListen (p.canvases + 1) PointerKind.all
            (RefreshClock.drawing.keepAsking drawn).2)
        have hbefore : (RefreshClock.drawing.keepAsking drawn).2.listeners = p.listeners :=
          (RefreshClock.keepAsking_aside _ drawn).2.trans
            ((congrArg Holdings.listeners hdrawn).trans (congrArg Holdings.listeners hp₁))
        rw [hheard] at hlistened
        exact hlistened.trans (congrArg (· ++ _) hbefore)
      · cases (Prod.mk.inj hresult).1

end MountedGlobe

/-! ### Between two looks -/

namespace Host

section
variable {σ α : Type}

/-- `h'` is `h` after something that the cursor does not follow.  The hover stays, too, unless there
are new markers. -/
structure Aside (renewed : Bool) (h h' : Host σ α) : Prop where
  cursors : h'.page.cursors = h.page.cursors
  listeners : h'.page.listeners = h.page.listeners
  overlay : h'.globe.map (·.overlay) = h.globe.map (·.overlay)
  dragging : h'.globe.map (·.controller.rotation.isDragging) =
    h.globe.map (·.controller.rotation.isDragging)
  hover : renewed = false → h'.globe.map (·.controller.hover) = h.globe.map (·.controller.hover)
  handler : h.globe.bind (·.handler) ≠ some .clearMarkers →
    h'.globe.bind (·.handler) ≠ some .clearMarkers

namespace Aside

theorem exists_globe {renewed : Bool} {h h' : Host σ α} (haside : Aside renewed h h')
    {g' : MountedGlobe σ α} (hg' : h'.globe = some g') :
    ∃ g, h.globe = some g ∧ g'.overlay = g.overlay ∧
      g'.controller.rotation.isDragging = g.controller.rotation.isDragging ∧
      (renewed = false → g'.controller.hover = g.controller.hover) := by
  obtain ⟨_, _, hoverlay, hdragging, hhover, _⟩ := haside
  rw [hg'] at hoverlay hdragging hhover
  cases hg : h.globe with
  | none => simp [hg] at hoverlay
  | some g =>
      rw [hg] at hoverlay hdragging hhover
      exact ⟨g, rfl, Option.some.inj hoverlay, Option.some.inj hdragging,
        fun hr => Option.some.inj (hhover hr)⟩

theorem refl (renewed : Bool) (h : Host σ α) : Aside renewed h h :=
  ⟨rfl, rfl, rfl, rfl, fun _ => rfl, id⟩

theorem trans {first second : Bool} {h h' h'' : Host σ α} (hf : Aside first h h')
    (hs : Aside second h' h'') : Aside (first || second) h h'' where
  cursors := hs.cursors.trans hf.cursors
  listeners := hs.listeners.trans hf.listeners
  overlay := hs.overlay.trans hf.overlay
  dragging := hs.dragging.trans hf.dragging
  hover hr :=
    have hr := Bool.or_eq_false_iff.mp hr
    (hs.hover hr.2).trans (hf.hover hr.1)
  handler := hs.handler ∘ hf.handler

/-- What happens on the page beside its cursors and listeners. -/
theorem ofPage (h : Host σ α) {page : Page α} (hcursors : page.cursors = h.page.cursors)
    (hlisteners : page.listeners = h.page.listeners) : Aside false h { h with page := page } :=
  ⟨hcursors, hlisteners, rfl, rfl, fun _ => rfl, id⟩

/-- The globe changes in what the cursor does not follow. -/
theorem ofGlobe {h : Host σ α} {g g' : MountedGlobe σ α} {page : Page α} {renewed : Bool}
    (hg : h.globe = some g) (hcursors : page.cursors = h.page.cursors)
    (hlisteners : page.listeners = h.page.listeners) (hoverlay : g'.overlay = g.overlay)
    (hdragging : g'.controller.rotation.isDragging = g.controller.rotation.isDragging)
    (hhover : renewed = false → g'.controller.hover = g.controller.hover)
    (hhandler : g'.handler = g.handler ∨ g'.handler ≠ some .clearMarkers) :
    Aside renewed h { page := page, globe := some g' } where
  cursors := hcursors
  listeners := hlisteners
  overlay := by rw [hg, Option.map_some, Option.map_some, hoverlay]
  dragging := by rw [hg, Option.map_some, Option.map_some, hdragging]
  hover hr := by rw [hg, Option.map_some, Option.map_some, hhover hr]
  handler hbefore := by
    rw [hg] at hbefore
    obtain hsame | hother := hhandler
    · rw [Option.bind_some, hsame]
      exact hbefore
    · exact hother

theorem setHandler (h : Host σ α) {handler : Option ClickHandler}
    (hhandler : handler ≠ some .clearMarkers) : Aside false h (h.setHandler handler).2 := by
  unfold Host.setHandler
  split
  · next g hg => exact ofGlobe hg rfl rfl rfl rfl (fun _ => rfl) (.inr hhandler)
  · exact refl false h

variable [Scalar α]

/-- A click handler that leaves the markers alone does nothing that the cursor follows, unless it
takes the globe off. -/
theorem callHandler (h : Host σ α) {handler : ClickHandler} (hhandler : handler ≠ .clearMarkers)
    (marker : Marker α) :
    (handler = .unmount ∧ (h.callHandler handler marker).globe = none) ∨
      Aside false h (h.callHandler handler marker) := by
  let called : Host σ α := { h with page := h.page.write [.callHandler marker] }
  have hcalled : Aside false h called := ofPage h rfl rfl
  cases handler with
  | ignore => exact .inr hcalled
  | fail reason => exact .inr (ofPage h rfl rfl)
  | unmount => exact .inl ⟨rfl, globe_unmount called⟩
  | clearMarkers => exact absurd rfl hhandler
  | uninstall => exact .inr (hcalled.trans (setHandler called nofun))

theorem observerCall (h : Host σ α) (observer : ℕ) : Aside false h (h.observerCall observer) := by
  unfold Host.observerCall
  split
  · next g hg =>
    split
    · obtain ⟨hhover, hdragging⟩ :=
        g.controller.containerResized_still (h.page.measure g.element) h.page.now
      have hholdings : (g.resized h.page).2.holdings = h.page.holdings := Page.holdings_drawAll ..
      exact ofGlobe hg (Page.cursors_drawAll ..) (congrArg Holdings.listeners hholdings) rfl
        hdragging (fun _ => hhover) (.inl rfl)
    · exact ofPage h rfl rfl
  · exact ofPage h rfl rfl

theorem elementResized (h : Host σ α) (id : String) : Aside false h (h.elementResized id).2 := by
  refine List.foldlRecOn (motive := Aside false h) _ Host.observerCall (refl false h) ?_
  exact fun h' hstep observer _ => hstep.trans (observerCall h' observer)

variable [PhaseSource σ α]

theorem foldl_draw (frame : Frame α) (taken : List (ℕ × Unit)) (g : MountedGlobe σ α)
    (p : Page α) :
    let drawn := taken.foldl (fun (g, p) _ => g.draw frame p) (g, p)
    drawn.2.cursors = p.cursors ∧ drawn.1.overlay = g.overlay ∧
      drawn.1.controller.rotation.isDragging = g.controller.rotation.isDragging ∧
      drawn.1.controller.hover = g.controller.hover ∧ drawn.1.handler = g.handler := by
  induction taken generalizing g p with
  | nil => exact ⟨rfl, rfl, rfl, rfl, rfl⟩
  | cons _ rest ih =>
      obtain ⟨hcursors, hoverlay, hdragging, hhover, hhandler⟩ :=
        ih (g.draw frame p).1 (g.draw frame p).2
      obtain ⟨hstill, hheld⟩ := g.controller.drawFrame_still (p.measure g.element) frame
      exact ⟨hcursors.trans (Page.cursors_drawAll ..), hoverlay, hdragging.trans hheld,
        hhover.trans hstill, hhandler⟩

theorem frameCall (h : Host σ α) (stamp : α) (request : ℕ) :
    Aside false h (h.frameCall stamp request) := by
  unfold Host.frameCall
  split
  · next g hg =>
    split
    · let handed := g.clock.beginFrame stamp
      let begun : MountedGlobe σ α := { g with clock := handed.2 }
      obtain ⟨hcursors, hoverlay, hdragging, hhover, hhandler⟩ :=
        foldl_draw handed.1.1 handed.1.2 begun h.page
      have hlisteners := congrArg Holdings.listeners
        (MountedGlobe.holdings_foldl_draw handed.1.1 handed.1.2 begun h.page)
      obtain ⟨hcursors', hlisteners'⟩ := RefreshClock.keepAsking_aside _ _
      exact ofGlobe hg (hcursors'.trans hcursors) (hlisteners'.trans hlisteners) hoverlay hdragging
        (fun _ => hhover) (.inl hhandler)
    · exact ofPage h rfl rfl
  · exact ofPage h rfl rfl

theorem animationFrames (h : Host σ α) (stamp : α) : Aside false h (h.animationFrames stamp).2 := by
  let taken : Host σ α := { h with page := h.page.takePending.2 }
  refine List.foldlRecOn (motive := Aside false h) _ (Host.frameCall stamp)
    (ofPage h rfl rfl : Aside false h taken) ?_
  exact fun h' hstep request _ => hstep.trans (frameCall h' stamp request)

end Aside

/-! ### Attended globes -/

/-- The globe listens to the pointer over its upper canvas and nobody else does, and its handler
leaves the markers alone. -/
structure Attended (h : Host σ α) : Prop where
  numbered : h.page.holdings.Numbered
  listeners : h.page.listeners =
    (h.globe.map (·.overlay)).elim [] fun overlay => PointerKind.all.map (overlay, ·)
  handler : h.globe.bind (·.handler) ≠ some .clearMarkers

/-- The cursor over the globe is the right one. -/
def ShowsCursor (h : Host σ α) : Prop :=
  ∀ g, h.globe = some g → h.page.cursor? g.overlay = some g.cursor

theorem Aside.attended {renewed : Bool} {h h' : Host σ α} (ha : h.Attended)
    (haside : Aside renewed h h') (hn : h'.page.holdings.Numbered) : h'.Attended where
  numbered := hn
  listeners := by rw [haside.listeners, haside.overlay, ha.listeners]
  handler := haside.handler ha.handler

/-- Unless there are new markers the cursor stays right. -/
theorem Aside.showsCursor {h h' : Host σ α} (hs : h.ShowsCursor) (haside : Aside false h h') :
    h'.ShowsCursor := by
  intro g' hg'
  obtain ⟨g, hg, hoverlay, hdragging, hhover⟩ := haside.exists_globe hg'
  have hsame : g.cursor = g'.cursor :=
    (MountedGlobe.cursor_eq_iff hdragging).mpr (.inr (congrArg _ (hhover rfl)))
  rw [hoverlay, Page.cursor?, haside.cursors, ← hsame]
  exact hs g hg

namespace Attended

variable {h : Host σ α}

theorem unmount (ha : h.Attended) : h.unmount.Attended := by
  have hn := numbered_unmount ha.numbered
  cases hg : h.globe with
  | none =>
      have hsame : h.unmount = h := by rw [Host.unmount, hg]
      rwa [hsame]
  | some g =>
      have hgone : h.unmount = { page := g.release h.page, globe := none } := by
        rw [Host.unmount, hg]
      have hlisteners : (g.release h.page).listeners = [] := by
        have hheld := congrArg Holdings.listeners
          (MountedGlobe.holdings_releaseHearing PointerKind.all g h.page)
        have hbefore : h.page.listeners = PointerKind.all.map (g.overlay, ·) := by
          rw [ha.listeners, hg]
          rfl
        refine hheld.trans ?_
        simp [Page.holdings, hbefore, PointerKind.all]
      rw [hgone] at hn ⊢
      exact ⟨hn, hlisteners, by simp⟩

variable [Scalar α]

theorem mount (ha : h.Attended) (source : σ) (id : String) (config : Config α) :
    (h.mount source id config).2.Attended ∧ (h.mount source id config).2.ShowsCursor := by
  have hn := numbered_mount ha.numbered source id config
  have hlisteners : h.unmount.page.listeners = [] := by
    rw [ha.unmount.listeners, globe_unmount]
    rfl
  unfold Host.mount at hn ⊢
  split
  · next g page hmount =>
    rw [hmount] at hn
    obtain ⟨hcursor, hlistens, hhandler⟩ := MountedGlobe.mount_ok hmount
    rw [hlisteners, List.nil_append] at hlistens
    refine ⟨⟨hn, hlistens, by simp [hhandler]⟩, fun g' hg' => ?_⟩
    obtain rfl := Option.some.inj hg'
    exact hcursor
  · next e page hmount =>
    rw [hmount] at hn
    obtain ⟨hsame, _⟩ := MountedGlobe.mount_error ha.unmount.numbered hmount
    refine ⟨⟨hn, hsame.trans hlisteners, by simp⟩, fun g hg => ?_⟩
    cases hg

theorem callHandler (ha : h.Attended) {handler : ClickHandler} (hhandler : handler ≠ .clearMarkers)
    (marker : Marker α) : (h.callHandler handler marker).Attended := by
  have hn := numbered_callHandler ha.numbered handler marker
  obtain ⟨rfl, _⟩ | haside := Aside.callHandler h hhandler marker
  · have hcalled : Aside false h { h with page := h.page.write [.callHandler marker] } :=
      .ofPage h rfl rfl
    exact (hcalled.attended ha (numbered_write ha.numbered rfl)).unmount
  · exact haside.attended ha hn

/-- A pointer event over the globe brings the cursor up to date, whatever the click handler does,
which leaves the markers alone. -/
theorem pointerCall (ha : h.Attended) {g : MountedGlobe σ α} (hg : h.globe = some g)
    (event : PointerEvent α) :
    (h.pointerCall g.overlay event).Attended ∧ (h.pointerCall g.overlay event).ShowsCursor ∧
      ∀ g', (h.pointerCall g.overlay event).globe = some g' → g'.overlay = g.overlay := by
  let handled : Host σ α :=
    { page := (g.handle event h.page).2.2, globe := some (g.handle event h.page).2.1 }
  have hlisteners : h.page.listeners = PointerKind.all.map (g.overlay, ·) := by
    rw [ha.listeners, hg]
    rfl
  have hhandler : g.handler ≠ some .clearMarkers := by
    have := ha.handler
    rwa [hg] at this
  have hattended : handled.Attended := by
    refine ⟨?_, hlisteners, hhandler⟩
    show (Page.setCursor _ _ _).holdings.Numbered
    rw [Page.holdings_setCursor]
    exact ha.numbered
  have hshows : handled.ShowsCursor := by
    intro g' hg'
    obtain rfl := Option.some.inj hg'
    exact Page.cursor?_setCursor ..
  unfold Host.pointerCall
  simp only [hg, if_true]
  split
  · next marker handler _ hcalls =>
    have hother : handler ≠ .clearMarkers := fun heq => hhandler (heq ▸ hcalls)
    refine ⟨hattended.callHandler hother marker, ?_⟩
    obtain ⟨_, hnone⟩ | haside := Aside.callHandler handled hother marker
    · refine ⟨fun g' hg' => ?_, fun g' hg' => ?_⟩
      all_goals
        rw [hnone] at hg'
        cases hg'
    · refine ⟨haside.showsCursor hshows, fun g' hg' => ?_⟩
      obtain ⟨g₁, hg₁, hoverlay, _⟩ := haside.exists_globe hg'
      obtain rfl := Option.some.inj hg₁
      exact hoverlay
  · refine ⟨hattended, hshows, fun g' hg' => ?_⟩
    obtain rfl := Option.some.inj hg'
    rfl

theorem pointer (ha : h.Attended) (canvas : ℕ) (kind : PointerKind) (position : Vec2 α) :
    let h' := (h.pointer canvas kind position).2
    h'.Attended ∧ ∀ g', h'.globe = some g' →
      if g'.overlay = canvas then h'.ShowsCursor else h' = h := by
  intro h'
  have hlisteners := ha.listeners
  cases hg : h.globe with
  | none =>
      rw [hg] at hlisteners
      have hsame : h' = h := pointer_of_nobody hlisteners canvas kind position
      rw [hsame]
      refine ⟨ha, fun g' hg' => ?_⟩
      rw [hg] at hg'
      cases hg'
  | some g =>
      rw [hg] at hlisteners
      have hheard : h' = if g.overlay = canvas then h.pointerCall g.overlay (kind.event position)
          else h := pointer_of_globe hlisteners canvas kind position
      rw [hheard]
      split_ifs with hcanvas
      · obtain ⟨hattended, hshows, hoverlay⟩ := ha.pointerCall hg (kind.event position)
        exact ⟨hattended, fun g' hg' => by rwa [if_pos ((hoverlay g' hg').trans hcanvas)]⟩
      · refine ⟨ha, fun g' hg' => ?_⟩
        rw [hg] at hg'
        obtain rfl := Option.some.inj hg'
        rw [if_neg hcanvas]

end Attended
end

/-! ### Runs -/

/-- A call that brings the cursor over a canvas up to date, once it is that of a globe. -/
def Call.looksAt {σ : Type} (overlay : ℕ) : Call σ → Bool
  | .mount .. => true
  | .pointer canvas _ _ => canvas == overlay
  | _ => false

/-- A call with a text for new markers. -/
def Call.bringsMarkers {σ : Type} : Call σ → Bool
  | .setScene _ | .setMarkers _ => true
  | _ => false

variable {σ : Type}

theorem Aside.set (setting : Setting) (text : String) (h : Host σ Float) :
    Aside setting.bringsMarkers h (setting.set text h).2 := by
  rw [Setting.set_eq]
  split
  · exact refl _ h
  · exact refl _ h
  · next edit g hread hg =>
    rw [Edit.apply_eq]
    refine ofGlobe hg rfl rfl rfl rfl (fun hquiet => ?_) (.inl rfl)
    exact Edit.hoverAfter_of_quiet ((Setting.replacesMarkers_read hread).trans hquiet) _

variable [PhaseSource σ Float]

/-- Every call either brings the cursor up to date or does nothing that the cursor follows. -/
theorem Attended.act {h : Host σ Float} (ha : h.Attended) {call : Call σ}
    (hcall : call ≠ .setHandler (some .clearMarkers)) :
    (act call h).2.Attended ∧ ∀ g', (act call h).2.globe = some g' →
      if call.looksAt g'.overlay then (act call h).2.ShowsCursor
      else Aside call.bringsMarkers h (act call h).2 := by
  have hn := numbered_act ha.numbered call
  have haside {renewed : Bool} {h' : Host σ Float} (hstep : Aside renewed h h')
      (hn : h'.page.holdings.Numbered) :
      h'.Attended ∧ ∀ g', h'.globe = some g' →
        if false = true then h'.ShowsCursor else Aside renewed h h' :=
    ⟨hstep.attended ha hn, fun _ _ => hstep⟩
  cases call with
  | start => exact haside (.ofPage h rfl rfl) hn
  | mount source id config =>
      simp only [Call.looksAt, if_true]
      simp only [Host.act, mountText]
      split
      · refine ⟨ha.unmount, fun g' hg' => ?_⟩
        rw [globe_unmount] at hg'
        cases hg'
      · exact ⟨(ha.mount source id _).1, fun _ _ => (ha.mount source id _).2⟩
  | unmount =>
      refine ⟨ha.unmount, fun g' hg' => ?_⟩
      rw [show (Host.act .unmount h).2 = h.unmount from rfl, globe_unmount] at hg'
      cases hg'
  | setScene text => exact haside (.set .scene text h) hn
  | setMarkers text => exact haside (.set .markers text h) hn
  | setConnections text => exact haside (.set .connections text h) hn
  | setHeat text => exact haside (.set .heat text h) hn
  | setHandler handler =>
      have hsame : (Host.act (.setHandler handler) h).2 = (h.setHandler handler).2 :=
        installHandler_snd handler h
      have hother : handler ≠ some .clearMarkers := fun heq => hcall (heq ▸ rfl)
      exact haside (hsame ▸ .setHandler h hother) hn
  | pointer canvas kind position =>
      obtain ⟨hattended, hshows⟩ := ha.pointer canvas kind position
      refine ⟨hattended, fun g' hg' => ?_⟩
      have hshown := hshows g' hg'
      by_cases hcanvas : g'.overlay = canvas
      · rw [if_pos hcanvas] at hshown
        simp only [Call.looksAt, hcanvas, beq_self_eq_true, if_true]
        exact hshown
      · rw [if_neg hcanvas] at hshown
        have hother : (canvas == g'.overlay) = false := beq_eq_false_iff_ne.mpr (Ne.symm hcanvas)
        have hsame : (Host.act (.pointer canvas kind position) h).2 = h := hshown
        simp only [Call.looksAt, hother, Bool.false_eq_true, if_false, hsame]
        exact .refl _ h
  | resized id => exact haside (.elementResized h id) hn
  | frames stamp => exact haside (.animationFrames h stamp) hn
  | surroundings elements features displayClock wallClock => exact haside (.ofPage h rfl rfl) hn

theorem run_concat (calls : List (Call σ)) (call : Call σ) (h : Host σ Float) :
    run (calls ++ [call]) h = (act call (run calls h)).2 :=
  List.foldl_append

/-- Since the last look at a globe nothing has happened that the cursor follows. -/
theorem Attended.run {h : Host σ Float} (ha : h.Attended) (hnone : h.globe = none)
    {calls : List (Call σ)} (hcalls : ∀ call ∈ calls, call ≠ .setHandler (some .clearMarkers)) :
    (run calls h).Attended ∧ ∀ g, (run calls h).globe = some g →
      ∃ before call after, calls = before ++ call :: after ∧ call.looksAt g.overlay = true ∧
        (∀ later ∈ after, later.looksAt g.overlay = false) ∧
        (Host.run (before ++ [call]) h).ShowsCursor ∧
        Aside (after.any Call.bringsMarkers) (Host.run (before ++ [call]) h)
          (Host.run calls h) := by
  induction calls using List.reverseRecOn with
  | nil =>
      refine ⟨ha, fun g hg => ?_⟩
      rw [show Host.run [] h = h from rfl, hnone] at hg
      cases hg
  | append_singleton calls call ih =>
      obtain ⟨hbefore, hlooks⟩ := ih fun c hc => hcalls c (List.mem_append_left _ hc)
      obtain ⟨hafter, hstep⟩ := hbefore.act (hcalls call (by simp))
      rw [run_concat]
      refine ⟨hafter, fun g hg => ?_⟩
      have hcall := hstep g hg
      cases hlook : call.looksAt g.overlay with
      | true =>
          rw [hlook, if_pos rfl] at hcall
          refine ⟨calls, call, [], rfl, hlook, by simp, ?_, ?_⟩
          · rwa [run_concat]
          · rw [run_concat]
            exact .refl _ _
      | false =>
          rw [hlook, if_neg Bool.false_ne_true] at hcall
          obtain ⟨g₁, hg₁, hoverlay, _⟩ := hcall.exists_globe hg
          obtain ⟨before, look, after, rfl, hlooked, hquiet, hshows, haside⟩ := hlooks g₁ hg₁
          rw [← hoverlay] at hlooked hquiet
          refine ⟨before, look, after ++ [call], by simp, hlooked, ?_, hshows, ?_⟩
          · intro later hlater
            obtain hlater | hlater := List.mem_append.mp hlater
            · exact hquiet later hlater
            · rwa [List.mem_singleton.mp hlater]
          · have hboth := haside.trans hcall
            simpa [List.any_append] using hboth

/-- **The cursor shows the state of the last look.**  In every state that the calls of a page with a
fresh host reach, the cursor over a mounted globe is the one that was right after the last look at
it: after its mount, or the last pointer event over it.  The globe has been held or free ever since,
so the cursor is still right just when the globe is held or a marker is hovered as one was then.
It is so for sure when no text for new markers has come since. -/
theorem cursor_of_last_look (elements : List (String × ContainerSize Float)) (features : Features)
    (displayClock wallClock : Float) (calls : List (Call σ))
    (hcalls : ∀ call ∈ calls, call ≠ .setHandler (some .clearMarkers)) :
    let start : Host σ Float := onFreshPage elements features displayClock wallClock
    let h := Host.run calls start
    ∀ g, h.globe = some g →
      ∃ before call after g₀, calls = before ++ call :: after ∧ call.looksAt g.overlay = true ∧
        (∀ later ∈ after, later.looksAt g.overlay = false) ∧
        (Host.run (before ++ [call]) start).globe = some g₀ ∧ g₀.overlay = g.overlay ∧
        h.page.cursor? g.overlay = some g₀.cursor ∧
        g.controller.rotation.isDragging = g₀.controller.rotation.isDragging ∧
        (h.page.cursor? g.overlay = some g.cursor ↔ g.controller.rotation.isDragging = true ∨
          g.controller.hover.isSome = g₀.controller.hover.isSome) ∧
        (after.any Call.bringsMarkers = false → h.page.cursor? g.overlay = some g.cursor) := by
  intro start h g hg
  have hstart : start.Attended := by
    refine ⟨?_, rfl, nofun⟩
    constructor <;> exact fun _ hmem => nomatch hmem
  obtain ⟨-, hlooks⟩ := hstart.run rfl hcalls
  obtain ⟨before, call, after, rfl, hlooked, hquiet, hshows, haside⟩ := hlooks g hg
  obtain ⟨g₀, hg₀, hoverlay, hdragging, hhover⟩ := haside.exists_globe hg
  have hcursor : h.page.cursor? g.overlay = some g₀.cursor := by
    rw [Page.cursor?, haside.cursors, hoverlay]
    exact hshows g₀ hg₀
  have hright : h.page.cursor? g.overlay = some g.cursor ↔
      g.controller.rotation.isDragging = true ∨
        g.controller.hover.isSome = g₀.controller.hover.isSome := by
    rw [hcursor, Option.some_inj]
    exact MountedGlobe.cursor_eq_iff hdragging
  exact ⟨before, call, after, g₀, rfl, hlooked, hquiet, hg₀, hoverlay.symm, hcursor, hdragging,
    hright, fun hnew => hright.mpr (.inr (congrArg _ (hhover hnew)))⟩

/-- A globe that is pressed, drawn, resized and given new heat shows that it is held. -/
theorem cursor_of_last_look_pressed :
    let calls : List (Call Unseeded) := [.mount .mk "g" none, .pointer 1 .down ⟨10, 10⟩,
      .frames 16, .resized "g", .setHeat "[]"]
    let start : Host Unseeded Float := onFreshPage [("g", ⟨300, 300⟩)] {} 0 0
    ∃ g, (Host.run calls start).globe = some g ∧
      (Host.run calls start).page.cursor? g.overlay = some g.cursor := by
  intro calls start
  have hcalls : ∀ call ∈ calls, call ≠ .setHandler (some .clearMarkers) := by
    simp [calls]
  have hmounted : (Host.run calls start).globe.isSome = true := by decide +kernel
  obtain ⟨g, hg⟩ := Option.isSome_iff_exists.mp hmounted
  obtain ⟨before, call, after, _, hsplit, _, _, _, _, _, _, _, hright⟩ :=
    cursor_of_last_look [("g", ⟨300, 300⟩)] {} 0 0 calls hcalls g hg
  have hnew : calls.any Call.bringsMarkers = false := rfl
  have hlater : after.any Call.bringsMarkers = false := by
    rw [hsplit] at hnew
    simp only [List.any_append, List.any_cons, Bool.or_eq_false_iff] at hnew
    exact hnew.2.2
  exact ⟨g, hg, hright hlater⟩

end Host

/-! ### A cursor that is left over -/

/-- A marker where the meridian crosses the equator. -/
def originMarker : Marker Float := ⟨⟨0, 0⟩, 0.05, some "here", false⟩

section
variable (hsin : Float.sin 0 = 0) (hcos : Float.cos 0 = 1)
include hsin hcos

theorem project_originMarker :
    View.project ⟨0, 0, 300⟩ originMarker.location = (⟨150, 150, 1⟩ : Projected Float) := by
  have hsin' : Scalar.sin (0 : Float) = 0 := hsin
  have hcos' : Scalar.cos (0 : Float) = 1 := hcos
  have hplace : originMarker.location = ⟨0, 0⟩ := rfl
  have hangle : Scalar.radians (0 : Float) = 0 := by decide +kernel
  have hazimuth : (0 : Float) + 0 = 0 := by decide +kernel
  simp only [View.project, LatLon.onSphere, LatLon.latRadians, LatLon.lonRadians, Vec3.rotateX,
    hplace, hangle, hazimuth, hsin', hcos']
  decide +kernel

theorem hitTest_originMarker :
    hitTest [originMarker] ⟨150, 150⟩ 0 0 ⟨300, 300⟩ ⟨10, 200⟩ =
      some ⟨0, originMarker, ⟨150, 150⟩⟩ := by
  have hscale : (⟨300, 300⟩ : SurfaceSize Float).scaleFactor = 1 := by decide +kernel
  simp only [hitTest, hscale, firstHit?, Marker.hitPoint?, project_originMarker hsin hcos]
  decide +kernel

end

theorem Controller.hover_emptied {σ α : Type} [Scalar α] {c : Controller σ α} {position : Vec2 α}
    {hit : MarkerHit α} (hhit : c.hitTest position = some hit)
    (hfree : c.rotation.isDragging = false) :
    let pointed := c.pointerMove position
    pointed.hover.isSome = true ∧ (pointed.setMarkers []).hover = none ∧
      pointed.rotation.isDragging = false ∧
      (pointed.setMarkers []).rotation.isDragging = false := by
  intro pointed
  have hpointed : pointed =
      { c with
        pointer := some position
        hover := c.hitTest position
        log := hoverLog (c.hitTest position) c } := by
    simp only [pointed, pointerMove, hfree, Bool.false_eq_true, if_false, updateHover, setHover_eq]
    rfl
  have hheld : pointed.rotation.isDragging = false := by
    rw [hpointed]
    exact hfree
  have hnowhere (c : Controller σ α) (hc : c.scene.markers = []) (p : Vec2 α) :
      c.hitTest p = none := by
    simp [hitTest, GlobeView.hitTest, hc, firstHit?]
  refine ⟨by rw [hpointed, hhit]; rfl, ?_, hheld, ?_⟩
  · simp only [setMarkers, refreshHover_eq, setHover_eq, freshHover, hpointed]
    simp [hnowhere, hfree]
  · simp only [setMarkers, refreshHover_eq, setHover_eq]
    exact hheld

namespace Host

theorem pointerCall_move {σ α : Type} [Scalar α] {h : Host σ α} {g : MountedGlobe σ α}
    (hg : h.globe = some g) (position : Vec2 α) :
    let moved : MountedGlobe σ α := { g with controller := g.controller.pointerMove position }
    h.pointerCall g.overlay (.move position) =
      { page := moved.showCursor h.page, globe := some moved } := by
  intro moved
  simp only [pointerCall, hg, if_true]
  rfl

/-- The cursor over a globe need not show its state: the only marker is hovered when a text takes the
markers away, and the cursor still is that of a hovered marker.  All that this asks of the sine and
the cosine of doubles is that they are exact at zero. -/
theorem cursor_left_over :
    let calls : List (Call Unseeded) :=
      [.mount .mk "g" (some "\x7b\"theta\": 0\x7d"),
        .setMarkers "[\x7b\"location\": [0, 0], \"size\": 0.05, \"tooltip\": \"here\"\x7d]",
        .pointer 1 .move ⟨150, 150⟩, .setMarkers "[]"]
    let h := Host.run calls (onFreshPage [("g", ⟨300, 300⟩)] {} 0 0)
    ¬ (Float.sin 0 = 0 ∧ Float.cos 0 = 1 ∧
        ∀ g, h.globe = some g → h.page.cursor? g.overlay = some g.cursor) := by
  rintro calls h ⟨hsin, hcos, hshows⟩
  let marked : Host Unseeded Float :=
    Host.run (calls.take 2) (onFreshPage [("g", ⟨300, 300⟩)] {} 0 0)
  have hstate : marked.globe.map (fun g => (g.overlay, g.controller.scene.markers,
      g.controller.surfaceSize, g.controller.hitOptions, g.controller.rotation)) =
      some (1, [originMarker], ⟨300, 300⟩, ⟨10, 200⟩, .atRest 0 0) := by decide +kernel
  have hlisteners : marked.page.listeners = PointerKind.all.map (1, ·) := by decide +kernel
  have hempty : Setting.read "[]" .markers = .ok (.markers []) := rfl
  obtain ⟨g, hg, hfields⟩ := Option.map_eq_some_iff.mp hstate
  obtain ⟨hoverlay, hmarkers, hsize, hoptions, hrotation⟩ := by simpa using hfields
  let pointed : MountedGlobe Unseeded Float :=
    { g with controller := g.controller.pointerMove ⟨150, 150⟩ }
  have hhit : g.controller.hitTest ⟨150, 150⟩ = some ⟨0, originMarker, ⟨150, 150⟩⟩ := by
    rw [Controller.hitTest, hmarkers, hsize, hoptions, hrotation]
    exact hitTest_originMarker hsin hcos
  have hfree : g.controller.rotation.isDragging = false := by
    rw [hrotation]
    rfl
  obtain ⟨hhovered, hunhovered, hfree₁, hfree₂⟩ := Controller.hover_emptied hhit hfree
  have hmoved : (marked.pointer 1 .move ⟨150, 150⟩).2 =
      { page := pointed.showCursor marked.page, globe := some pointed } := by
    rw [pointer_of_globe hlisteners, if_pos rfl, ← hoverlay]
    exact pointerCall_move hg _
  have hemptied : h =
      { page := pointed.showCursor marked.page
        globe := some { pointed with controller := pointed.controller.setMarkers [] } } := by
    show (Setting.markers.set "[]" (marked.pointer 1 .move ⟨150, 150⟩).2).2 = _
    rw [hmoved, Setting.set_eq, hempty]
    rfl
  have hcursor : h.page.cursor? pointed.overlay = some pointed.cursor := by
    rw [hemptied]
    exact Page.cursor?_setCursor ..
  have hshown := hshows _ (congrArg Host.globe hemptied)
  have hsame := Option.some.inj (hcursor.symm.trans hshown)
  simp [MountedGlobe.cursor, pointed, hhovered, hunhovered, hfree₁, hfree₂] at hsame

end Host
end GlobeView
