import GlobeView.Proofs.HostRuns

/-! # Mounts that fail

A mount that fails leaves no globe, no listener and no animation frame behind.  But what it has
acquired when it fails half way stays on the page: the observer of the element, and the lower canvas
if only the upper one finds no room (`Host.mount_failure_leaves`).  A globe that has started owns
what it holds, so without its listeners it is released as a whole.

What a mount acquires is told from what was there before by its numbers, which are never used twice
(`Holdings.Numbered`). -/

namespace GlobeView

/-! ### Numbers -/

theorem filter_number_append {β : Type} {number : β → ℕ} {n : ℕ} {old : List β}
    (hold : ∀ b ∈ old, number b < n) (new : List β) :
    (old ++ new).filter (number · != n) = old ++ new.filter (number · != n) := by
  rw [List.filter_append, List.filter_eq_self.mpr fun b hb => bne_iff_ne.mpr (hold b hb).ne]

/-- What is held has a number that was given out. -/
structure Holdings.Numbered (s : Holdings) : Prop where
  attached : ∀ a ∈ s.attached, a.2 < s.canvases
  listeners : ∀ l ∈ s.listeners, l.1 < s.canvases
  observing : ∀ o ∈ s.observing, o.1 < s.observers
  pending : ∀ r ∈ s.pending, r < s.requests

namespace Holdings.Numbered

variable {s : Holdings}

theorem shrink (h : s.Numbered) {attached : List (String × ℕ)} {listeners : List (ℕ × PointerKind)}
    {observing : List (ℕ × String)} {pending disconnected : List ℕ}
    (hattached : attached ⊆ s.attached) (hlisteners : listeners ⊆ s.listeners)
    (hobserving : observing ⊆ s.observing) (hpending : pending ⊆ s.pending) :
    ({ s with
      attached := attached
      listeners := listeners
      observing := observing
      pending := pending
      disconnected := disconnected } : Holdings).Numbered where
  attached a ha := h.attached a (hattached ha)
  listeners l hl := h.listeners l (hlisteners hl)
  observing o ho := h.observing o (hobserving ho)
  pending r hr := h.pending r (hpending hr)

theorem request (h : s.Numbered) :
    ({ s with
      requests := s.requests + 1
      pending := s.pending ++ [s.requests] } : Holdings).Numbered where
  attached := h.attached
  listeners := h.listeners
  observing := h.observing
  pending r hr := by
    obtain hr | hr := List.mem_append.mp hr
    · exact (h.pending r hr).trans (Nat.lt_succ_self _)
    · obtain rfl := List.mem_singleton.mp hr
      exact Nat.lt_succ_self _

theorem listen (h : s.Numbered) {canvas : ℕ} (hcanvas : canvas < s.canvases)
    (kinds : List PointerKind) :
    ({ s with listeners := s.listeners ++ kinds.map (canvas, ·) } : Holdings).Numbered where
  attached := h.attached
  observing := h.observing
  pending := h.pending
  listeners l hl := by
    obtain hl | hl := List.mem_append.mp hl
    · exact h.listeners l hl
    · obtain ⟨kind, _, rfl⟩ := List.mem_map.mp hl
      exact hcanvas

theorem mount (h : s.Numbered) (id : String) {made : ℕ} (hmade : s.canvases ≤ made)
    {canvases : List (String × ℕ)} (hcanvases : ∀ a ∈ canvases, a.2 < made) :
    ({ s with
      attached := s.attached ++ canvases
      observing := s.observing ++ [(s.observers, id)]
      canvases := made
      observers := s.observers + 1 } : Holdings).Numbered where
  pending := h.pending
  listeners l hl := (h.listeners l hl).trans_le hmade
  attached a ha := by
    obtain ha | ha := List.mem_append.mp ha
    · exact (h.attached a ha).trans_le hmade
    · exact hcanvases a ha
  observing o ho := by
    obtain ho | ho := List.mem_append.mp ho
    · exact (h.observing o ho).trans (Nat.lt_succ_self _)
    · obtain rfl := List.mem_singleton.mp ho
      exact Nat.lt_succ_self _

end Holdings.Numbered

namespace RefreshClock

variable {κ α : Type}

/-- A clock either requests one more animation frame or leaves everything as it is. -/
theorem keepAsking_cases (c : RefreshClock κ α) (p : Page α) :
    (c.keepAsking p).1.request = c.request ∧ (c.keepAsking p).2.holdings = p.holdings ∨
      p.holdings.hasWindow = true ∧ (c.keepAsking p).1.request = some p.requests ∧
        (c.keepAsking p).2.holdings =
          { p.holdings with
            requests := p.holdings.requests + 1
            pending := p.holdings.pending ++ [p.holdings.requests] } := by
  unfold keepAsking
  split_ifs with hneeded
  · exact .inl ⟨rfl, rfl⟩
  have hrequest : c.request = none := by
    cases hc : c.request with
    | none => rfl
    | some r => simp [hc] at hneeded
  unfold Page.requestFrame
  split_ifs with hwindow hgrants
  · exact .inl ⟨hrequest.symm, rfl⟩
  · exact .inl ⟨hrequest.symm, Page.holdings_write rfl p⟩
  · have hhas : p.features.hasWindow = true := by simpa using hwindow
    refine .inr ⟨hhas, rfl, ?_⟩
    exact Page.holdings_write (p := { p with requests := _, pending := _ }) rfl

theorem exists_holdings_keepAsking (c : RefreshClock κ α) (p : Page α) :
    ∃ requests pending, (c.keepAsking p).2.holdings =
      { p.holdings with requests := requests, pending := pending } := by
  obtain ⟨_, hsame⟩ | ⟨_, _, hrequested⟩ := c.keepAsking_cases p
  · exact ⟨_, _, hsame⟩
  · exact ⟨_, _, hrequested⟩

theorem numbered_keepAsking (c : RefreshClock κ α) {p : Page α} (h : p.holdings.Numbered) :
    (c.keepAsking p).2.holdings.Numbered := by
  obtain ⟨_, hsame⟩ | ⟨_, _, hrequested⟩ := c.keepAsking_cases p
  · rwa [hsame]
  · rw [hrequested]
    exact h.request

/-- A clock that takes back a request leaves those that were open before it. -/
theorem openAfter_keepAsking {c : RefreshClock κ α} {p : Page α} (hrequest : c.request = none)
    (hpending : ∀ r ∈ p.pending, r < p.requests) :
    (c.keepAsking p).1.openAfter (c.keepAsking p).2.holdings = p.pending := by
  obtain ⟨hsame, hp⟩ | ⟨hwindow, hnew, hp⟩ := c.keepAsking_cases p
  · rw [openAfter_of_none (hsame.trans hrequest), hp]
    rfl
  · have hgone : (p.pending ++ [p.requests]).filter (· != p.requests) = p.pending := by
      rw [filter_number_append hpending]
      simp
    simp only [openAfter, hnew, hp, hwindow, if_true]
    exact hgone

theorem openAfter_subset (c : RefreshClock κ α) (s : Holdings) : c.openAfter s ⊆ s.pending := by
  unfold openAfter
  split
  · split_ifs
    · exact List.filter_subset_self _
    · exact List.Subset.refl _
  · exact List.Subset.refl _

end RefreshClock

namespace MountedGlobe

variable {σ α : Type}

theorem numbered_releaseHearing (heard : List PointerKind) (g : MountedGlobe σ α) {p : Page α}
    (h : p.holdings.Numbered) : (g.releaseHearing heard p).holdings.Numbered := by
  rw [holdings_releaseHearing]
  exact h.shrink (List.Subset.trans (List.filter_subset_self _) (List.filter_subset_self _))
    (List.filter_subset_self _) (List.filter_subset_self _) (g.clock.openAfter_subset _)

variable [Scalar α] {source : σ} {id : String} {config : Config α} {size : ContainerSize α}
  {observer sphere overlay : ℕ} {p : Page α}

theorem numbered_furnish (h : p.holdings.Numbered) (hoverlay : overlay < p.canvases) :
    (furnish source id config size observer sphere overlay p).2.holdings.Numbered := by
  obtain ⟨controller, drawn, hdrawn, hfurnish⟩ :=
    furnish_eq source id config size observer sphere overlay p
  obtain ⟨requests, pending, hasked⟩ := RefreshClock.drawing.exists_holdings_keepAsking drawn
  have hmade : overlay < (RefreshClock.drawing.keepAsking drawn).2.holdings.canvases := by
    rw [hasked, hdrawn]
    exact hoverlay
  have hnumbered := RefreshClock.drawing.numbered_keepAsking (hdrawn ▸ h)
  rw [hfurnish]
  generalize RefreshClock.drawing.keepAsking drawn = result at hmade hnumbered ⊢
  obtain ⟨clock, asked⟩ := result
  have hheard : (asked.tryListen overlay PointerKind.all).2.holdings.Numbered := by
    rw [Page.holdings_tryListen]
    exact hnumbered.listen hmade _
  simp only
  split_ifs
  · rwa [holdings_showCursor]
  · exact numbered_releaseHearing _ _ hheard

/-- Whether or not a mount fails, numbers are not used twice. -/
theorem numbered_mount (h : p.holdings.Numbered) (source : σ) (id : String) (config : Config α) :
    (mount source id config p).2.holdings.Numbered := by
  have hcase := mountCase source id config p
  generalize mount source id config p = result at hcase ⊢
  cases hcase with
  | refused => exact h
  | @stopped e p' made left _ hleft hmade hp' =>
      have hnew : ∀ a ∈ left, a.2 < made := by
        intro a ha
        rw [hleft] at ha
        split_ifs at ha with hroom
        · obtain rfl := List.mem_singleton.mp ha
          rw [hleft, if_pos hroom] at hmade
          exact hmade
        · cases ha
      show p'.holdings.Numbered
      rw [hp']
      exact h.mount id ((Nat.le_add_right _ _).trans hmade) hnew
  | @started size p' hp' =>
      have hnew : ∀ a ∈ [(id, p.canvases), (id, p.canvases + 1)], a.2 < p.canvases + 2 := by
        simp
      have hmade : p'.canvases = p.canvases + 2 := congrArg Holdings.canvases hp'
      refine numbered_furnish ?_ (by omega)
      rw [hp']
      exact h.mount id (Nat.le_add_right _ 2) hnew

/-- A globe that lacks listeners gives back what it was started on. -/
theorem furnish_error {e : PageFault} {p' : Page α}
    (hfail : furnish source id config size observer sphere overlay p = (.error e, p'))
    (hlisteners : ∀ l ∈ p.listeners, l.1 ≠ overlay) (hpending : ∀ r ∈ p.pending, r < p.requests) :
    e = .listenFailed ∧ p'.listeners = p.listeners ∧ p'.pending = p.pending ∧
      p'.attached = (p.attached.filter (·.2 != overlay)).filter (·.2 != sphere) ∧
      p'.observing = p.observing.filter (·.1 != observer) := by
  obtain ⟨controller, drawn, hdrawn, hfurnish⟩ :=
    furnish_eq source id config size observer sphere overlay p
  have hback : (RefreshClock.drawing.keepAsking drawn).1.openAfter
      (RefreshClock.drawing.keepAsking drawn).2.holdings = p.pending := by
    have hsame : drawn.pending = p.pending := congrArg Holdings.pending hdrawn
    have hnext : drawn.requests = p.requests := congrArg Holdings.requests hdrawn
    rw [RefreshClock.openAfter_keepAsking rfl (by rw [hsame, hnext]; exact hpending), hsame]
  obtain ⟨requests, pending, hasked⟩ := RefreshClock.drawing.exists_holdings_keepAsking drawn
  rw [hfurnish] at hfail
  simp only at hfail
  split_ifs at hfail
  · cases (Prod.mk.inj hfail).1
  obtain ⟨he, hp'⟩ := Prod.mk.inj hfail
  have hheld := congrArg Page.holdings hp'
  rw [holdings_releaseHearing, Page.holdings_tryListen] at hheld
  have hpending' : p'.pending = p.pending := (congrArg Holdings.pending hheld).symm.trans hback
  refine ⟨(Except.error.inj he).symm, ?_, hpending', ?_, ?_⟩
  · refine (congrArg Holdings.listeners hheld).symm.trans ?_
    generalize (Page.tryListen overlay PointerKind.all _).1 = heard
    have hold : p.listeners.filter (fun l => heard.all fun kind => l != (overlay, kind)) =
        p.listeners := by
      rw [List.filter_eq_self]
      intro l hl
      rw [List.all_eq_true]
      exact fun kind _ => bne_iff_ne.mpr fun heq => hlisteners l hl (congrArg Prod.fst heq)
    have hnew : (heard.map (overlay, ·)).filter
        (fun l => heard.all fun kind => l != (overlay, kind)) = [] := by
      simp [List.filter_eq_nil_iff]
    have hbefore : (RefreshClock.drawing.keepAsking drawn).2.holdings.listeners = p.listeners := by
      rw [hasked, hdrawn]
      rfl
    simp only [hbefore, List.filter_append, hold, hnew, List.append_nil]
  · refine (congrArg Holdings.attached hheld).symm.trans ?_
    rw [hasked, hdrawn]
    rfl
  · refine (congrArg Holdings.observing hheld).symm.trans ?_
    rw [hasked, hdrawn]
    rfl

/-- What a failed mount leaves behind. -/
theorem mount_error (h : p.holdings.Numbered) {e : PageFault} {p' : Page α}
    (hfail : mount source id config p = (.error e, p')) :
    p'.listeners = p.listeners ∧ p'.pending = p.pending ∧
      p'.observing = p.observing ++ (if e.isHalfway then [(p.observers, id)] else []) ∧
      p'.attached = p.attached ++
        (if e = .appendFailed ∧ p.features.appends = some 1 then [(id, p.canvases)] else []) := by
  have hcase := mountCase source id config p
  rw [hfail] at hcase
  generalize hresult :
    ((.error e : Except PageFault (MountedGlobe σ α)), p') = result at hcase
  cases hcase with
  | refused he =>
      obtain ⟨hsame, rfl⟩ := Prod.mk.inj hresult
      obtain rfl := Except.error.inj hsame
      have hnot : e ≠ .appendFailed := by
        rintro rfl
        cases he
      simp [he, hnot]
  | stopped he hleft _ hp' =>
      obtain ⟨hsame, rfl⟩ := Prod.mk.inj hresult
      obtain rfl := Except.error.inj hsame
      refine ⟨congrArg Holdings.listeners hp', congrArg Holdings.pending hp', ?_, ?_⟩
      · rw [if_pos he]
        exact congrArg Holdings.observing hp'
      · rw [← hleft]
        exact congrArg Holdings.attached hp'
  | @started size p₁ hp₁ =>
      have hlisteners : p₁.listeners = p.listeners := congrArg Holdings.listeners hp₁
      have hpending : p₁.pending = p.pending := congrArg Holdings.pending hp₁
      have hattached : p₁.attached =
          p.attached ++ [(id, p.canvases), (id, p.canvases + 1)] := congrArg Holdings.attached hp₁
      have hobserving : p₁.observing = p.observing ++ [(p.observers, id)] :=
        congrArg Holdings.observing hp₁
      have hrequests : p₁.requests = p.requests := congrArg Holdings.requests hp₁
      obtain ⟨rfl, hlisteners', hpending', hattached', hobserving'⟩ :=
        furnish_error hresult.symm
          (hlisteners ▸ fun l hl => ((h.listeners l hl).trans (Nat.lt_succ_self _)).ne)
          (by rw [hpending, hrequests]; exact h.pending)
      refine ⟨hlisteners'.trans hlisteners, hpending'.trans hpending, ?_, ?_⟩
      · have hold : ∀ o ∈ p.observing, o.1 < p.observers := h.observing
        rw [hobserving', hobserving, filter_number_append hold]
        simp [PageFault.isHalfway]
      · have hold : ∀ a ∈ p.attached, a.2 < p.canvases := h.attached
        have hupper : ∀ a ∈ p.attached, a.2 < p.canvases + 1 :=
          fun a ha => (hold a ha).trans (Nat.lt_succ_self _)
        rw [hattached', hattached, filter_number_append hupper, filter_number_append hold]
        simp

theorem holdings_foldl_draw [PhaseSource σ α] (frame : Frame α) (taken : List (ℕ × Unit))
    (g : MountedGlobe σ α) (p : Page α) :
    (taken.foldl (fun (g, p) _ => g.draw frame p) (g, p)).2.holdings = p.holdings := by
  induction taken generalizing g p with
  | nil => rfl
  | cons _ rest ih => exact (ih _ _).trans (Page.holdings_drawAll ..)

theorem numbered_refresh [PhaseSource σ α] (g : MountedGlobe σ α) (h : p.holdings.Numbered)
    (stamp : α) : (g.refresh stamp p).2.holdings.Numbered := by
  apply RefreshClock.numbered_keepAsking
  rwa [holdings_foldl_draw]

end MountedGlobe

/-! ### Runs -/

namespace Host

section
variable {σ α : Type} {h : Host σ α}

theorem globe_unmount (h : Host σ α) : h.unmount.globe = none := by
  cases hg : h.globe <;> simp [unmount, hg]

theorem numbered_unmount (hn : h.page.holdings.Numbered) : h.unmount.page.holdings.Numbered := by
  unfold unmount
  split
  · exact MountedGlobe.numbered_releaseHearing _ _ hn
  · exact hn

theorem numbered_write (hn : h.page.holdings.Numbered) {acts : List (Act α)}
    (hacts : acts.filterMap Act.disconnected? = []) : (h.page.write acts).holdings.Numbered := by
  rwa [Page.holdings_write hacts]

theorem numbered_setHandler (hn : h.page.holdings.Numbered) (handler : Option ClickHandler) :
    (h.setHandler handler).2.page.holdings.Numbered := by
  unfold setHandler
  split <;> exact hn

variable [Scalar α]

theorem numbered_callHandler (hn : h.page.holdings.Numbered) (handler : ClickHandler)
    (marker : Marker α) : (h.callHandler handler marker).page.holdings.Numbered := by
  let called : Host σ α := { h with page := h.page.write [.callHandler marker] }
  have hcalled : called.page.holdings.Numbered := numbered_write hn rfl
  cases handler with
  | ignore => exact hcalled
  | fail reason => exact numbered_write hcalled rfl
  | unmount => exact numbered_unmount hcalled
  | clearMarkers =>
      simp only [callHandler, modifyController]
      split <;> exact hcalled
  | uninstall =>
      exact numbered_setHandler hcalled none

theorem numbered_pointerCall (hn : h.page.holdings.Numbered) (canvas : ℕ)
    (event : PointerEvent α) : (h.pointerCall canvas event).page.holdings.Numbered := by
  unfold pointerCall
  split
  · next g _ =>
    have hhandled : (g.handle event h.page).2.2.holdings.Numbered := by
      show (Page.setCursor _ _ _).holdings.Numbered
      rwa [Page.holdings_setCursor]
    split
    · simp only
      split
      · exact numbered_callHandler (h := ⟨_, _⟩) hhandled _ _
      · exact hhandled
    · exact numbered_write hn rfl
  · exact numbered_write hn rfl

theorem numbered_pointer (hn : h.page.holdings.Numbered) (canvas : ℕ) (kind : PointerKind)
    (position : Vec2 α) : (h.pointer canvas kind position).2.page.holdings.Numbered := by
  unfold pointer
  induction h.page.listenerCount canvas kind with
  | zero => exact hn
  | succ count ih => exact numbered_pointerCall ih _ _

theorem numbered_elementResized (hn : h.page.holdings.Numbered) (id : String) :
    (h.elementResized id).2.page.holdings.Numbered := by
  let P (h : Host σ α) : Prop := h.page.holdings.Numbered
  refine List.foldlRecOn (motive := P) _ observerCall hn fun h hn observer _ => ?_
  unfold observerCall
  split
  · split
    · show (Page.drawAll _ _ _ _).holdings.Numbered
      rwa [Page.holdings_drawAll]
    · exact numbered_write hn rfl
  · exact numbered_write hn rfl

theorem numbered_animationFrames [PhaseSource σ α] (hn : h.page.holdings.Numbered) (stamp : α) :
    (h.animationFrames stamp).2.page.holdings.Numbered := by
  have htaken : h.page.takePending.2.holdings.Numbered :=
    hn.shrink (List.Subset.refl _) (List.Subset.refl _) (List.Subset.refl _) (List.nil_subset _)
  let P (h : Host σ α) : Prop := h.page.holdings.Numbered
  refine List.foldlRecOn (motive := P) _ (frameCall stamp) htaken fun h hn request _ => ?_
  unfold frameCall
  split
  · split
    · exact MountedGlobe.numbered_refresh _ hn stamp
    · exact numbered_write hn rfl
  · exact numbered_write hn rfl

theorem numbered_mount (hn : h.page.holdings.Numbered) (source : σ) (id : String)
    (config : Config α) : (h.mount source id config).2.page.holdings.Numbered := by
  have hmount := MountedGlobe.numbered_mount (numbered_unmount hn) source id config
  unfold mount
  split <;> next heq => rwa [heq] at hmount

end

variable {σ : Type} [PhaseSource σ Float] {h : Host σ Float}

omit [PhaseSource σ Float] in
theorem page_supply {β : Type} (value : Except HostError β)
    (f : β → Controller σ Float → Controller σ Float) (h : Host σ Float) :
    (supply value f h).2.page = h.page := by
  unfold supply modifyController
  split
  · rfl
  · cases h.globe <;> rfl

/-- Calls of any kind use a number once at most. -/
theorem numbered_act (hn : h.page.holdings.Numbered) (call : Call σ) :
    (act call h).2.page.holdings.Numbered := by
  have hsupply {β : Type} (value : Except HostError β)
      (f : β → Controller σ Float → Controller σ Float) :
      (supply value f h).2.page.holdings.Numbered := by
    rwa [page_supply]
  cases call with
  | start => exact numbered_write hn rfl
  | mount source id config =>
      simp only [act, mountText]
      split
      · exact numbered_unmount hn
      · exact numbered_mount hn source id _
  | unmount => exact numbered_unmount hn
  | setScene text => exact hsupply _ _
  | setMarkers text => exact hsupply _ _
  | setConnections text => exact hsupply _ _
  | setHeat text => exact hsupply _ _
  | setHandler handler =>
      simp only [act, installHandler_snd]
      exact numbered_setHandler hn handler
  | pointer canvas kind position => exact numbered_pointer hn canvas kind position
  | resized id => exact numbered_elementResized hn id
  | frames stamp => exact numbered_animationFrames hn stamp
  | surroundings elements features displayClock wallClock =>
      exact ⟨hn.attached, hn.listeners, hn.observing, hn.pending⟩

theorem numbered_run (calls : List (Call σ)) (hn : h.page.holdings.Numbered) :
    (run calls h).page.holdings.Numbered := by
  induction calls generalizing h with
  | nil => exact hn
  | cons call rest ih => exact ih (numbered_act hn call)

/-! ### Failures -/

end Host

/-- A failure of a mount that has observed the element and not started a globe. -/
def HostError.isHalfway : HostError → Bool
  | .page fault => fault.isHalfway
  | _ => false

namespace Host

variable {σ : Type} [PhaseSource σ Float]

/-- **A mount that fails leaves what it acquired half way.**  After any calls to the host of a fresh
page, whatever the page is able to do by then: a mount that fails leaves no globe, and the listeners
and animation frames are those that were left when the globe of before was taken off.  So are the
observers and canvases, except that the element stays observed if mounting stopped after that and
before the globe had started, and that the lower canvas stays in the element if there was room for
this one only. -/
theorem mount_failure_leaves (elements : List (String × ContainerSize Float)) (features : Features)
    (displayClock wallClock : Float) (calls : List (Call σ)) (source : σ) (id : String)
    (config : Option String) :
    let h := run calls (onFreshPage elements features displayClock wallClock)
    let before := h.unmount.page
    ∀ e h', h.mountText source id config = (.error e, h') →
      h'.globe = none ∧ h'.page.listeners = before.listeners ∧ h'.page.pending = before.pending ∧
      h'.page.observing =
        before.observing ++ (if e.isHalfway then [(before.observers, id)] else []) ∧
      h'.page.attached =
        before.attached ++
          (if e = .page .appendFailed ∧ before.features.appends = some 1 then
            [(id, before.canvases)] else []) := by
  intro h before e h' hfail
  have hn : before.holdings.Numbered := by
    refine numbered_unmount (numbered_run calls ?_)
    constructor <;> exact fun _ hmem => nomatch hmem
  unfold mountText at hfail
  split at hfail
  · obtain ⟨he, rfl⟩ := Prod.mk.inj hfail
    obtain rfl := Except.error.inj he
    refine ⟨globe_unmount h, rfl, rfl, ?_, ?_⟩ <;> simp [HostError.isHalfway, before]
  · next c _ =>
    simp only [mount] at hfail
    split at hfail
    · cases (Prod.mk.inj hfail).1
    · next fault page hmount =>
      obtain ⟨he, rfl⟩ := Prod.mk.inj hfail
      obtain rfl := Except.error.inj he
      obtain ⟨hlisteners, hpending, hobserving, hattached⟩ := MountedGlobe.mount_error hn hmount
      refine ⟨rfl, hlisteners, hpending, hobserving, ?_⟩
      simpa using hattached

/-- An element that has room for one canvas keeps it, and stays observed. -/
theorem mount_failure_leaves_lower :
    let elements : List (String × ContainerSize Float) := [("g", ⟨100, 100⟩)]
    let calls : List (Call Unseeded) := [.surroundings elements { appends := some 1 } 0 0]
    let h := run calls (onFreshPage elements {} 0 0)
    ∃ h', h.mountText Unseeded.mk "g" none = (.error (.page .appendFailed), h') ∧
      h'.globe = none ∧ h'.page.listeners = [] ∧ h'.page.pending = [] ∧
      h'.page.observing = [(0, "g")] ∧ h'.page.attached = [("g", 0)] := by
  intro elements calls h
  have hanswer : (h.mountText Unseeded.mk "g" none).1 = .error (.page .appendFailed) := by
    decide +kernel
  obtain ⟨hnone, hlisteners, hpending, hobserving, hattached⟩ :=
    mount_failure_leaves elements {} 0 0 calls Unseeded.mk "g" none _ _ (Prod.ext hanswer rfl)
  exact ⟨_, Prod.ext hanswer rfl, hnone, hlisteners, hpending, hobserving, hattached⟩

/-- Without a drawing context nothing is mounted, but the element stays observed. -/
theorem failed_mount_observes :
    let elements : List (String × ContainerSize Float) := [("g", ⟨100, 100⟩)]
    let calls : List (Call Unseeded) := [.surroundings elements { contexts := some 0 } 0 0]
    let h := run calls (onFreshPage elements {} 0 0)
    let (answer, h') := h.mountText Unseeded.mk "g" none
    answer = .error (.page .noContext) ∧ h.unmount.page.observing = [] ∧
      h'.page.observing = [(0, "g")] := by
  decide +kernel

end Host
end GlobeView
