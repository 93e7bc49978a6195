import GlobeView.Double.Arithmetic
import GlobeView.Proofs.ControllerTraces
import GlobeView.Random.Xoshiro

/-! # The two layers of a globe

The sphere shows the markers, the overlay shows connections and heat, and the three lists are
replaced together or one by one in a single scene.  A `Part` of a globe is a part of its state on
which every action acts by an event of its own, or not at all; what depends on that part only is
determined by the events (`Part.state_run`, `Part.Shows.trace`).

* The sphere is a part without connections, heat and metrics (`spherePart`): its frames, the clicked
  markers, the logged interactions and the log itself depend on nothing else.
* The overlay is a part without markers, and so without phases, hover, clicks and log
  (`overlayPart`): its frames and the rotation depend on nothing else. -/

namespace GlobeView.Controller

variable {σ α β γ δ : Type} [Scalar α]

/-! ### Parts -/

/-- What the events of a run give away, if `g e s` is what event `e` gives away in state `s`. -/
def answers (next : β → γ → β) (g : γ → β → List δ) : List γ → β → List δ
  | [], _ => []
  | e :: rest, s => g e s ++ answers next g rest (next s e)

/-- A part of a globe on which an action acts by its event, and not at all without one. -/
structure Part (σ α β γ : Type) [Scalar α] [PhaseSource σ α] where
  state : Controller σ α → β
  event? : Action α → Option γ
  next : β → γ → β
  state_act : ∀ a c, state (c.act a) = (event? a).elim (state c) (next (state c))

namespace Part

variable [PhaseSource σ α] (p : Part σ α β γ)

/-- The events of a run. -/
def events (actions : List (Action α)) : List γ := actions.filterMap p.event?

theorem state_run (actions : List (Action α)) (c : Controller σ α) :
    p.state (c.run actions) = (p.events actions).foldl p.next (p.state c) := by
  induction actions generalizing c with
  | nil => rfl
  | cons a rest ih =>
      have hrun : c.run (a :: rest) = (c.act a).run rest := rfl
      rw [hrun, ih, p.state_act, events, events, List.filterMap_cons]
      cases p.event? a <;> rfl

/-- What actions give away is what the part gives away at their events. -/
def Shows (f : Action α → Controller σ α → List δ) (g : γ → β → List δ) : Prop :=
  ∀ a c, f a c = (p.event? a).elim [] (g · (p.state c))

variable {p}

/-- What a run gives away of a part is determined by the events. -/
theorem Shows.trace {f : Action α → Controller σ α → List δ} {g : γ → β → List δ}
    (h : p.Shows f g) (actions : List (Action α)) (c : Controller σ α) :
    Controller.trace f actions c = answers p.next g (p.events actions) (p.state c) := by
  induction actions generalizing c with
  | nil => rfl
  | cons a rest ih =>
      rw [Controller.trace, h a c, ih, p.state_act, events, events, List.filterMap_cons]
      cases p.event? a <;> rfl

end Part

omit [Scalar α] in
/-- Two runs whose events agree have had the same events when they have had as many. -/
theorem filterMap_eq_of_prefix {event? : Action α → Option γ}
    {actions₁ actions₂ before₁ before₂ : List (Action α)}
    (h : actions₁.filterMap event? = actions₂.filterMap event?) (h₁ : before₁ <+: actions₁)
    (h₂ : before₂ <+: actions₂)
    (hlength : (before₁.filterMap event?).length = (before₂.filterMap event?).length) :
    before₁.filterMap event? = before₂.filterMap event? := by
  have hprefix₁ : before₁.filterMap event? <+: actions₁.filterMap event? := h₁.filterMap _
  have hprefix₂ : before₂.filterMap event? <+: actions₁.filterMap event? := h ▸ h₂.filterMap _
  exact (List.prefix_of_prefix_length_le hprefix₁ hprefix₂ (Nat.le_of_eq hlength)).eq_of_length
    hlength

/-! ### The sphere -/

/-- What an action is to the sphere: of a scene it takes the markers, and connections and heat are
nothing to it. -/
def Action.sphere? : Action α → Option (Action α)
  | .setScene scene => some (.setMarkers scene.markers)
  | .setConnections _ => none
  | .setHeat _ => none
  | a => some a

/-- A globe without its overlay. -/
def withoutOverlay (c : Controller σ α) : Controller σ α :=
  { c with scene := { markers := c.scene.markers }, metrics := .empty }

theorem withoutOverlay_handle (event : PointerEvent α) (c : Controller σ α) :
    (c.handle event).2.withoutOverlay = (c.withoutOverlay.handle event).2.withoutOverlay := by
  rw [handle_eq, handle_eq, handle_fst, handle_fst]
  cases event <;> rfl

section sphere
variable [PhaseSource σ α]

/-- The sphere is a part of the globe. -/
def spherePart : Part σ α (Controller σ α) (Action α) where
  state := withoutOverlay
  event? := Action.sphere?
  next c a := (c.act a).withoutOverlay
  state_act a c := by
    cases a with
    | pointer event => exact withoutOverlay_handle event c
    | resize container now =>
        simp only [act, resize_eq]
        rfl
    | settle container now =>
        simp only [act, settle_eq]
        rfl
    | setScene scene =>
        show (c.setScene scene).withoutOverlay =
          (c.withoutOverlay.setMarkers scene.markers).withoutOverlay
        simp only [setScene, setMarkers, refreshHover_eq, setHover_eq]
        rfl
    | setMarkers markers =>
        simp only [act, setMarkers, refreshHover_eq, setHover_eq]
        rfl
    | _ => rfl

theorem spherePart_frames :
    (spherePart (σ := σ) (α := α)).Shows (fun a c => (frameOf a c).map (·.sphere))
      (fun a c => (frameOf a c).map (·.sphere)) := by
  intro a c
  cases a <;> rfl

theorem spherePart_clicks : (spherePart (σ := σ) (α := α)).Shows clickOf clickOf := by
  intro a c
  cases a with
  | pointer event =>
      simp only [clickOf, handle_fst]
      cases event <;> rfl
  | _ => rfl

theorem spherePart_logged : (spherePart (σ := σ) (α := α)).Shows logged logged := by
  intro a c
  cases a <;> rfl

end sphere

/-! ### The overlay -/

/-- What an action is to the overlay: of a scene it takes the connections and the heat, and markers
and click handlers are nothing to it. -/
def Action.overlay? : Action α → Option (Action α)
  | .setScene scene => some (.setScene { scene with markers := [] })
  | .setMarkers _ => none
  | .onClick _ => none
  | .drainEvents => none
  | a => some a

/-- A globe without its markers: nothing breathes, is hovered, clicked or logged. -/
def withoutMarkers (c : Controller σ α) : Controller Unseeded α where
  config := c.config
  rotation := c.rotation
  sizer := c.sizer
  phases := .ofSource .mk
  scene := { connections := c.scene.connections, heat := c.scene.heat }
  pointer := c.pointer
  startedAt := c.startedAt
  log := .unbounded

theorem withoutMarkers_handle (event : PointerEvent α) (c : Controller σ α) :
    (c.handle event).2.withoutMarkers = (c.withoutMarkers.handle event).2.withoutMarkers := by
  rw [handle_eq, handle_eq]
  cases event <;> rfl

section overlay
variable [PhaseSource σ α]

/-- The overlay is a part of the globe. -/
def overlayPart : Part σ α (Controller Unseeded α) (Action α) where
  state := withoutMarkers
  event? := Action.overlay?
  next c a := (c.act a).withoutMarkers
  state_act a c := by
    cases a with
    | pointer event => exact withoutMarkers_handle event c
    | resize container now =>
        simp only [act, resize_eq]
        rfl
    | settle container now =>
        simp only [act, settle_eq]
        rfl
    | setScene scene =>
        simp only [act, setScene, refreshHover_eq, setHover_eq]
        rfl
    | setMarkers markers =>
        simp only [act, setMarkers, refreshHover_eq, setHover_eq]
        rfl
    | _ => rfl

theorem overlayPart_frames :
    (overlayPart (σ := σ) (α := α)).Shows (fun a c => (frameOf a c).map (·.overlay))
      (fun a c => (frameOf a c).map (·.overlay)) := by
  intro a c
  cases a <;> rfl

end overlay

/-! ### Two runs -/

theorem trace_map [PhaseSource σ α] (f : Action α → Controller σ α → List β) (g : β → γ)
    (actions : List (Action α)) (c : Controller σ α) :
    (trace f actions c).map g = trace (fun a c => (f a c).map g) actions c := by
  induction actions generalizing c with
  | nil => rfl
  | cons a rest ih => rw [trace, trace, List.map_append, ih]

/-- **The layers do not interfere.**  Take two globes with one configuration.

Suppose that they have the same seed and that their runs agree but for the connections and the heat.
Then after as many of the other actions in the one run as in the other, the spheres that were shown,
the markers that were clicked and the interactions that were logged are the same, and so are the
hover and the log as it stands, with its stamps.

Suppose instead that their runs agree but for the markers, the click handlers and the reading of the
log.  Then after as many of the other actions the overlays that were shown are the same, and both
globes are turned alike, whatever their seeds were. -/
theorem layers_do_not_interfere {σ' : Type} [PhaseSource σ α] [PhaseSource σ' α]
    (config : Config α) (source : σ) (source' : σ') :
    (∀ actions₁ actions₂ : List (Action α),
      actions₁.filterMap Action.sphere? = actions₂.filterMap Action.sphere? →
      ∀ before₁ before₂, before₁ <+: actions₁ → before₂ <+: actions₂ →
        (before₁.filterMap Action.sphere?).length = (before₂.filterMap Action.sphere?).length →
        let c := create config source
        (frames before₁ c).map (·.sphere) = (frames before₂ c).map (·.sphere) ∧
          (c.run before₁).hover = (c.run before₂).hover ∧
          clicks before₁ c = clicks before₂ c ∧
          history before₁ c = history before₂ c ∧
          (c.run before₁).log = (c.run before₂).log) ∧
    ∀ actions₁ actions₂ : List (Action α),
      actions₁.filterMap Action.overlay? = actions₂.filterMap Action.overlay? →
      ∀ before₁ before₂, before₁ <+: actions₁ → before₂ <+: actions₂ →
        (before₁.filterMap Action.overlay?).length = (before₂.filterMap Action.overlay?).length →
        let c := create config source
        let c' := create config source'
        (frames before₁ c).map (·.overlay) = (frames before₂ c').map (·.overlay) ∧
          (c.run before₁).rotation = (c'.run before₂).rotation := by
  constructor
  · intro actions₁ actions₂ hevents before₁ before₂ hbefore₁ hbefore₂ hlength c
    have hsame : spherePart.events before₁ = (spherePart (σ := σ)).events before₂ :=
      filterMap_eq_of_prefix hevents hbefore₁ hbefore₂ hlength
    have hstate : (c.run before₁).withoutOverlay = (c.run before₂).withoutOverlay :=
      calc (c.run before₁).withoutOverlay
          = (spherePart.events before₁).foldl spherePart.next c.withoutOverlay :=
            spherePart.state_run before₁ c
        _ = (spherePart.events before₂).foldl spherePart.next c.withoutOverlay := by rw [hsame]
        _ = (c.run before₂).withoutOverlay := (spherePart.state_run before₂ c).symm
    refine ⟨?_, congrArg (·.hover) hstate, ?_, ?_, congrArg (·.log) hstate⟩
    · rw [frames, frames, trace_map, trace_map, spherePart_frames.trace, spherePart_frames.trace,
        hsame]
    · rw [clicks, clicks, spherePart_clicks.trace, spherePart_clicks.trace, hsame]
    · rw [history, history, spherePart_logged.trace, spherePart_logged.trace, hsame]
  · intro actions₁ actions₂ hevents before₁ before₂ hbefore₁ hbefore₂ hlength c c'
    have hsame : (overlayPart (σ := σ)).events before₁ = (overlayPart (σ := σ')).events before₂ :=
      filterMap_eq_of_prefix hevents hbefore₁ hbefore₂ hlength
    have hstate : (c.run before₁).withoutMarkers = (c'.run before₂).withoutMarkers :=
      calc (c.run before₁).withoutMarkers
          = (overlayPart.events before₁).foldl overlayPart.next c.withoutMarkers :=
            overlayPart.state_run before₁ c
        _ = (overlayPart.events before₂).foldl overlayPart.next c'.withoutMarkers := by
            rw [hsame]
            rfl
        _ = (c'.run before₂).withoutMarkers := (overlayPart.state_run before₂ c').symm
    refine ⟨?_, congrArg (·.rotation) hstate⟩
    rw [frames, frames, trace_map, trace_map, overlayPart_frames.trace, overlayPart_frames.trace,
      hsame]
    rfl

/-- A globe that gets connections and heat besides its marker, and another one that gets them
besides two markers later on; both are clicked between two frames. -/
theorem layers_do_not_interfere_clicked :
    let config : Config Float := .default
    let c := create config (Random.Xoshiro.ofSeed 7)
    let c' := create config (Random.Xoshiro.ofSeed 8)
    let m : Marker Float := ⟨⟨10, 20⟩, 0.1, some "here", true⟩
    let link : Connection Float := ⟨⟨0, 0⟩, ⟨10, 20⟩⟩
    let bare : List (Action Float) :=
      [.setMarkers [m], .resize ⟨500, 400⟩ 0, .tick ⟨0, 0, 0⟩, .pointer (.up ⟨200, 160⟩),
        .tick ⟨1, 1, 1⟩]
    let linked : List (Action Float) :=
      [.setScene ⟨[m], [link], [⟨0, 0, 1⟩]⟩, .resize ⟨500, 400⟩ 0, .setHeat [], .tick ⟨0, 0, 0⟩,
        .pointer (.up ⟨200, 160⟩), .setConnections [link, link], .tick ⟨1, 1, 1⟩]
    let marked : List (Action Float) :=
      [.setScene ⟨[], [link], [⟨0, 0, 1⟩]⟩, .resize ⟨500, 400⟩ 0, .setHeat [], .tick ⟨0, 0, 0⟩,
        .setMarkers [m, m], .pointer (.up ⟨200, 160⟩), .setConnections [link, link],
        .tick ⟨1, 1, 1⟩]
    bare.filterMap Action.sphere? = linked.filterMap Action.sphere? ∧
      (frames bare c).length = 2 ∧
      (frames bare c).map (·.sphere) = (frames linked c).map (·.sphere) ∧
      (c.run bare).hover = (c.run linked).hover ∧ clicks bare c = clicks linked c ∧
      history bare c = history linked c ∧ (c.run bare).log = (c.run linked).log ∧
      linked.filterMap Action.overlay? = marked.filterMap Action.overlay? ∧
      (frames linked c).map (·.overlay) = (frames marked c').map (·.overlay) ∧
      (c.run linked).rotation = (c'.run marked).rotation := by
  intro config c c' m link bare linked marked
  obtain ⟨hsphere, hoverlay⟩ :=
    layers_do_not_interfere config (Random.Xoshiro.ofSeed 7) (Random.Xoshiro.ofSeed 8)
  obtain ⟨hspheres, hhover, hclicks, hhistory, hlog⟩ :=
    hsphere bare linked rfl bare linked List.prefix_rfl List.prefix_rfl rfl
  obtain ⟨hoverlays, hrotation⟩ :=
    hoverlay linked marked rfl linked marked List.prefix_rfl List.prefix_rfl rfl
  exact ⟨rfl, rfl, hspheres, hhover, hclicks, hhistory, hlog, rfl, hoverlays, hrotation⟩

end GlobeView.Controller
