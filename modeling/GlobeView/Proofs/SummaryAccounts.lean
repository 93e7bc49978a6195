import Mathlib.Data.Nat.ModEq
import GlobeView.Proofs.HeatMap
import GlobeView.Proofs.OverlayAccounting
import GlobeView.Proofs.SessionEnd
import GlobeView.Proofs.SizeAgreement
import GlobeView.Simulation

/-! # The accounts of a simulation

A simulation keeps two records of what its overlays show: the globe books every frame in its
counters, and the glows are read off the surface after each frame.  The heat of a frame comes from a
field that follows its script, and `HeatScript.fieldAfter` says what has happened to that field.

* A frame of a mounted globe shows one overlay, which accounts for the connections and the heat of
  the moment; it is booked and it is what the surface shows (`Session.Booked.advance_overlay`).
* Each step of a simulation keeps its records together (`Simulation.Consistent`), so they agree at
  the end (`Simulation.summary_accounts`). -/

namespace GlobeView

variable {σ τ α : Type}

/-! ### The heat of a script -/

namespace HeatScript

/-- What happens to the field at a frame: it fades, unless the frame is the first one, and then the
events of the frame are recorded. -/
def changesAt (s : HeatScript α) (frame : ℕ) : List (HeatField.Change α) :=
  (if 0 < frame then [.step] else []) ++
    (s.events.filter (·.frame = frame)).map fun e => .record e.location e.amount

variable [Scalar α]

/-- The field that a script makes of a cold one in so many frames. -/
def fieldAfter (s : HeatScript α) (frames : ℕ) : HeatField α :=
  (HeatField.ofDecay s.decay).changes ((List.range frames).flatMap s.changesAt)

theorem changes_changesAt (s : HeatScript α) (frame : ℕ) (field : HeatField α) :
    field.changes (s.changesAt frame) = s.advance frame field := by
  rw [changesAt, HeatField.changes_append, HeatField.changes, List.foldl_map]
  cases frame <;> rfl

theorem fieldAfter_succ (s : HeatScript α) (frame : ℕ) :
    s.fieldAfter (frame + 1) = s.advance frame (s.fieldAfter frame) := by
  rw [← changes_changesAt, fieldAfter, fieldAfter, ← HeatField.changes_append, List.range_succ,
    List.flatMap_append, List.flatMap_singleton]

end HeatScript

/-! ### One frame -/

/-- How many elements a frame accounts for. -/
def OverlayStats.elements (s : OverlayStats) : ℕ := s.glows + s.arcs + s.degenerate + s.hidden

section frames

variable [Scalar α] [PhaseSource σ α]

theorem Recorder.lastOverlay_drawFrame (container : ContainerSize α) (frame : Frame α)
    (c : Controller σ α) (r : Recorder α) :
    (r.drawAll (c.drawFrame container frame).1).overlay.lastOverlay =
      some ((c.settled container frame.time).2.tick frame).1.overlay := by
  rw [Controller.drawFrame_eq, drawAll_append]
  rfl

/-- A frame of the clock shows one overlay of a mounted globe.  It accounts for everything that the
globe has to show, it is booked, and the surface shows it. -/
theorem Session.Booked.advance_overlay {others : List (ℕ × Task τ)} {s : Session σ τ α}
    (h : s.Booked others) (hm : s.isMounted = true) (dt : α) :
    ∃ overlay : OverlayFrame α,
      overlay.stats.elements =
        s.controller.scene.connections.length + s.controller.scene.heat.length ∧
      (s.advance dt).2.surfaces.overlay.lastOverlay = some overlay ∧
      (s.advance dt).2.controller.scene = s.controller.scene ∧
      ∀ overlays, Controller.Tallied overlays s.controller.metrics →
        Controller.Tallied (overlays ++ [overlay]) (s.advance dt).2.controller.metrics := by
  let frame := s.clock.nextFrame dt
  let settled := (s.controller.settled s.container frame.time).2
  obtain ⟨sizer, log, hsettled⟩ := s.controller.settled_shape s.container frame.time
  have hadvanced : (s.advance dt).2 = (s.ticked dt).runTask frame .draw := by
    rw [h.advance_eq, if_pos hm]
  have hcontroller : (s.advance dt).2.controller = (settled.tick frame).2 := by
    rw [hadvanced]
    rfl
  have hscene : settled.scene = s.controller.scene := by simp only [settled, hsettled]
  have hmetrics : settled.metrics = s.controller.metrics := by simp only [settled, hsettled]
  refine ⟨(settled.tick frame).1.overlay, ?_, ?_, ?_, ?_⟩
  · rw [← hscene]
    exact Renderer.outcomes_render ..
  · rw [hadvanced]
    exact Recorder.lastOverlay_drawFrame ..
  · rw [hcontroller, ← hscene]
    rfl
  · intro overlays hbooked
    rw [hcontroller]
    rw [← hmetrics] at hbooked
    exact hbooked.recordFrame _ _

end frames

/-- Whether a pointer event is a release. -/
def PointerEvent.isRelease : PointerEvent α → Bool
  | .up _ => true
  | _ => false

namespace Simulation

variable [Scalar α]

/-! ### The records of a simulation -/

/-- The heat points of a globe after so many frames of a simulation. -/
def heatAfter (scene : Scene α) (opts : SimOptions α) (frames : ℕ) : List (HeatPoint α) :=
  match opts.heat with
  | some script => if frames = 0 then scene.heat else (script.fieldAfter frames).toHeatPoints
  | none => scene.heat

/-- How many elements the overlay of a frame is given. -/
def elementsAt (scene : Scene α) (opts : SimOptions α) (frame : ℕ) : ℕ :=
  scene.connections.length + (heatAfter scene opts (frame + 1)).length

theorem sum_elementsAt (scene : Scene α) (opts : SimOptions α) (frames : ℕ) :
    ((List.range frames).map (elementsAt scene opts)).sum =
      frames * scene.connections.length +
        ((List.range frames).map fun frame => (heatAfter scene opts (frame + 1)).length).sum := by
  show ((List.range frames).map fun frame => scene.connections.length +
    (heatAfter scene opts (frame + 1)).length).sum = _
  simp only [List.sum_map_add, List.map_const', List.sum_replicate, List.length_range,
    smul_eq_mul]

/-- A simulation whose records agree: it was given the heat of so many frames, has shown the given
overlays and has seen so many releases. -/
structure Consistent (scene : Scene α) (opts : SimOptions α) (fed : ℕ)
    (overlays : List (OverlayFrame α)) (releases : ℕ) (s : Simulation σ α) : Prop where
  booked : s.session.Booked []
  mounted : s.session.isMounted = true
  connections : s.session.controller.scene.connections = scene.connections
  heat : s.session.controller.scene.heat = heatAfter scene opts fed
  field : ∀ script, opts.heat = some script → s.field = script.fieldAfter fed
  tallied : Controller.Tallied overlays s.session.controller.metrics
  elements : overlays.map (·.stats.elements) =
    (List.range overlays.length).map (elementsAt scene opts)
  traced : s.glowTrace = if opts.heat.isSome then overlays.map (·.stats.glows) else []
  clicked : s.clicked.length ≤ releases

theorem consistent_start (scene : Scene α) (config : Config α) (source : σ)
    (opts : SimOptions α) : Consistent scene opts 0 [] 0 (start scene config source opts) := by
  have hcontroller : (start scene config source opts).session.controller =
      (((Controller.create config source).setScene scene).resize opts.container 0).2 := rfl
  have hscene : (start scene config source opts).session.controller.scene = scene := by
    rw [hcontroller, Controller.resize_eq, Controller.setScene, Controller.refreshHover_eq,
      Controller.setHover_eq]
  have hmetrics : (start scene config source opts).session.controller.metrics = .empty := by
    rw [hcontroller, Controller.resize_eq, Controller.setScene, Controller.refreshHover_eq,
      Controller.setHover_eq]
    rfl
  exact
    { booked := Session.booked_mount _ _ (StepClock.vacant_startingAt 0) 0
      mounted := rfl
      connections := congrArg Scene.connections hscene
      heat := by
        rw [hscene, heatAfter]
        split <;> rfl
      field := by
        intro script hscript
        simp only [start, hscript]
        rfl
      tallied := hmetrics ▸ Controller.tallied_empty
      elements := rfl
      traced := (ite_self []).symm
      clicked := Nat.le_refl 0 }

namespace Consistent

variable {scene : Scene α} {opts : SimOptions α} {fed releases : ℕ}
  {overlays : List (OverlayFrame α)} {s : Simulation σ α}

theorem feedHeat (h : Consistent scene opts fed overlays releases s) :
    Consistent scene opts (fed + 1) overlays releases (s.feedHeat opts.heat fed) := by
  cases hheat : opts.heat with
  | none =>
      have hsame (frames : ℕ) : heatAfter scene opts frames = scene.heat := by
        simp only [heatAfter, hheat]
      refine { h with heat := ?_, field := ?_ }
      · rw [hsame]
        exact h.heat.trans (hsame fed)
      · intro script hscript
        rw [hheat] at hscript
        cases hscript
  | some script =>
      have hfield : script.advance fed s.field = script.fieldAfter (fed + 1) := by
        rw [h.field script hheat, script.fieldAfter_succ]
      exact
        { h with
          booked := h.booked.congr rfl rfl
          heat := by simp [Simulation.feedHeat, Session.withController, Controller.setHeat,
            heatAfter, hheat, hfield]
          field := by
            intro other hother
            rw [hheat] at hother
            obtain rfl := Option.some.inj hother
            exact hfield }

theorem play (h : Consistent scene opts fed overlays releases s) (event : PointerEvent α) :
    Consistent scene opts fed overlays (releases + event.isRelease.toNat) (s.play event) := by
  have hhandled : s.session.handle event =
      ((s.session.controller.handle event).1,
        { s.session with controller := (s.session.controller.handle event).2 }) :=
    if_pos h.mounted
  have hanswer : (s.session.controller.handle event).1.toList.length ≤ event.isRelease.toNat := by
    rw [Controller.handle_fst]
    cases event with
    | up position => exact Option.length_toList_le
    | _ => exact Nat.le_refl 0
  have hscene : (s.session.controller.handle event).2.scene = s.session.controller.scene := by
    rw [Controller.handle_eq]
  have htallied : Controller.Tallied overlays (s.session.controller.handle event).2.metrics := by
    rw [(Controller.handle_records event _).1]
    exact List.foldlRecOn _ _ h.tallied fun _ hm _ _ => hm.click
  simp only [Simulation.play, hhandled]
  exact
    { h with
      booked := h.booked.congr rfl rfl
      connections := by rw [hscene]; exact h.connections
      heat := by rw [hscene]; exact h.heat
      tallied := htallied
      clicked := by
        have hclicked := h.clicked
        simp only [List.length_append, List.length_map]
        omega }

theorem foldl_play (h : Consistent scene opts fed overlays releases s)
    (events : List (PointerEvent α)) :
    Consistent scene opts fed overlays (releases + events.countP PointerEvent.isRelease)
      (events.foldl Simulation.play s) := by
  induction events generalizing s releases with
  | nil => exact h
  | cons event rest ih =>
      have hrest := ih (h.play event)
      have hcount : (event :: rest).countP PointerEvent.isRelease =
          event.isRelease.toNat + rest.countP PointerEvent.isRelease := by
        rw [List.countP_cons, Nat.add_comm]
        cases event.isRelease <;> rfl
      rw [hcount, ← Nat.add_assoc]
      exact hrest

variable [PhaseSource σ α]

theorem draw (h : Consistent scene opts (overlays.length + 1) overlays releases s) :
    ∃ overlay, Consistent scene opts (overlays.length + 1) (overlays ++ [overlay]) releases
      ({ s with session := (s.session.advance opts.dt).2 }.traceGlows opts.heat) := by
  obtain ⟨overlay, helements, hshown, hscene, hbooked⟩ :=
    h.booked.advance_overlay h.mounted opts.dt
  obtain ⟨hclock, hmounted, _⟩ := h.booked.turn (.advance opts.dt)
  rw [h.mounted] at hmounted
  have hdrawn : Consistent scene opts (overlays.length + 1) (overlays ++ [overlay]) releases
      { s with
        session := (s.session.advance opts.dt).2
        glowTrace := if opts.heat.isSome then (overlays ++ [overlay]).map (·.stats.glows)
          else [] } :=
    { h with
      booked := hclock
      mounted := hmounted
      connections := by rw [hscene]; exact h.connections
      heat := by rw [hscene]; exact h.heat
      tallied := hbooked overlays h.tallied
      elements := by
        rw [h.connections, h.heat] at helements
        rw [List.map_append, h.elements, List.length_append, List.length_singleton,
          List.range_succ, List.map_append, List.map_singleton, List.map_singleton, helements]
        rfl
      traced := rfl }
  refine ⟨overlay, ?_⟩
  have htraced := h.traced
  cases hheat : opts.heat with
  | none =>
      simp only [hheat, Option.isSome_none, Bool.false_eq_true, if_false] at hdrawn htraced
      rw [← htraced] at hdrawn
      exact hdrawn
  | some script =>
      simp only [hheat, Option.isSome_some, if_true, List.map_append] at hdrawn htraced
      rw [← htraced] at hdrawn
      simp only [traceGlows, hshown]
      exact hdrawn

/-- A frame of the simulation; the pointer script is played after the first one. -/
theorem frame (h : Consistent scene opts overlays.length overlays releases s) :
    ∃ overlay, Consistent scene opts (overlays.length + 1) (overlays ++ [overlay])
      (releases +
        if overlays.length = 0 then opts.script.events.countP PointerEvent.isRelease else 0)
      (Simulation.frame opts s overlays.length) := by
  obtain ⟨overlay, hdrawn⟩ := h.feedHeat.draw
  refine ⟨overlay, ?_⟩
  unfold Simulation.frame
  split_ifs
  · exact hdrawn.foldl_play _
  · exact hdrawn

end Consistent

variable [PhaseSource σ α]

theorem exists_consistent (scene : Scene α) (config : Config α) (source : σ)
    (opts : SimOptions α) (frames : ℕ) :
    ∃ overlays releases, overlays.length = frames ∧
      (releases ≤ opts.script.events.countP PointerEvent.isRelease ∧
        (frames = 0 → releases = 0)) ∧
      Consistent scene opts frames overlays releases
        ((List.range frames).foldl (frame opts) (start scene config source opts)) := by
  induction frames with
  | zero =>
      exact ⟨[], 0, rfl, ⟨Nat.zero_le _, fun _ => rfl⟩, consistent_start scene config source opts⟩
  | succ frames ih =>
      obtain ⟨overlays, releases, rfl, ⟨hreleases, hnone⟩, h⟩ := ih
      obtain ⟨overlay, hframe⟩ := h.frame
      rw [List.range_succ, List.foldl_append]
      refine ⟨overlays ++ [overlay], _, List.length_append, ⟨?_, fun hzero => by omega⟩, hframe⟩
      split_ifs with hfirst
      · rw [hnone hfirst, Nat.zero_add]
      · exact hreleases

/-- **The accounts of a simulation agree.**  The summary counts every frame that was asked for.
With a heat script it has the glows of each frame; they add up to the counter of the glows, and the
heat at the end is the field that the script makes in as many frames.  Without one it has the heat of
the scene and no glows.  The counters of the outcomes add up to what the overlays were given: the
connections at every frame, and the heat of that frame.  Counters are words, so sums that leave
their range agree as words do.  No release of the pointer script clicks more than one marker, and
none clicks any if there are no frames. -/
theorem summary_accounts (scene : Scene α) (config : Config α) (source : σ)
    (opts : SimOptions α) (hframes : opts.frames < wordRange) :
    let s := run scene config source opts
    let given := opts.frames * scene.connections.length +
      ((List.range opts.frames).map fun frame => (heatAfter scene opts (frame + 1)).length).sum
    s.frames = opts.frames ∧
    (∀ script, opts.heat = some script →
      s.glowTrace.length = opts.frames ∧
      s.glowTrace.sum % wordRange = s.overlay.glows ∧
      (given < wordRange → s.glowTrace.sum = s.overlay.glows) ∧
      (0 < opts.frames → s.heatPoints = (script.fieldAfter opts.frames).size)) ∧
    (opts.heat = none → s.glowTrace = [] ∧ s.heatPoints = scene.heat.length) ∧
    s.overlay.elements ≡ given [MOD wordRange] ∧
    (given < wordRange → s.overlay.elements = given) ∧
    s.clicked.length ≤ opts.script.events.countP PointerEvent.isRelease ∧
    (opts.frames = 0 → s.clicked = []) := by
  intro s given
  obtain ⟨overlays, releases, hlength, ⟨hreleases, hnone⟩, h⟩ :=
    exists_consistent scene config source opts opts.frames
  let total (amount : OverlayFrame α → ℕ) := (overlays.map amount).sum
  have hcounters := h.tallied.counters
  simp only [Controller.frameCounters, List.mem_cons, List.not_mem_nil, or_false,
    forall_eq_or_imp, forall_eq] at hcounters
  obtain ⟨hcount, hglows, harcs, hdegenerate, hhidden⟩ := hcounters
  have hgiven : total (·.stats.glows) + total (·.stats.arcs) + total (·.stats.degenerate) +
      total (·.stats.hidden) = given := by
    calc total (·.stats.glows) + total (·.stats.arcs) + total (·.stats.degenerate) +
          total (·.stats.hidden)
        = (overlays.map (·.stats.elements)).sum := by
          simp only [total, OverlayStats.elements, List.sum_map_add]
      _ = ((List.range opts.frames).map (elementsAt scene opts)).sum := by
          rw [h.elements, hlength]
      _ = given := sum_elementsAt scene opts opts.frames
  have hsum : s.overlay.elements = total (·.stats.glows) % wordRange +
      total (·.stats.arcs) % wordRange + total (·.stats.degenerate) % wordRange +
        total (·.stats.hidden) % wordRange := by
    rw [← hglows, ← harcs, ← hdegenerate, ← hhidden]
    rfl
  have htraced (script : HeatScript α) (hscript : opts.heat = some script) :
      s.glowTrace = overlays.map (·.stats.glows) := by
    have htraced := h.traced
    rw [hscript] at htraced
    exact htraced
  refine ⟨?_, ?_, ?_, ?_, ?_, ?_, ?_⟩
  · have hones : (overlays.map fun _ => 1).sum = opts.frames := by simp [hlength]
    rw [hones, Nat.mod_eq_of_lt hframes] at hcount
    exact hcount
  · intro script hscript
    rw [htraced script hscript]
    refine ⟨(List.length_map _).trans hlength, hglows.symm, fun hsmall => ?_, fun hsome => ?_⟩
    · have hexact : total (·.stats.glows) % wordRange = total (·.stats.glows) :=
        Nat.mod_eq_of_lt (by omega)
      exact hexact.symm.trans hglows.symm
    · have hheat := h.heat
      simp only [heatAfter, hscript, if_neg hsome.ne'] at hheat
      exact (congrArg List.length hheat).trans (List.length_map _)
  · intro hscript
    have htraced := h.traced
    have hheat := h.heat
    simp only [hscript, heatAfter] at htraced hheat
    exact ⟨htraced, congrArg List.length hheat⟩
  · rw [hsum, ← hgiven]
    exact (((Nat.mod_modEq _ _).add (Nat.mod_modEq _ _)).add (Nat.mod_modEq _ _)).add
      (Nat.mod_modEq _ _)
  · intro hsmall
    have hexact {count : ℕ} (hle : count ≤ given) : count % wordRange = count :=
      Nat.mod_eq_of_lt (hle.trans_lt hsmall)
    rw [hsum, hexact (by omega), hexact (by omega), hexact (by omega), hexact (by omega), hgiven]
  · exact h.clicked.trans hreleases
  · intro hzero
    have hclicked := h.clicked
    rw [hnone hzero, Nat.le_zero, List.length_eq_zero_iff] at hclicked
    exact hclicked

/-- A burst of heat fades away before another one comes somewhere else; the heat of the scene is
never shown. -/
theorem summary_accounts_fading :
    let scene : Scene Float := { connections := [⟨⟨0, 0⟩, ⟨10, 20⟩⟩], heat := [⟨0, 0, 1⟩] }
    let script : HeatScript Float :=
      { decay := 0.01, events := [⟨3, ⟨10, 10⟩, 0.5⟩, ⟨0, ⟨0, 0⟩, 0.3⟩, ⟨0, ⟨5, 5⟩, -1⟩] }
    let opts : SimOptions Float :=
      { frames := 4
        dt := 1 / 60
        container := ⟨600, 600⟩
        script := { hover := some ⟨300, 300⟩, click := true }
        heat := some script }
    let s := run scene .default Unseeded.mk opts
    opts.frames < wordRange ∧ s.frames = 4 ∧ s.glowTrace.length = 4 ∧
      s.glowTrace.sum = s.overlay.glows ∧ s.heatPoints = 1 ∧ s.overlay.elements = 4 * 1 + 3 ∧
      s.clicked.length ≤ 1 := by
  intro scene script opts s
  have hframes : opts.frames < wordRange := by decide
  have hshown : ((List.range opts.frames).map fun frame =>
      (heatAfter scene opts (frame + 1)).length).sum = 3 := by decide +kernel
  have hleft : (script.fieldAfter 4).size = 1 := by decide +kernel
  obtain ⟨hcount, hscript, _, _, helements, hclicked, _⟩ :=
    summary_accounts scene .default Unseeded.mk opts hframes
  obtain ⟨hlength, _, hglows, hheat⟩ := hscript script rfl
  rw [hshown] at helements hglows
  have hsmall : opts.frames * scene.connections.length + 3 < wordRange := by decide
  exact ⟨hframes, hcount, hlength, hglows hsmall, (hheat (by decide)).trans hleft,
    helements hsmall, hclicked⟩

end Simulation
end GlobeView
