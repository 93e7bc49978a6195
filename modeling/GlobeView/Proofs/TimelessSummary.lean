import GlobeView.Proofs.OverlayAccounting
import GlobeView.Proofs.SizeAgreement
import GlobeView.Random.Xoshiro
import GlobeView.Simulation

/-! # What a summary does not depend on

A frame knows the time, and through it the particles of the overlay, the sizes of the markers and
the second measurement of the container.  None of it comes back: the particles change no outcome of
the overlay (`Renderer.tally_render`), the sizes and the phases of the markers are only drawn, and a
second measurement of a container that stays as it is finds nothing new (`Controller.settled_self`).

So two globes that differ in their phases and times (`Controller.Retimed`) go on to differ in
nothing else, whatever the clock of each says, as long as both count the same frames. -/

namespace GlobeView

variable {σ τ α : Type}

/-! ### Overlays -/

/-- What is counted of an overlay: its outcomes and its commands. -/
def OverlayFrame.tally (frame : OverlayFrame α) : OverlayStats × ℕ :=
  (frame.stats, frame.commands.length)

/-- What is counted of the overlay that a surface shows; nothing is before the first one. -/
def SurfaceLog.tally (s : SurfaceLog α) : OverlayStats × ℕ :=
  s.lastOverlay.elim ({}, 0) OverlayFrame.tally

section overlays

variable [Scalar α]

/-- The time moves the particles, and nothing that does not look at them notices. -/
theorem Renderer.countP_arcs {p : Outcome α → Bool}
    (hp : ∀ commands commands', p (.drawn commands) = p (.drawn commands')) (r : Renderer α)
    (view : View α) (connections : List (Connection α)) (elapsed elapsed' : α) :
    (connections.mapIdx (r.arc view elapsed)).countP p =
      (connections.mapIdx (r.arc view elapsed')).countP p := by
  rw [countP_mapIdx_arc hp r view connections elapsed elapsed,
    countP_mapIdx_arc hp r view connections elapsed' elapsed]

theorem Renderer.tally_render (r : Renderer α) (view : View α) (connections : List (Connection α))
    (heat : List (HeatPoint α)) (elapsed elapsed' : α) :
    (r.render view connections heat elapsed).tally =
      (r.render view connections heat elapsed').tally := by
  have hstats : (r.render view connections heat elapsed).stats =
      (r.render view connections heat elapsed').stats := by
    have harcs {p : Outcome α → Bool}
        (hp : ∀ commands commands', p (.drawn commands) = p (.drawn commands')) :=
      countP_arcs hp r view connections elapsed elapsed'
    simp only [render_eq, harcs (p := Outcome.isDrawn) fun _ _ => rfl,
      harcs (p := Outcome.isDegenerate) fun _ _ => rfl,
      harcs (p := Outcome.isHidden) fun _ _ => rfl]
  have hcommands : (r.render view connections heat elapsed).commands.length =
      (r.render view connections heat elapsed').commands.length := by
    rw [length_commands_render, length_commands_render, hstats]
  exact Prod.ext hstats hcommands

omit [Scalar α] in
/-- The metrics take no more of an overlay than what is counted. -/
theorem Controller.recordFrame_congr {overlay overlay' : OverlayFrame α}
    (h : overlay'.tally = overlay.tally) (rotation : Rotation α) (m : Metrics α) :
    recordFrame overlay' rotation m = recordFrame overlay rotation m := by
  obtain ⟨hstats, hcommands⟩ := Prod.ext_iff.mp h
  simp only [OverlayFrame.tally] at hstats hcommands
  simp only [recordFrame, hstats, hcommands]

end overlays

/-! ### Globes -/

namespace Controller

variable [Scalar α] {cfg : Config α} {container : ContainerSize α} {c c' : Controller σ α}

/-- A second measurement of the container as it is does at most disarm the timer. -/
theorem settled_self (h : c.sizer.Measured cfg container) (hdefined : cfg.SizesDefined) (now : α) :
    ∃ settleAt, c.settled container now =
      (none, { c with sizer := { c.sizer with settleAt := settleAt } }) := by
  obtain ⟨settleAt, hsizer⟩ := c.sizer.takeDue_shape now
  have hasked : (c.settleDue now).2 =
      { c with sizer := { c.sizer with settleAt := settleAt } } := by
    rw [← hsizer]
    rfl
  refine ⟨settleAt, ?_⟩
  unfold settled
  rw [hasked]
  split_ifs
  · have hsettle := Sizer.Measured.settle_self (s := { c.sizer with settleAt := settleAt })
      ⟨h.target, h.size⟩ hdefined now
    simp only [settle, hsettle]
    rfl
  · rfl

/-- `c'` is `c` with other marker phases and other times. -/
def Retimed (c c' : Controller σ α) : Prop :=
  ∃ phases startedAt lastResize settleAt, c' =
    { c with
      phases := phases
      startedAt := startedAt
      sizer := { c.sizer with lastResize := lastResize, settleAt := settleAt } }

namespace Retimed

theorem measured (h : Retimed c c') (hm : c.sizer.Measured cfg container) :
    c'.sizer.Measured cfg container := by
  obtain ⟨_, _, _, _, rfl⟩ := h
  exact ⟨hm.target, hm.size⟩

omit [Scalar α] in
theorem setHeat (h : Retimed c c') (heat : List (HeatPoint α)) :
    Retimed (c.setHeat heat) (c'.setHeat heat) := by
  obtain ⟨_, _, _, _, rfl⟩ := h
  exact ⟨_, _, _, _, rfl⟩

theorem handle (h : Retimed c c') (event : PointerEvent α) :
    (c'.handle event).1 = (c.handle event).1 ∧
      Retimed (c.handle event).2 (c'.handle event).2 := by
  obtain ⟨_, _, _, _, rfl⟩ := h
  constructor
  · rw [handle_fst, handle_fst]
    rfl
  · rw [handle_eq, handle_eq, handle_fst, handle_fst]
    exact ⟨_, _, _, _, rfl⟩

variable [PhaseSource σ α]

theorem tick (h : Retimed c c') {frame frame' : Frame α} (hindex : frame'.index = frame.index) :
    (c'.tick frame').1.overlay.tally = (c.tick frame).1.overlay.tally ∧
      Retimed (c.tick frame).2 (c'.tick frame').2 := by
  have htally : (c'.tick frame').1.overlay.tally = (c.tick frame).1.overlay.tally := by
    obtain ⟨_, _, _, _, rfl⟩ := h
    exact c.renderer.tally_render _ c.scene.connections c.scene.heat _ _
  have hmetrics : (c'.tick frame').2.metrics = (c.tick frame).2.metrics := by
    have hrecorded := recordFrame_congr htally (c.rotation.tick c.spin) c.metrics
    obtain ⟨_, _, _, _, rfl⟩ := h
    exact hrecorded
  have hlog : (c'.tick frame').2.log = (c.tick frame).2.log := by
    obtain ⟨_, _, _, _, rfl⟩ := h
    exact congrArg c.log.setFrame hindex
  refine ⟨htally, (c'.tick frame').2.phases, (c'.tick frame').2.startedAt, c'.sizer.lastResize,
    c'.sizer.settleAt, ?_⟩
  calc (c'.tick frame').2
      = { (c'.tick frame').2 with
          log := (c.tick frame).2.log
          metrics := (c.tick frame).2.metrics } := by rw [← hlog, ← hmetrics]
    _ = _ := by
        obtain ⟨_, _, _, _, rfl⟩ := h
        rfl

/-- A frame counts alike too, with the second measurement if one of the two finds it due. -/
theorem drawFrame (h : Retimed c c') (hm : c.sizer.Measured cfg container)
    (hdefined : cfg.SizesDefined) {frame frame' : Frame α} (hindex : frame'.index = frame.index) :
    (c.drawFrame container frame).2.sizer.Measured cfg container ∧
      Retimed (c.drawFrame container frame).2 (c'.drawFrame container frame').2 ∧
      ∀ r r' : Recorder α,
        (r'.drawAll (c'.drawFrame container frame').1).overlay.tally =
          (r.drawAll (c.drawFrame container frame).1).overlay.tally := by
  obtain ⟨settleAt, hsettled⟩ := settled_self hm hdefined frame.time
  obtain ⟨settleAt', hsettled'⟩ := settled_self (h.measured hm) hdefined frame'.time
  have hwaiting : Retimed { c with sizer := { c.sizer with settleAt := settleAt } }
      { c' with sizer := { c'.sizer with settleAt := settleAt' } } := by
    obtain ⟨_, _, _, _, rfl⟩ := h
    exact ⟨_, _, _, _, rfl⟩
  obtain ⟨htally, hticked⟩ := hwaiting.tick hindex
  rw [drawFrame_eq, drawFrame_eq, hsettled, hsettled']
  exact ⟨⟨hm.target, hm.size⟩, hticked, fun _ _ => htally⟩

end Retimed
end Controller

/-! ### Sessions -/

namespace Session

variable [Scalar α] {cfg : Config α} {s s' : Session σ τ α}

/-- Two sessions of globes that differ in phases and times, in the same container and before frames
of the same number. -/
structure Retimed (cfg : Config α) (s s' : Session σ τ α) : Prop where
  controller : s.controller.Retimed s'.controller
  sized : s.controller.sizer.Measured cfg s.container
  container : s'.container = s.container
  callbacks : s'.clock.callbacks = s.clock.callbacks
  index : s'.clock.last.map Frame.index = s.clock.last.map Frame.index
  callback : s'.callback = s.callback
  tally : s'.surfaces.overlay.tally = s.surfaces.overlay.tally

namespace Retimed

theorem handle (h : Retimed cfg s s') (event : PointerEvent α) :
    (s'.handle event).1 = (s.handle event).1 ∧
      Retimed cfg (s.handle event).2 (s'.handle event).2 := by
  obtain ⟨hanswer, hcontroller⟩ := h.controller.handle event
  have hmounted : s'.isMounted = s.isMounted := congrArg Option.isSome h.callback
  obtain ⟨_, _, _, _, _, _, hshape⟩ := s.controller.handle_shape event
  have hsized : (s.controller.handle event).2.sizer.Measured cfg s.container := by
    rw [hshape]
    exact h.sized
  unfold Session.handle
  rw [hmounted]
  split_ifs
  · exact ⟨hanswer, { h with controller := hcontroller, sized := hsized }⟩
  · exact ⟨rfl, h⟩

theorem setHeat (h : Retimed cfg s s') (heat : List (HeatPoint α)) :
    Retimed cfg (s.withController fun c => ((), c.setHeat heat)).2
      (s'.withController fun c => ((), c.setHeat heat)).2 :=
  { h with controller := h.controller.setHeat heat, sized := h.sized }

variable [PhaseSource σ α]

theorem runTask (h : Retimed cfg s s') (hdefined : cfg.SizesDefined) {frame frame' : Frame α}
    (hindex : frame'.index = frame.index) (task : Task τ) :
    Retimed cfg (s.runTask frame task) (s'.runTask frame' task) := by
  cases task with
  | other tag => exact h
  | draw =>
      obtain ⟨hsized, hcontroller, htally⟩ :=
        h.controller.drawFrame h.sized hdefined hindex
      have hdrawn : s'.controller.drawFrame s'.container frame' =
          s'.controller.drawFrame s.container frame' := by rw [h.container]
      rw [← hdrawn] at hcontroller htally
      exact { h with controller := hcontroller, sized := hsized, tally := htally _ _ }

theorem advance (h : Retimed cfg s s') (hdefined : cfg.SizesDefined) (dt dt' : α) :
    Retimed cfg (s.advance dt).2 (s'.advance dt').2 := by
  have hindex : (s'.clock.nextFrame dt').index = (s.clock.nextFrame dt).index := by
    have hlast := h.index
    unfold StepClock.nextFrame
    cases hs : s.clock.last <;> cases hs' : s'.clock.last <;> rw [hs, hs'] at hlast
    · rfl
    · cases hlast
    · cases hlast
    · exact congrArg (fun index => (index + 1) % wordRange) (Option.some.inj hlast)
  unfold Session.advance StepClock.advance
  rw [h.callbacks]
  exact List.foldl_rel { h with callbacks := rfl, index := congrArg some hindex }
    fun task _ _ _ h => h.runTask hdefined hindex task

end Retimed
end Session

/-! ### Simulations -/

namespace Simulation

/-- The simulation of a scene after its frames. -/
def finish [Scalar α] [PhaseSource σ α] (scene : Scene α) (config : Config α) (source : σ)
    (opts : SimOptions α) : Simulation σ α :=
  (List.range opts.frames).foldl (frame opts) (start scene config source opts)

variable [Scalar α] {cfg : Config α} {s s' : Simulation σ α}

omit [Scalar α] in
theorem traceGlows_eq (script : HeatScript α) (s : Simulation σ α) :
    s.traceGlows (some script) =
      { s with glowTrace := s.glowTrace ++ [s.session.surfaces.overlay.tally.1.glows] } := by
  simp only [traceGlows, SurfaceLog.tally]
  cases s.session.surfaces.overlay.lastOverlay <;> rfl

omit [Scalar α] in
theorem lastCommands_summary (s : Simulation σ α) :
    s.summary.lastCommands = s.session.surfaces.overlay.tally.2 := by
  simp only [summary, SurfaceLog.tally]
  cases s.session.surfaces.overlay.lastOverlay <;> rfl

/-- Two simulations that differ in phases and times. -/
structure Retimed (cfg : Config α) (s s' : Simulation σ α) : Prop where
  session : s.session.Retimed cfg s'.session
  field : s'.field = s.field
  clicked : s'.clicked = s.clicked
  glowTrace : s'.glowTrace = s.glowTrace

namespace Retimed

theorem feedHeat (h : Retimed cfg s s') (heat : Option (HeatScript α)) (index : ℕ) :
    Retimed cfg (s.feedHeat heat index) (s'.feedHeat heat index) := by
  cases heat with
  | none => exact h
  | some script =>
      simp only [Simulation.feedHeat, h.field]
      exact { h with session := h.session.setHeat _, field := rfl }

theorem traceGlows (h : Retimed cfg s s') (heat : Option (HeatScript α)) :
    Retimed cfg (s.traceGlows heat) (s'.traceGlows heat) := by
  cases heat with
  | none => exact h
  | some script =>
      rw [traceGlows_eq, traceGlows_eq, h.session.tally, h.glowTrace]
      exact { h with glowTrace := rfl }

theorem play (h : Retimed cfg s s') (event : PointerEvent α) :
    Retimed cfg (s.play event) (s'.play event) := by
  obtain ⟨hanswer, hsession⟩ := h.session.handle event
  simp only [Simulation.play, hanswer, h.clicked]
  exact { h with session := hsession, clicked := rfl }

variable [PhaseSource σ α]

theorem frame (h : Retimed cfg s s') (hdefined : cfg.SizesDefined) (opts : SimOptions α)
    (dt dt' : α) (index : ℕ) :
    Retimed cfg (Simulation.frame { opts with dt := dt } s index)
      (Simulation.frame { opts with dt := dt' } s' index) := by
  have hfed := h.feedHeat opts.heat index
  have hadvanced : Retimed cfg
      { s.feedHeat opts.heat index with
        session := ((s.feedHeat opts.heat index).session.advance dt).2 }
      { s'.feedHeat opts.heat index with
        session := ((s'.feedHeat opts.heat index).session.advance dt').2 } :=
    { hfed with session := hfed.session.advance hdefined dt dt' }
  have hdrawn := hadvanced.traceGlows opts.heat
  unfold Simulation.frame
  split_ifs
  · exact List.foldl_rel hdrawn fun event _ _ _ h => h.play event
  · exact hdrawn

omit [PhaseSource σ α] in
theorem summary (h : Retimed cfg s s') : s'.summary = s.summary := by
  have hrest (count : ℕ) :
      { s'.summary with lastCommands := count } = { s.summary with lastCommands := count } := by
    obtain ⟨_, _, _, _, hcontroller⟩ := h.session.controller
    simp only [Simulation.summary, hcontroller, h.clicked, h.glowTrace]
    rfl
  calc s'.summary
      = { s'.summary with lastCommands := s'.session.surfaces.overlay.tally.2 } := by
        rw [← lastCommands_summary]
    _ = { s.summary with lastCommands := s.session.surfaces.overlay.tally.2 } := by
        rw [h.session.tally, hrest]
    _ = s.summary := by rw [← lastCommands_summary]

end Retimed

theorem retimed_start (hexact : cfg.SizesExact) (scene : Scene α) (source source' : σ)
    (opts : SimOptions α) (dt dt' : α) :
    Retimed cfg (start scene cfg source { opts with dt := dt })
      (start scene cfg source' { opts with dt := dt' }) := by
  have hmounted (source : σ) :
      (start scene cfg source opts).session.controller =
        { Controller.create cfg source with
          scene := scene
          sizer := ((Sizer.ofConfig cfg).observe opts.container 0).2
          log := (Controller.create cfg source).sizeLog .resized
            ((Sizer.ofConfig cfg).observe opts.container 0).1 } :=
    Controller.resize_eq opts.container 0 ((Controller.create cfg source).setScene scene)
  have hcontroller : (start scene cfg source opts).session.controller.Retimed
      (start scene cfg source' opts).session.controller := by
    rw [hmounted, hmounted]
    exact ⟨_, _, _, _, rfl⟩
  have hsized : (start scene cfg source opts).session.controller.sizer.Measured cfg
      opts.container := by
    rw [hmounted]
    exact ((Sizer.measured_ofConfig cfg).observe hexact opts.container 0).1
  exact
    { session :=
        { controller := hcontroller
          sized := hsized
          container := rfl
          callbacks := rfl
          index := rfl
          callback := rfl
          tally := rfl }
      field := rfl
      clicked := rfl
      glowTrace := rfl }

variable [PhaseSource σ α]

theorem retimed_finish (hexact : cfg.SizesExact) (hdefined : cfg.SizesDefined) (scene : Scene α)
    (source source' : σ) (opts : SimOptions α) (dt dt' : α) :
    Retimed cfg (finish scene cfg source { opts with dt := dt })
      (finish scene cfg source' { opts with dt := dt' }) :=
  List.foldl_rel (retimed_start hexact scene source source' opts dt dt')
    fun index _ _ _ h => h.frame hdefined opts dt dt' index

/-- **A summary is timeless.**  Run a scene twice, with phases from other sources and with other
steps between the frames: in the same container, with the same frames, pointer script and heat
script, an accepted configuration gives the same summary.  At the end, and so after any number of
frames, the pointer finds the same markers and hovers the same one, the globe is turned alike, the
same was logged and clicked, the heat is the same, and as much was drawn on the overlay. -/
theorem summary_timeless {σ : Type} [PhaseSource σ Float] {config : Config Float}
    (hvalid : config.check = .ok ()) (scene : Scene Float) (source source' : σ)
    (opts : SimOptions Float) (dt dt' : Float) :
    let opts₁ := { opts with dt := dt }
    let opts₂ := { opts with dt := dt' }
    let s := finish scene config source opts₁
    let s' := finish scene config source' opts₂
    let c := s.session.controller
    let c' := s'.session.controller
    run scene config source' opts₂ = run scene config source opts₁ ∧
      run scene config source opts₁ = s.summary ∧
      (∀ position, c'.hitTest position = c.hitTest position) ∧ c'.hover = c.hover ∧
      c'.rotation = c.rotation ∧ c'.log = c.log ∧ s'.clicked = s.clicked ∧ s'.field = s.field ∧
      c'.scene = c.scene ∧
      s'.session.surfaces.overlay.tally = s.session.surfaces.overlay.tally := by
  intro opts₁ opts₂ s s' c c'
  have h : Retimed config s s' :=
    retimed_finish (Config.sizesExact_of_check hvalid) (Config.sizesDefined_of_check hvalid)
      scene source source' opts dt dt'
  obtain ⟨_, _, _, _, hcontroller⟩ := h.session.controller
  have hc : c' = _ := hcontroller
  refine ⟨h.summary, rfl, ?_, ?_, ?_, ?_, h.clicked, h.field, ?_, h.session.tally⟩
  · intro position
    rw [hc]
    rfl
  all_goals rw [hc]

/-- Two seeds that give a pulsing marker different phases, once at sixty frames a second and once at
one a second, where the second measurement is due with the second frame. -/
theorem summary_timeless_reseeded :
    let config : Config Float := .default
    let scene : Scene Float :=
      { markers := [⟨⟨0, 0⟩, 0.05, some "Null Island", true⟩]
        connections := [⟨⟨0, 0⟩, ⟨10, 20⟩⟩] }
    let opts : SimOptions Float :=
      { frames := 3
        dt := 1 / 60
        container := ⟨600, 600⟩
        script := { hover := some ⟨300, 300⟩, click := true } }
    let source := Random.Xoshiro.ofSeed 1
    let source' := Random.Xoshiro.ofSeed 2
    config.check = .ok () ∧
      (PhaseSource.draw source' : Float × _).1 ≠ (PhaseSource.draw source).1 ∧
      run scene config source' { opts with dt := 1 } = run scene config source opts := by
  intro config scene opts source source'
  have hvalid : config.check = .ok () := by decide +kernel
  have hphases : (PhaseSource.draw source' : Float × _).1 ≠ (PhaseSource.draw source).1 := by
    decide +kernel
  obtain ⟨hsummary, _⟩ := summary_timeless hvalid scene source source' opts (1 / 60) 1
  exact ⟨hvalid, hphases, hsummary⟩

end Simulation
end GlobeView
