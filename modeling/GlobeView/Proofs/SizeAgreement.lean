import GlobeView.Proofs.OverlayProgram
import GlobeView.Proofs.SessionRuns
import GlobeView.Proofs.Sizes

/-! # Everybody knows the same size

The container is measured in three places: when a globe is mounted, when its session is told of a new
size, and when a frame finds the second measurement due.  Each of them pushes new sizes to the
surfaces only if they differ from those the controller has, so that the surfaces, the controller and
the container as it was measured last stay together (`Agrees`), and a frame is drawn at the size that
the surfaces have (`Fitting`). -/

namespace GlobeView

variable {σ τ α : Type}

/-! ### Frames that fit -/

/-- Whether a frame is drawn for surfaces of the given size, if they have one. -/
def Drawing.Fits (size? : Option (SurfaceSize α)) : Drawing α → Prop
  | .resize _ => True
  | .sphere frame => ∃ size, size? = some size ∧ frame.width = size.render
  | .overlay frame => ∃ size, size? = some size ∧ frame.clearWidths = [size.render]

/-- The surfaces have a size, and every frame fits the size that they had when it was drawn. -/
structure Fitting (size : SurfaceSize α) (drawings : List (Drawing α)) : Prop where
  pushed : lastPushed? drawings = some size
  fits : ∀ before d after, drawings = before ++ d :: after → d.Fits (lastPushed? before)

theorem lastPushed?_concat (drawings : List (Drawing α)) (d : Drawing α) :
    lastPushed? (drawings ++ [d]) = d.pushed?.or (lastPushed? drawings) := by
  unfold lastPushed?
  rw [List.filterMap_append, List.getLast?_append]
  cases d <;> rfl

namespace Fitting

variable {size : SurfaceSize α} {drawings : List (Drawing α)}

theorem concat_fits (hfits : ∀ before d after, drawings = before ++ d :: after →
      d.Fits (lastPushed? before)) {d : Drawing α} (hd : d.Fits (lastPushed? drawings)) :
    ∀ before e after, drawings ++ [d] = before ++ e :: after → e.Fits (lastPushed? before) := by
  intro before e after heq
  obtain rfl | ⟨earlier, last, rfl⟩ := after.eq_nil_or_concat
  · obtain ⟨rfl, hde⟩ := List.append_inj' heq rfl
    obtain rfl := List.singleton_inj.mp hde
    exact hd
  · rw [List.concat_eq_append, ← List.cons_append, ← List.append_assoc] at heq
    obtain ⟨hinit, _⟩ := List.append_inj' heq rfl
    exact hfits before e earlier hinit

theorem resize (h : Fitting size drawings) (new : SurfaceSize α) :
    Fitting new (drawings ++ [.resize new]) where
  pushed := lastPushed?_concat drawings _
  fits := concat_fits h.fits trivial

theorem start (size : SurfaceSize α) : Fitting size [.resize size] where
  pushed := rfl
  fits := by
    intro before d after h
    cases before with
    | nil =>
        obtain ⟨rfl, _⟩ := List.cons.inj h
        exact trivial
    | cons _ rest => simp at h

theorem changed (h : Fitting size drawings) (new? : Option (SurfaceSize α)) :
    Fitting (new?.getD size) (drawings ++ new?.toList.map .resize) := by
  cases new? with
  | none =>
      rw [Option.toList_none, List.map_nil, List.append_nil]
      exact h
  | some new => exact h.resize new

theorem frame (h : Fitting size drawings) {sphere : SphereFrame α} {overlay : OverlayFrame α}
    (hsphere : sphere.width = size.render) (hoverlay : overlay.clearWidths = [size.render]) :
    Fitting size (drawings ++ [.sphere sphere, .overlay overlay]) := by
  have hone : Fitting size (drawings ++ [.sphere sphere]) :=
    { pushed := (lastPushed?_concat drawings _).trans h.pushed
      fits := concat_fits h.fits ⟨size, h.pushed, hsphere⟩ }
  have htwo : Fitting size (drawings ++ [.sphere sphere] ++ [.overlay overlay]) :=
    { pushed := (lastPushed?_concat _ _).trans hone.pushed
      fits := concat_fits hone.fits ⟨size, hone.pushed, hoverlay⟩ }
  rw [List.append_assoc] at htwo
  exact htwo

end Fitting

/-! ### A controller that is drawn -/

namespace Controller

variable [Scalar α] {cfg : Config α} {before : ContainerSize α} {c : Controller σ α}

/-- Whatever happens to a controller, it has the sizes of some container. -/
theorem measured_run [PhaseSource σ α] (hexact : cfg.SizesExact) (source : σ)
    (actions : List (Action α)) :
    ∃ container, ((create cfg source).run actions).sizer.Measured cfg container := by
  refine run_induction (P := fun c => ∃ container, c.sizer.Measured cfg container)
    ?_ actions ⟨_, Sizer.measured_ofConfig cfg⟩
  rintro a c ⟨container, h⟩
  cases a with
  | resize new now =>
      rw [act, resize_eq]
      exact ⟨new, (h.observe hexact new now).1⟩
  | settleDue now => exact ⟨container, h.takeDue now⟩
  | settle new now =>
      rw [act, settle_eq]
      exact ⟨new, (h.settle hexact new now).1⟩
  | _ =>
      rw [act_sizer rfl]
      exact ⟨container, h⟩

theorem containerResized_spec (h : c.sizer.Measured cfg before) (hexact : cfg.SizesExact)
    (container : ContainerSize α) (now : α) :
    (c.containerResized container now).2.sizer.Measured cfg container ∧
      ∀ drawings, Fitting (cfg.sizeFor before) drawings →
        Fitting (cfg.sizeFor container) (drawings ++ (c.containerResized container now).1.2) := by
  obtain ⟨hmeasured, hsize⟩ := h.observe hexact container now
  constructor
  · have hsizer : (c.containerResized container now).2 = (c.resize container now).2 := rfl
    rw [hsizer, resize_eq]
    exact hmeasured
  · intro drawings hd
    rw [← hsize, h.size]
    exact hd.changed _

theorem tick_width [PhaseSource σ α] (frame : Frame α) (c : Controller σ α) :
    (c.tick frame).1.sphere.width = c.sizer.size.render ∧
      (c.tick frame).1.overlay.clearWidths = [c.sizer.size.render] :=
  ⟨rfl, Renderer.clearWidths_render ..⟩

/-- The second measurement of a frame, if it is due. -/
def settled (container : ContainerSize α) (now : α) (c : Controller σ α) :
    Option (SurfaceSize α) × Controller σ α :=
  if (c.settleDue now).1 then (c.settleDue now).2.settle container now
  else (none, (c.settleDue now).2)

theorem drawFrame_eq [PhaseSource σ α] (container : ContainerSize α) (frame : Frame α)
    (c : Controller σ α) :
    c.drawFrame container frame =
      let (changed, c) := c.settled container frame.time
      (changed.toList.map .resize ++
        [.sphere (c.tick frame).1.sphere, .overlay (c.tick frame).1.overlay], (c.tick frame).2) :=
  rfl

theorem settled_shape (container : ContainerSize α) (now : α) (c : Controller σ α) :
    ∃ sizer log, (c.settled container now).2 = { c with sizer := sizer, log := log } := by
  unfold settled
  split_ifs
  · exact ⟨_, _, settle_eq container now _⟩
  · exact ⟨_, _, rfl⟩

theorem settled_spec (h : c.sizer.Measured cfg before) (hexact : cfg.SizesExact)
    (container : ContainerSize α) (now : α) :
    let measured := if (c.settleDue now).1 then container else before
    (c.settled container now).2.sizer.Measured cfg measured ∧
      (c.settled container now).1.getD (cfg.sizeFor before) = cfg.sizeFor measured := by
  have hwaiting : (c.settleDue now).2.sizer.Measured cfg before := h.takeDue now
  unfold settled
  cases (c.settleDue now).1 with
  | false => exact ⟨hwaiting, rfl⟩
  | true =>
      obtain ⟨hmeasured, hsize⟩ := hwaiting.settle hexact container now
      simp only [if_true]
      constructor
      · rw [settle_eq]
        exact hmeasured
      · rw [← hsize, hwaiting.size]
        rfl

theorem drawFrame_spec [PhaseSource σ α] (h : c.sizer.Measured cfg before)
    (hexact : cfg.SizesExact) (container : ContainerSize α) (frame : Frame α) :
    let measured := if (c.settleDue frame.time).1 then container else before
    (c.drawFrame container frame).2.sizer.Measured cfg measured ∧
      ∀ drawings, Fitting (cfg.sizeFor before) drawings →
        Fitting (cfg.sizeFor measured) (drawings ++ (c.drawFrame container frame).1) := by
  intro measured
  obtain ⟨hmeasured, hsize⟩ := settled_spec h hexact container frame.time
  rw [drawFrame_eq]
  constructor
  · exact hmeasured
  · intro drawings hd
    have hchanged := hd.changed (c.settled container frame.time).1
    rw [hsize] at hchanged
    obtain ⟨hsphere, hoverlay⟩ := tick_width frame (c.settled container frame.time).2
    rw [hmeasured.size] at hsphere hoverlay
    have hframe := hchanged.frame hsphere hoverlay
    rw [List.append_assoc] at hframe
    exact hframe

end Controller

/-! ### Sessions -/

namespace Watched

variable [Scalar α] {cfg : Config α} {w : Watched σ τ α}

/-- The controller has the sizes of the container as it was measured last, the surfaces have them
too, and every frame fits. -/
structure Agrees (cfg : Config α) (w : Watched σ τ α) : Prop where
  sized : w.session.controller.sizer.Measured cfg w.measured
  fitting : Fitting (cfg.sizeFor w.measured) w.drawings

theorem agrees_mount {controller : Controller σ α} {before : ContainerSize α}
    (h : controller.sizer.Measured cfg before) (hexact : cfg.SizesExact)
    (container : ContainerSize α) (clock : StepClock (Task τ) α) (now : α) :
    (Watched.mount controller container clock now).Agrees cfg := by
  have hmeasured : (controller.resize container now).2.sizer.Measured cfg container := by
    rw [Controller.resize_eq]
    exact (h.observe hexact container now).1
  have hdrawn : (controller.mount container now).1 =
      [.resize (controller.resize container now).2.sizer.size] := rfl
  constructor
  · exact hmeasured
  · show Fitting (cfg.sizeFor container) (controller.mount container now).1
    rw [hdrawn, hmeasured.size]
    exact .start _

theorem Agrees.notifyResize (h : w.Agrees cfg) (hexact : cfg.SizesExact) (now : α) :
    (w.notifyResize now).Agrees cfg := by
  obtain ⟨hsized, hfitting⟩ :=
    Controller.containerResized_spec h.sized hexact w.session.container now
  unfold Watched.notifyResize
  split_ifs with hm
  · constructor
    · simp only [Session.notifyResize, if_pos hm]
      exact hsized
    · exact hfitting _ h.fitting
  · exact h

theorem Agrees.draw [PhaseSource σ α] (h : w.Agrees cfg) (hexact : cfg.SizesExact)
    (frame : Frame α) : (w.draw frame).Agrees cfg := by
  obtain ⟨hsized, hfitting⟩ :=
    Controller.drawFrame_spec h.sized hexact w.session.container frame
  exact ⟨hsized, hfitting _ h.fitting⟩

theorem agrees_play [PhaseSource σ α] (hexact : cfg.SizesExact)
    (steps : List (Session.Step τ α)) (hw : w.Agrees cfg) : (w.play steps).Agrees cfg := by
  refine play_keeps (P := fun w => w.Agrees cfg) ?_ ?_ ?_ steps hw
  · exact fun frame w h => h.draw hexact frame
  · exact fun now w h => h.notifyResize hexact now
  · intro w session _ hsizer h
    constructor
    · show session.controller.sizer.Measured cfg w.measured
      rw [hsizer]
      exact h.sized
    · exact h.fitting

end Watched

/-- **Sizes agree in every session.**  Mount a globe with an accepted configuration, whatever happened
to it before, and let anything happen to the session: its container changes, frames, notices, pointer
events, new data.  Then both surfaces were last given the sizes that the controller has, and those are
the sizes of the container as it was measured last; and every frame was drawn, on both layers, at the
side of the drawing buffer that the surfaces had then. -/
theorem sizes_agree [PhaseSource σ Float] {config : Config Float} (hvalid : config.check = .ok ())
    (source : σ) (earlier : List (Controller.Action Float)) (container : ContainerSize Float)
    (clock : StepClock (Task τ) Float) (now : Float) (steps : List (Session.Step τ Float)) :
    let controller := (Controller.create config source).run earlier
    let s := (Session.mount controller container clock now).play steps
    let w := (Watched.mount controller container clock now).play steps
    w.session = s ∧ s.surfaces = Recorder.drawAll w.drawings {} ∧
      s.surfaces.sphere.lastSize? = some (config.sizeFor w.measured) ∧
      s.surfaces.overlay.lastSize? = some (config.sizeFor w.measured) ∧
      s.controller.surfaceSize = config.sizeFor w.measured ∧
      (∀ before frame after, w.drawings = before ++ .sphere frame :: after →
        ∃ size, lastPushed? before = some size ∧ frame.width = size.render) ∧
      ∀ before frame after, w.drawings = before ++ .overlay frame :: after →
        ∃ size, lastPushed? before = some size ∧ frame.clearWidths = [size.render] := by
  intro controller s w
  have hexact := Config.sizesExact_of_check hvalid
  obtain ⟨_, hbefore⟩ := Controller.measured_run hexact source earlier
  have hagrees : w.Agrees config :=
    Watched.agrees_play hexact steps (Watched.agrees_mount hbefore hexact container clock now)
  have hsession : w.session = s := Watched.play_session steps _
  have hsurfaces : s.surfaces = Recorder.drawAll w.drawings {} := by
    rw [← hsession]
    exact Watched.play_surfaces steps rfl
  obtain ⟨hsphere, hoverlay⟩ := Recorder.lastSize?_drawAll w.drawings
  rw [← hsurfaces, hagrees.fitting.pushed] at hsphere hoverlay
  refine ⟨hsession, hsurfaces, hsphere, hoverlay, ?_, ?_, ?_⟩
  · rw [← hsession]
    exact hagrees.sized.size
  · exact fun before frame after h => hagrees.fitting.fits before _ after h
  · exact fun before frame after h => hagrees.fitting.fits before _ after h

/-- A container grows twice, the second time without notice; the second measurement finds out. -/
theorem sizes_agree_settled :
    let config : Config Float := .default
    let earlier : List (Controller.Action Float) := [.setMarkers []]
    let controller := (Controller.create config Unseeded.mk).run earlier
    let clock : StepClock (Task Unit) Float := .startingAt 0
    let steps : List (Session.Step Unit Float) :=
      [.container ⟨500, 500⟩, .notifyResize 0, .container ⟨800, 800⟩, .advance 0, .advance 1]
    let w := (Watched.mount controller ⟨300, 300⟩ clock 0).play steps
    config.check = .ok () ∧ w.measured = ⟨800, 800⟩ ∧
      w.session.surfaces.sphere.lastSize? = some (config.sizeFor w.measured) ∧
      w.session.surfaces.overlay.lastSize? = some (config.sizeFor w.measured) := by
  intro config earlier controller clock steps w
  have hvalid : config.check = .ok () := by decide +kernel
  have hmeasured : w.measured = ⟨800, 800⟩ := by decide +kernel
  obtain ⟨hsession, _, hsphere, hoverlay, _⟩ :=
    sizes_agree hvalid Unseeded.mk earlier ⟨300, 300⟩ clock 0 steps
  rw [← hsession] at hsphere hoverlay
  refine ⟨hvalid, hmeasured, ?_⟩
  simp only [w, controller]
  exact ⟨hsphere, hoverlay⟩

end GlobeView
