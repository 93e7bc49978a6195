import GlobeView.Proofs.BufferCap
import GlobeView.Page.Painting

/-! # The square that a frame clears

The first thing that a frame does to its canvas is to clear a square at the origin, as long as the
side of the surface; nothing else is cleared (`Drawing.clearsFirst_paint`).  The buffer of the
canvas has a whole number of pixels instead, the nearest to that side and at least one.  Where the
side was rounded up, the square ends inside the last row and the last column of the buffer.

So a frame clears its whole buffer exactly if the side of its surface is at least a pixel long and
was rounded down, and no configuration has such sides only (`cleared_square_covers_iff`). -/

namespace GlobeView

open Double

variable {σ τ α : Type}

/-! ### Painting -/

/-- The width of the square that a painting step clears. -/
def Paint.clearWidth? : Paint α → Option α
  | .clear width => some width
  | _ => none

/-- Painting that first clears a square of the given width, and nothing afterwards. -/
def ClearsFirst (width : α) (steps : List (Paint α)) : Prop :=
  ∃ rest, steps = .clear width :: rest ∧ rest.filterMap Paint.clearWidth? = []

/-- A frame of the overlay that starts with clearing a square. -/
def OverlayFrame.StartsClear (frame : OverlayFrame α) : Prop :=
  ∃ width rest, frame.commands = .clear width :: rest

section painting
variable [Scalar α]

theorem Renderer.startsClear_render (r : Renderer α) (view : View α)
    (connections : List (Connection α)) (heat : List (HeatPoint α)) (elapsed : α) :
    (r.render view connections heat elapsed).StartsClear := by
  rw [render_eq]
  exact ⟨_, _, rfl⟩

/-- The steps that paint one drawing step, when `next` is the number of the next gradient. -/
def Drawing.paint (next : ℕ) : Drawing α → List (Paint α)
  | .resize _ => []
  | .sphere frame => frame.paint
  | .overlay frame => (frame.paint next).1

/-- Neither dots nor markers clear anything. -/
theorem SphereFrame.clearsFirst_paint (frame : SphereFrame α) :
    ClearsFirst frame.width frame.paint := by
  have hdots (view : View α) (locations : List (LatLon α)) :
      (locations.filterMap (dotPaint? view)).filterMap Paint.clearWidth? = [] := by
    rw [List.filterMap_filterMap, List.filterMap_eq_nil_iff]
    intro location _
    simp only [dotPaint?]
    split_ifs <;> rfl
  have hmarkers (view : View α) (markers : List (AnimatedMarker α)) :
      (markers.filterMap (markerPaint? view)).filterMap Paint.clearWidth? = [] := by
    rw [List.filterMap_filterMap, List.filterMap_eq_nil_iff]
    intro m _
    simp only [markerPaint?]
    split_ifs <;> rfl
  refine ⟨_, rfl, ?_⟩
  simp [List.filterMap_append, List.filterMap_cons, Paint.clearWidth?, hdots, hmarkers]

/-- The overlay is painted command by command, and only the commands that clear do. -/
theorem clearWidths_paintCommands (next : ℕ) (commands : List (OverlayCommand α)) :
    (paintCommands next commands).1.filterMap Paint.clearWidth? =
      commands.filterMap OverlayCommand.clearWidth? := by
  induction commands generalizing next with
  | nil => rfl
  | cons command rest ih =>
      have hcommand : (command.paint next).1.filterMap Paint.clearWidth? =
          command.clearWidth?.toList := by
        cases command with
        | glow center radius stops =>
            simp only [OverlayCommand.paint]
            split_ifs <;> rfl
        | _ => rfl
      simp only [paintCommands]
      rw [List.filterMap_append, hcommand, ih, List.filterMap_cons]
      cases command.clearWidth? <;> rfl

theorem OverlayFrame.clearsFirst_paint {frame : OverlayFrame α} {width : α}
    (hstart : frame.StartsClear) (hwidths : frame.clearWidths = [width]) (next : ℕ) :
    ClearsFirst width (frame.paint next).1 := by
  obtain ⟨first, rest, hcommands⟩ := hstart
  rw [OverlayFrame.clearWidths, hcommands, List.filterMap_cons] at hwidths
  obtain ⟨rfl, hrest⟩ := List.cons.inj hwidths
  refine ⟨(paintCommands next rest).1, ?_, ?_⟩
  · rw [OverlayFrame.paint, hcommands]
    rfl
  · rw [clearWidths_paintCommands]
    exact hrest

theorem Drawing.clearsFirst_paint {d : Drawing α} {size? : Option (SurfaceSize α)}
    (hframe : d.pushed? = none) (hfits : d.Fits size?)
    (hstart : ∀ frame, d = .overlay frame → frame.StartsClear) :
    ∃ size, size? = some size ∧ ∀ next, ClearsFirst size.render (d.paint next) := by
  cases d with
  | resize size => cases hframe
  | sphere frame =>
      obtain ⟨size, hsize, hwidth⟩ := hfits
      exact ⟨size, hsize, fun _ => hwidth ▸ frame.clearsFirst_paint⟩
  | overlay frame =>
      obtain ⟨size, hsize, hwidths⟩ := hfits
      exact ⟨size, hsize, OverlayFrame.clearsFirst_paint (hstart frame rfl) hwidths⟩

end painting

/-! ### Sessions -/

theorem mem_of_lastPushed? {drawings : List (Drawing α)} {size : SurfaceSize α}
    (h : lastPushed? drawings = some size) : .resize size ∈ drawings := by
  have hmem : size ∈ drawings.filterMap Drawing.pushed? := List.mem_of_getLast? h
  obtain ⟨d, hd, hpushed⟩ := List.mem_filterMap.mp hmem
  cases d with
  | resize new =>
      obtain rfl := Option.some.inj hpushed
      exact hd
  | sphere frame => cases hpushed
  | overlay frame => cases hpushed

theorem Sizer.settle_fst [Scalar α] {s : Sizer α} {container : ContainerSize α} {now : α}
    {size : SurfaceSize α} (h : (s.settle container now).1 = some size) :
    size = s.target container := by
  unfold settle at h
  simp only at h
  split_ifs at h
  exact (Option.some.inj h).symm

/-- What a session draws under a configuration: the size of a container, or a frame whose overlay
starts with clearing a square. -/
def Drawing.Regular [Scalar α] (cfg : Config α) : Drawing α → Prop
  | .resize size => ∃ container, size = cfg.sizeFor container
  | .sphere _ => True
  | .overlay frame => frame.StartsClear

namespace Watched

variable [Scalar α] [PhaseSource σ α] {cfg : Config α} {w : Watched σ τ α}

omit [PhaseSource σ α] in
theorem regular_answer {answer : Option (SurfaceSize α)}
    (h : ∀ size, answer = some size → ∃ container, size = cfg.sizeFor container) :
    ∀ d ∈ answer.toList.map Drawing.resize, d.Regular cfg := by
  intro d hd
  obtain ⟨size, hsize, rfl⟩ := List.mem_map.mp hd
  exact h size (Option.mem_toList.mp hsize)

theorem regular_play (hexact : cfg.SizesExact) (steps : List (Session.Step τ α))
    (hw : w.Agrees cfg) (hbefore : ∀ d ∈ w.drawings, d.Regular cfg) :
    ∀ d ∈ (w.play steps).drawings, d.Regular cfg := by
  refine (play_keeps (P := fun w => w.Agrees cfg ∧ ∀ d ∈ w.drawings, d.Regular cfg)
    ?_ ?_ ?_ steps ⟨hw, hbefore⟩).2
  · rintro frame w ⟨hw, hbefore⟩
    have hanswer (size : SurfaceSize α)
        (hsize : (w.session.controller.settled w.session.container frame.time).1 = some size) :
        ∃ container, size = cfg.sizeFor container := by
      unfold Controller.settled at hsize
      split_ifs at hsize
      have hwaiting := hw.sized.takeDue frame.time
      exact ⟨_, (Sizer.settle_fst hsize).trans (hwaiting.target _)⟩
    refine ⟨hw.draw hexact frame, ?_⟩
    simp only [draw, Controller.drawFrame_eq, List.forall_mem_append, List.forall_mem_cons]
    exact ⟨hbefore, regular_answer hanswer, trivial, Renderer.startsClear_render ..,
      List.forall_mem_nil _⟩
  · rintro now w ⟨hw, hbefore⟩
    have hanswer (size : SurfaceSize α)
        (hsize : (w.session.controller.sizer.observe w.session.container now).1 = some size) :
        ∃ container, size = cfg.sizeFor container :=
      ⟨_, (Sizer.settle_fst hsize).trans (hw.sized.target _)⟩
    refine ⟨hw.notifyResize hexact now, ?_⟩
    unfold notifyResize
    split_ifs
    · exact List.forall_mem_append.mpr ⟨hbefore, regular_answer hanswer⟩
    · exact hbefore
  · rintro w session _ hsizer ⟨hw, hbefore⟩
    refine ⟨⟨?_, hw.fitting⟩, hbefore⟩
    show session.controller.sizer.Measured cfg w.measured
    rw [hsizer]
    exact hw.sized

end Watched

/-! ### Squares and buffers -/

theorem Watched.draw_mount [Scalar α] [PhaseSource σ α] {config : Config α}
    (hexact : config.SizesExact) (source : σ) (container : ContainerSize α)
    (clock : StepClock (Task τ) α) (now : α) (frame : Frame α) :
    let w := (Watched.mount (Controller.create config source) container clock now).draw frame
    ∃ before sphere overlay, w.drawings = before ++ [.sphere sphere, .overlay overlay] ∧
      lastPushed? before = some (config.sizeFor container) ∧
      sphere.width = (config.sizeFor container).render ∧
      overlay.clearWidths = [(config.sizeFor container).render] := by
  intro w
  have hagrees : w.Agrees config :=
    (agrees_mount (Sizer.measured_ofConfig config) hexact container clock now).draw hexact frame
  have hmeasured : w.measured = container := ite_self container
  obtain ⟨before, sphere, overlay, hdrawings⟩ : ∃ before sphere overlay,
      w.drawings = before ++ [.sphere sphere, .overlay overlay] := by
    simp only [w, draw, Controller.drawFrame_eq]
    exact ⟨_, _, _, (List.append_assoc ..).symm⟩
  have hpushed : lastPushed? before = some (config.sizeFor container) := by
    have hlast := hagrees.fitting.pushed
    rw [hdrawings, List.append_cons, lastPushed?_concat, lastPushed?_concat, hmeasured] at hlast
    exact hlast
  obtain ⟨size, hsize, hsphere⟩ := hagrees.fitting.fits before _ [.overlay overlay] hdrawings
  obtain ⟨size', hsize', hoverlay⟩ := hagrees.fitting.fits (before ++ [.sphere sphere]) _ []
    (by rw [hdrawings, List.append_assoc]; rfl)
  rw [lastPushed?_concat] at hsize'
  obtain rfl := Option.some.inj (hpushed.symm.trans hsize)
  obtain rfl := Option.some.inj (hpushed.symm.trans hsize')
  exact ⟨before, sphere, overlay, hdrawings, hpushed, hsphere, hoverlay⟩

theorem Config.side_least_lt_one {config : Config Float} (hvalid : config.check = .ok ()) :
    (config.sizeFor ⟨5e-324, 5e-324⟩).side < 1 := by
  have hscale : 0 < config.scale ∧ config.scale.isFinite = true :=
    positive_of_check hvalid "scale" (by simp [ranges])
  have hstands := (Unsigned.of_pos hscale.1).stands hscale.2
  have hbase : config.sizingMode.baseSize config.fallbackSize ⟨5e-324, 5e-324⟩ = 5e-324 :=
    SizingMode.baseSize_square _ _ (by decide +kernel) (by decide +kernel)
  have hleast : position 5e-324 = 1 := by decide +kernel
  have hfar : nearest overflow < unit := by decide +kernel
  have hshort : position (config.sizeFor ⟨5e-324, 5e-324⟩).render < unit :=
    calc position (config.sizeFor ⟨5e-324, 5e-324⟩).render
        ≤ position (5e-324 * config.scale) := by
          rw [position_render hvalid, sizeFor, surfaceSize, hbase]
          exact min_le_left _ _
      _ = nearest (position config.scale) := by rw [position_mul, hleast, one_mul]
      _ ≤ nearest overflow := nearest_mono (by
          rw [hstands.position]
          exact Int.ofNat_le.mpr hstands.lt_overflow.le)
      _ < unit := hfar
  rw [SurfaceSize.side, value, div_lt_one (Nat.cast_pos.mpr unit_pos)]
  exact_mod_cast hshort

/-- **Clearing the whole buffer.**  Take an accepted configuration and any session of a globe.
Every frame that is drawn first clears a square as long as the side of the surfaces, and nothing
else.  That square covers all pixels of the buffer exactly if the side is at least one pixel long
and is rounded down to whole pixels (or is as long as the longest buffer); otherwise the buffer is
longer by at most half a pixel, if it has more than one.  Under every accepted configuration there
is a container in which the first frame clears less than its buffer, on both layers. -/
theorem cleared_square_covers_iff [PhaseSource σ Float] {config : Config Float}
    (hvalid : config.check = .ok ()) (source : σ) (clock : StepClock (Task τ) Float) (now : Float) :
    (∀ (earlier : List (Controller.Action Float)) (container : ContainerSize Float)
      (steps : List (Session.Step τ Float)) (before : List (Drawing Float)) (d : Drawing Float)
      (after : List (Drawing Float)),
      let controller := (Controller.create config source).run earlier
      let w := (Watched.mount controller container clock now).play steps
      w.drawings = before ++ d :: after → d.pushed? = none →
        ∃ size, lastPushed? before = some size ∧
          (∀ next, ClearsFirst size.render (d.paint next)) ∧
          ((size.bufferPixels.toNat : ℚ) ≤ size.side ↔
            1 ≤ size.side ∧ (Int.fract size.side < 1 / 2 ∨ 4294967295 ≤ size.side)) ∧
          (size.bufferPixels.toNat : ℚ) ≤ max 1 (size.side + 1 / 2)) ∧
    ∃ container, ∀ frame,
      let w := (Watched.mount (Controller.create config source) container clock now).draw frame
      ∃ before sphere overlay, ∃ size : SurfaceSize Float,
        w.drawings = before ++ [.sphere sphere, .overlay overlay] ∧
          lastPushed? before = some size ∧ sphere.width = size.render ∧
          overlay.clearWidths = [size.render] ∧ size.side < (size.bufferPixels.toNat : ℚ) := by
  have hexact := Config.sizesExact_of_check hvalid
  constructor
  · intro earlier container steps before d after controller w hdrawings hframe
    obtain ⟨_, hbefore⟩ := Controller.measured_run hexact source earlier
    have hmount := Watched.agrees_mount hbefore hexact container clock now
    have hagrees : w.Agrees config := Watched.agrees_play hexact steps hmount
    have hregular : ∀ d ∈ w.drawings, d.Regular config := by
      refine Watched.regular_play hexact steps hmount ?_
      rintro _ (_ | ⟨_, ⟨⟩⟩)
      exact ⟨container, Option.some.inj hmount.fitting.pushed⟩
    obtain ⟨size, hsize, hclears⟩ := Drawing.clearsFirst_paint hframe
      (hagrees.fitting.fits before d after hdrawings) fun frame hd => by
        have hmem : d ∈ w.drawings := hdrawings ▸ List.mem_append_cons_self
        rw [hd] at hmem
        exact hregular _ hmem
    have hmem : .resize size ∈ w.drawings :=
      hdrawings ▸ List.mem_append_left _ (mem_of_lastPushed? hsize)
    obtain ⟨measured, rfl⟩ := hregular _ hmem
    have hdrawable := Config.drawable_sizeFor hvalid measured
    exact ⟨_, hsize, hclears, hdrawable.pixels_le_side_iff, hdrawable.pixels_le⟩
  · refine ⟨⟨5e-324, 5e-324⟩, fun frame => ?_⟩
    obtain ⟨before, sphere, overlay, hdrawings, hpushed, hsphere, hoverlay⟩ :=
      Watched.draw_mount hexact source ⟨5e-324, 5e-324⟩ clock now frame
    refine ⟨before, sphere, overlay, _, hdrawings, hpushed, hsphere, hoverlay, ?_⟩
    by_contra hcovers
    exact absurd ((Config.drawable_sizeFor hvalid _).pixels_le_side_iff.mp (not_lt.mp hcovers)).1
      (not_le.mpr (Config.side_least_lt_one hvalid))

/-- The sphere of a globe in a container of 100.5 pixels clears half a pixel less than its
buffer. -/
theorem cleared_square_covers_iff_halfway :
    let config : Config Float := .default
    let container : ContainerSize Float := ⟨100.5, 100.5⟩
    let clock : StepClock (Task Unit) Float := .startingAt 0
    let w := (Watched.mount (Controller.create config Unseeded.mk) container clock 0).play
      [.draw ⟨0, 0, 0⟩]
    config.check = .ok () ∧ ∃ before sphere overlay, ∃ size : SurfaceSize Float,
      w.drawings = before ++ .sphere sphere :: [.overlay overlay] ∧
        lastPushed? before = some size ∧ ClearsFirst size.render sphere.paint ∧
        size.side < (size.bufferPixels.toNat : ℚ) := by
  intro config container clock w
  have hvalid : config.check = .ok () := by decide +kernel
  have hstands : Stands (config.sizeFor container).render (201 * (unit / 2)) :=
    ⟨by decide +kernel, by decide +kernel⟩
  have hside : (config.sizeFor container).side = 201 / 2 := hstands.value_halves
  have hfract : Int.fract (201 / 2 : ℚ) = 1 / 2 := by
    rw [Int.fract_eq_iff]
    exact ⟨by norm_num, by norm_num, 100, by norm_num⟩
  obtain ⟨before, sphere, overlay, hdrawings, hpushed, _⟩ :=
    Watched.draw_mount (Config.sizesExact_of_check hvalid) Unseeded.mk container clock 0 ⟨0, 0, 0⟩
  obtain ⟨size, hsize, hclears, hiff, _⟩ := (cleared_square_covers_iff hvalid Unseeded.mk clock 0).1
    [] container [.draw ⟨0, 0, 0⟩] before (.sphere sphere) [.overlay overlay] hdrawings rfl
  obtain rfl := Option.some.inj (hpushed.symm.trans hsize)
  refine ⟨hvalid, before, sphere, overlay, _, hdrawings, hpushed, hclears 0, ?_⟩
  rw [← not_le, hiff, hside, hfract]
  norm_num

/-- Neither layer of such a globe clears the last row and column of its buffer. -/
theorem cleared_square_misses_edge :
    let config : Config Float := .default
    let clock : StepClock (Task Unit) Float := .startingAt 0
    let w := (Watched.mount (Controller.create config Unseeded.mk) ⟨100.5, 100.5⟩ clock 0).play
      [.advance 0]
    config.check = .ok () ∧ ∃ (size : SurfaceSize Float) (sphere : SphereFrame Float)
        (overlay : OverlayFrame Float),
      w.drawings = [.resize size, .sphere sphere, .overlay overlay] ∧
        ClearsFirst sphere.width sphere.paint ∧ overlay.clearWidths = [sphere.width] ∧
        sphere.width = 100.5 ∧ size.bufferPixels = 101 ∧
        sphere.width < Scalar.ofNat size.bufferPixels.toNat := by
  intro config clock w
  let c : Controller Unseeded Float := ((Controller.create config .mk).mount ⟨100.5, 100.5⟩ 0).2
  have hsettled : (c.settled ⟨100.5, 100.5⟩ 0).1 = none := by decide +kernel
  have hdrawings : w.drawings =
      [.resize c.surfaceSize] ++ ((c.settled ⟨100.5, 100.5⟩ 0).1.toList.map .resize ++
        [.sphere (((c.settled ⟨100.5, 100.5⟩ 0).2.tick ⟨0, 0, 0⟩).1.sphere),
          .overlay (((c.settled ⟨100.5, 100.5⟩ 0).2.tick ⟨0, 0, 0⟩).1.overlay)]) := rfl
  rw [hsettled] at hdrawings
  refine ⟨by decide +kernel, _, _, _, hdrawings, SphereFrame.clearsFirst_paint _, ?_, ?_, ?_, ?_⟩
  · exact Renderer.clearWidths_render ..
  all_goals decide +kernel

end GlobeView
