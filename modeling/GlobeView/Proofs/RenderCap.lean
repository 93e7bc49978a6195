import GlobeView.Proofs.ExactNumbers
import GlobeView.Proofs.ControllerTraces
import GlobeView.Proofs.Sizes

/-! # The cap of the drawing buffer

A globe may be drawn in a smaller buffer than the square it is shown in.  The pointer is then
scaled into the buffer, the markers are projected and their hit radii measured there, and the place
of a hit is scaled back out.  Over the real numbers all of it cancels: what is picked depends on the
displayed size alone (`hitTest_render`).

A whole run does not notice the cap either.  `Recapped cap c c'` says that `c'` is `c` with another
cap, apart from its sizes, its log and its metrics; every action keeps this and answers the same
(`Recapped.act`). -/

namespace GlobeView

/-! ### One search -/

theorem Marker.hitPoint?_scale (phi theta width : ℝ) {s : ℝ} (hs : 0 < s) (o : HitOptions ℝ)
    (pointer : Vec2 ℝ) (m : Marker ℝ) :
    m.hitPoint? ⟨phi, theta, width * s⟩ s o (pointer.scale s) =
      (m.hitPoint? ⟨phi, theta, width⟩ 1 o pointer).map (·.scale s) := by
  obtain ⟨hpoint, hdepth⟩ := View.project_scale phi theta width s m.location
  have hnear (distance : ℝ) : decide (o.radius m.size s ≤ distance * s) =
      decide (o.radius m.size 1 ≤ distance) := by
    rw [o.radius_scale m.size hs.le]
    exact decide_eq_decide.mpr (mul_le_mul_iff_left₀ hs)
  have hfront : (View.project ⟨phi, theta, width * s⟩ m.location).isFront =
      (View.project ⟨phi, theta, width⟩ m.location).isFront := by
    simp only [Projected.isFront, hdepth]
  simp only [hitPoint?]
  rw [hpoint, hfront, Vec2.distance_scale _ _ hs.le, hnear]
  split_ifs <;> rfl

theorem firstHit?_scale (phi theta width : ℝ) {s : ℝ} (hs : 0 < s) (o : HitOptions ℝ)
    (pointer : Vec2 ℝ) (index : ℕ) (markers : List (Marker ℝ)) :
    firstHit? ⟨phi, theta, width * s⟩ s o (pointer.scale s) index markers =
      firstHit? ⟨phi, theta, width⟩ 1 o pointer index markers := by
  induction markers generalizing index with
  | nil => rfl
  | cons m rest ih =>
      unfold firstHit?
      rw [m.hitPoint?_scale phi theta width hs]
      cases m.hitPoint? ⟨phi, theta, width⟩ 1 o pointer with
      | none => exact ih (index + 1)
      | some p =>
          have hback : (p.scale s).scale (1 / s) = p.scale (1 / 1) := by
            rw [Vec2.scale_scale, mul_one_div_cancel hs.ne', div_one]
          simp only [Option.map_some, Exact.numeral, Nat.cast_one, hback]

/-- What is picked on a surface is picked in a buffer of the displayed size. -/
theorem hitTest_render (markers : List (Marker ℝ)) (pointer : Vec2 ℝ) (phi theta : ℝ)
    {display render : ℝ} (hdisplay : 0 < display) (hrender : 0 < render) (o : HitOptions ℝ) :
    hitTest markers pointer phi theta ⟨display, render⟩ o =
      firstHit? ⟨phi, theta, display⟩ 1 o pointer 0 markers := by
  have hscale : SurfaceSize.scaleFactor ⟨display, render⟩ = render / display :=
    SurfaceSize.scaleFactor_eq hdisplay
  have hpos : 0 < render / display := div_pos hrender hdisplay
  have hwidth : render = display * (render / display) := (mul_div_cancel₀ render hdisplay.ne').symm
  simp only [hitTest, hscale]
  rw [if_pos (by simpa using hpos)]
  calc firstHit? ⟨phi, theta, render⟩ (render / display) o (pointer.scale (render / display)) 0
        markers
      = firstHit? ⟨phi, theta, display * (render / display)⟩ (render / display) o
          (pointer.scale (render / display)) 0 markers := by rw [← hwidth]
    _ = firstHit? ⟨phi, theta, display⟩ 1 o pointer 0 markers :=
        firstHit?_scale phi theta display hpos o pointer 0 markers

theorem hitTest_center {m : Marker ℝ} (hplace : m.location = ⟨0, 0⟩) (hm : m.tooltip.isSome = true)
    (rest : List (Marker ℝ)) {display render : ℝ} (hdisplay : 0 < display) (hrender : 0 < render)
    {o : HitOptions ℝ} (ho : 0 < o.minRadius) :
    hitTest (m :: rest) ⟨display / 2, display / 2⟩ 0 0 ⟨display, render⟩ o =
      some ⟨0, m, ⟨display / 2, display / 2⟩⟩ := by
  have hradius : ¬ o.radius m.size 1 ≤ 0 := by
    simp only [HitOptions.radius, Exact.max_eq, mul_one, not_le]
    exact lt_max_of_lt_left ho
  have hhit : m.hitPoint? ⟨0, 0, display⟩ 1 o ⟨display / 2, display / 2⟩ =
      some ⟨display / 2, display / 2⟩ := by
    simp only [Marker.hitPoint?, hplace, View.project_center, Projected.point, Vec2.distance_self, hm]
    simp [Projected.isFront, hradius]
  rw [hitTest_render _ _ _ _ hdisplay hrender, firstHit?, hhit]
  simp [Vec2.scale]

/-! ### Sizes -/

/-- Sizes of a globe that is shown alike, whatever the sides of its buffers. -/
structure SurfaceSize.Alike (size size' : SurfaceSize ℝ) : Prop where
  display : size'.display = size.display
  display_pos : 0 < size.display
  render_pos : 0 < size.render
  render_pos' : 0 < size'.render

theorem SurfaceSize.Alike.hitTest {size size' : SurfaceSize ℝ} (h : size.Alike size')
    (markers : List (Marker ℝ)) (pointer : Vec2 ℝ) (phi theta : ℝ) (o : HitOptions ℝ) :
    GlobeView.hitTest markers pointer phi theta size' o =
      GlobeView.hitTest markers pointer phi theta size o := by
  have hdisplay' : 0 < size'.display := h.display ▸ h.display_pos
  rw [hitTest_render markers pointer phi theta hdisplay' h.render_pos' o,
    hitTest_render markers pointer phi theta h.display_pos h.render_pos o, h.display]

namespace Sizer

/-- Sizers that show every container alike, and did so when they measured last. -/
structure Alike (s s' : Sizer ℝ) : Prop where
  target : ∀ container, (s.target container).Alike (s'.target container)
  size : s.size.Alike s'.size

/-- Over the real numbers a measurement always leaves the sizes of the container. -/
theorem size_settle (s : Sizer ℝ) (container : ContainerSize ℝ) (now : ℝ) :
    (s.settle container now).2.size = s.target container := by
  unfold settle
  simp only
  split_ifs with heq
  · exact (eq_of_beq heq).symm
  · rfl

theorem target_settle (s : Sizer ℝ) (container : ContainerSize ℝ) (now : ℝ) :
    (s.settle container now).2.target = s.target := by
  obtain ⟨_, _, hshape⟩ := s.settle_shape container now
  rw [hshape]
  rfl

namespace Alike

variable {s s' : Sizer ℝ}

theorem settle (h : s.Alike s') (container : ContainerSize ℝ) (now : ℝ) :
    (s.settle container now).2.Alike (s'.settle container now).2 where
  target := by
    rw [target_settle, target_settle]
    exact h.target
  size := by
    rw [size_settle, size_settle]
    exact h.target container

theorem observe (h : s.Alike s') (container : ContainerSize ℝ) (now : ℝ) :
    (s.observe container now).2.Alike (s'.observe container now).2 := by
  have harmed : Alike { s with settleAt := some (now + s.settleDelay) }
      { s' with settleAt := some (now + s'.settleDelay) } := ⟨h.target, h.size⟩
  exact harmed.settle container now

theorem takeDue (h : s.Alike s') (now : ℝ) : (s.takeDue now).2.Alike (s'.takeDue now).2 := by
  have hkept (s : Sizer ℝ) : (s.takeDue now).2.target = s.target ∧
      (s.takeDue now).2.size = s.size := by
    obtain ⟨_, hshape⟩ := s.takeDue_shape now
    rw [hshape]
    exact ⟨rfl, rfl⟩
  obtain ⟨htarget, hsize⟩ := hkept s
  obtain ⟨htarget', hsize'⟩ := hkept s'
  constructor
  · rw [htarget, htarget']
    exact h.target
  · rw [hsize, hsize']
    exact h.size

end Alike

end Sizer

theorem Config.alike_sizeFor {cfg : Config ℝ} (h : cfg.check = .ok ()) {cap : ℝ} (hcap : 0 < cap)
    (container : ContainerSize ℝ) :
    (cfg.sizeFor container).Alike (Config.sizeFor { cfg with renderCap := cap } container) := by
  have hpos (field : String) {value : ℝ} (hmem : (field, .positive, value) ∈ cfg.ranges) :
      0 < value := by simpa using cfg.pos_of_check h field hmem
  have hscale : 0 < cfg.scale := hpos "scale" (by simp [ranges])
  have hrender : 0 < cfg.renderCap := hpos "render_cap" (by simp [ranges])
  have hfallback : 0 < cfg.fallbackSize := hpos "fallback_size" (by simp [ranges])
  have hbase : 0 < cfg.sizingMode.baseSize cfg.fallbackSize container := by
    simpa using cfg.sizingMode.baseSize_pos (by simpa using hfallback) container
  have hdisplay : 0 < (cfg.sizeFor container).display := mul_pos hbase hscale
  constructor
  · rfl
  · exact hdisplay
  · show 0 < Scalar.min (cfg.sizeFor container).display cfg.renderCap
    rw [Exact.min_eq]
    exact lt_min hdisplay hrender
  · show 0 < Scalar.min (cfg.sizeFor container).display cap
    rw [Exact.min_eq]
    exact lt_min hdisplay hcap

theorem Sizer.alike_ofConfig {cfg : Config ℝ} (h : cfg.check = .ok ()) {cap : ℝ} (hcap : 0 < cap) :
    (Sizer.ofConfig cfg).Alike (Sizer.ofConfig { cfg with renderCap := cap }) where
  target := cfg.alike_sizeFor h hcap
  size := cfg.alike_sizeFor h hcap _

/-! ### Runs -/

namespace Controller

variable {σ : Type}

/-- `c'` is `c` with another cap.  The sizes show everything alike, and only the log and the metrics
tell of the buffer. -/
structure Recapped (cap : ℝ) (c c' : Controller σ ℝ) : Prop where
  shape : ∃ sizer log metrics, c' =
    { c with
      config := { c.config with renderCap := cap }
      sizer := sizer
      log := log
      metrics := metrics }
  sizer : c.sizer.Alike c'.sizer

namespace Recapped

variable {cap : ℝ} {c c' : Controller σ ℝ}

theorem hitTest (h : Recapped cap c c') (position : Vec2 ℝ) :
    c'.hitTest position = c.hitTest position := by
  obtain ⟨⟨sizer, log, metrics, rfl⟩, hsizer⟩ := h
  exact hsizer.size.hitTest c.scene.markers position c.rotation.phi c.rotation.theta c.hitOptions

theorem setHover (h : Recapped cap c c') (hit : Option (MarkerHit ℝ)) :
    Recapped cap (c.setHover hit) (c'.setHover hit) := by
  obtain ⟨⟨sizer, log, metrics, rfl⟩, hsizer⟩ := h
  rw [setHover_eq, setHover_eq]
  exact ⟨⟨_, _, _, rfl⟩, hsizer⟩

theorem updateHover (h : Recapped cap c c') (position : Vec2 ℝ) :
    Recapped cap (c.updateHover position) (c'.updateHover position) := by
  unfold Controller.updateHover
  rw [h.hitTest]
  exact h.setHover _

theorem refreshHover (h : Recapped cap c c') : Recapped cap c.refreshHover c'.refreshHover := by
  have hfresh : c'.freshHover = c.freshHover := by
    unfold freshHover
    simp only [h.hitTest]
    obtain ⟨⟨sizer, log, metrics, rfl⟩, _⟩ := h
    rfl
  rw [refreshHover_eq, refreshHover_eq, hfresh]
  exact h.setHover _

theorem handle (h : Recapped cap c c') (event : PointerEvent ℝ) :
    Recapped cap (c.handle event).2 (c'.handle event).2 := by
  cases event with
  | down position =>
      obtain ⟨⟨sizer, log, metrics, rfl⟩, hsizer⟩ := h
      exact ⟨⟨_, _, _, rfl⟩, hsizer⟩
  | move position =>
      have hmoved : Recapped cap { c with pointer := some position }
          { c' with pointer := some position } := by
        obtain ⟨⟨sizer, log, metrics, rfl⟩, hsizer⟩ := h
        exact ⟨⟨_, _, _, rfl⟩, hsizer⟩
      simp only [Controller.handle, pointerMove]
      obtain ⟨⟨sizer, log, metrics, rfl⟩, hsizer⟩ := h
      -- both globes are held or neither is; a held one turns by display pixels
      simp only
      split_ifs
      · exact ⟨⟨_, _, _, rfl⟩, hsizer⟩
      · exact hmoved.updateHover position
  | up position =>
      have hreleased : Recapped cap (c.released position) (c'.released position) := by
        simp only [released, h.hitTest]
        obtain ⟨⟨sizer, log, metrics, rfl⟩, hsizer⟩ := h
        exact ⟨⟨_, _, _, rfl⟩, hsizer⟩
      simp only [Controller.handle, pointerUp_eq, h.hitTest]
      cases c.hitTest position with
      | none => exact hreleased
      | some hit =>
          obtain ⟨⟨sizer, log, metrics, heq⟩, hsizer⟩ := hreleased
          simp only [click_eq, heq]
          rw [heq] at hsizer
          exact ⟨⟨_, _, _, rfl⟩, hsizer⟩
  | leave =>
      obtain ⟨⟨sizer, log, metrics, rfl⟩, hsizer⟩ := h
      simp only [Controller.handle, pointerLeave, setHover_eq, endDrag_eq]
      exact ⟨⟨_, _, _, rfl⟩, hsizer⟩

theorem clickOf (h : Recapped cap c c') (a : Action ℝ) :
    Controller.clickOf a c' = Controller.clickOf a c := by
  cases a with
  | pointer event =>
      simp only [Controller.clickOf, handle_fst, h.hitTest]
  | _ => rfl

variable [PhaseSource σ ℝ]

theorem act (h : Recapped cap c c') (a : Action ℝ) : Recapped cap (c.act a) (c'.act a) := by
  have hdata (scene : Scene ℝ) :
      Recapped cap { c with scene := scene } { c' with scene := scene } := by
    obtain ⟨⟨sizer, log, metrics, rfl⟩, hsizer⟩ := h
    exact ⟨⟨_, _, _, rfl⟩, hsizer⟩
  have hscene : c'.scene = c.scene := by
    obtain ⟨⟨sizer, log, metrics, rfl⟩, _⟩ := h
    rfl
  cases a with
  | pointer event => exact h.handle event
  | setScene scene => exact (hdata scene).refreshHover
  | setMarkers markers =>
      simp only [Controller.act, setMarkers, hscene]
      exact (hdata _).refreshHover
  | resize container now =>
      obtain ⟨⟨sizer, log, metrics, rfl⟩, hsizer⟩ := h
      simp only [Controller.act, resize_eq]
      exact ⟨⟨_, _, _, rfl⟩, hsizer.observe container now⟩
  | settle container now =>
      obtain ⟨⟨sizer, log, metrics, rfl⟩, hsizer⟩ := h
      simp only [Controller.act, settle_eq]
      exact ⟨⟨_, _, _, rfl⟩, hsizer.settle container now⟩
  | settleDue now =>
      obtain ⟨⟨sizer, log, metrics, rfl⟩, hsizer⟩ := h
      exact ⟨⟨_, _, _, rfl⟩, hsizer.takeDue now⟩
  | _ =>
      obtain ⟨⟨sizer, log, metrics, rfl⟩, hsizer⟩ := h
      exact ⟨⟨_, _, _, rfl⟩, hsizer⟩

theorem run (h : Recapped cap c c') (actions : List (Action ℝ)) :
    Recapped cap (c.run actions) (c'.run actions) ∧ clicks actions c' = clicks actions c := by
  induction actions generalizing c c' with
  | nil => exact ⟨h, rfl⟩
  | cons a rest ih =>
      obtain ⟨hrun, hclicks⟩ := ih (h.act a)
      refine ⟨hrun, ?_⟩
      unfold clicks at hclicks ⊢
      rw [trace, trace, h.clickOf, hclicks]

end Recapped

theorem recapped_create {cfg : Config ℝ} (hcfg : cfg.check = .ok ()) {cap : ℝ} (hcap : 0 < cap)
    (source : σ) :
    Recapped cap (create cfg source) (create { cfg with renderCap := cap } source) where
  shape := ⟨_, _, _, rfl⟩
  sizer := Sizer.alike_ofConfig hcfg hcap

/-- **Picking does not see the cap of the buffer.**  On a surface of a given displayed size the same
is picked, and shown in the same place, whatever the side of its buffer; and a globe with another
cap hovers and clicks the same markers, and shows their tooltips in the same places, in every
run. -/
theorem picking_ignores_renderCap [PhaseSource σ ℝ] :
    (∀ (markers : List (Marker ℝ)) (pointer : Vec2 ℝ) (phi theta : ℝ) (o : HitOptions ℝ)
      {display render : ℝ}, 0 < display → 0 < render →
        GlobeView.hitTest markers pointer phi theta ⟨display, render⟩ o =
          GlobeView.hitTest markers pointer phi theta ⟨display, display⟩ o) ∧
    ∀ {cfg : Config ℝ} {cap : ℝ} (source : σ) (actions : List (Action ℝ)),
      cfg.check = .ok () → 0 < cap →
        let start := create cfg source
        let start' := create { cfg with renderCap := cap } source
        (start'.run actions).hover = (start.run actions).hover ∧
        clicks actions start' = clicks actions start ∧
        (start'.run actions).handlerCalls = (start.run actions).handlerCalls ∧
        ∀ position,
          (start'.run actions).hitTest position = (start.run actions).hitTest position := by
  constructor
  · intro markers pointer phi theta o display render hdisplay hrender
    rw [hitTest_render markers pointer phi theta hdisplay hrender,
      hitTest_render markers pointer phi theta hdisplay hdisplay]
  · intro cfg cap source actions hcfg hcap start start'
    obtain ⟨hrun, hclicks⟩ := (recapped_create hcfg hcap source).run actions
    have hpick := hrun.hitTest
    obtain ⟨⟨sizer, log, metrics, heq⟩, _⟩ := hrun
    refine ⟨?_, hclicks, ?_, hpick⟩
    · rw [heq]
    · rw [heq]

/-- A marker in the middle of a globe that is shown twice as large as it is drawn, and one under the
pointer of a globe with a small buffer. -/
theorem picking_ignores_renderCap_center :
    let m : Marker ℝ := ⟨⟨0, 0⟩, 0.05, some "here", false⟩
    let actions : List (Action ℝ) := [.setMarkers [m], .pointer (.move ⟨150, 150⟩)]
    let start : Controller Unseeded ℝ := create .default .mk
    let start' : Controller Unseeded ℝ := create { Config.default with renderCap := 100 } .mk
    GlobeView.hitTest [m] ⟨1000, 1000⟩ 0 0 ⟨2000, 1000⟩ ⟨10, 200⟩ = some ⟨0, m, ⟨1000, 1000⟩⟩ ∧
      (start'.run actions).hover = (start.run actions).hover := by
  intro m actions start start'
  obtain ⟨hsurface, hrun⟩ := picking_ignores_renderCap (σ := Unseeded)
  constructor
  · rw [hsurface [m] ⟨1000, 1000⟩ 0 0 ⟨10, 200⟩ (by norm_num) (by norm_num)]
    have hhalf : (2000 : ℝ) / 2 = 1000 := by norm_num
    have hcenter : GlobeView.hitTest [m] ⟨2000 / 2, 2000 / 2⟩ 0 0 ⟨2000, 2000⟩ ⟨10, 200⟩ =
        some ⟨0, m, ⟨2000 / 2, 2000 / 2⟩⟩ :=
      hitTest_center rfl rfl [] (by norm_num) (by norm_num) (by norm_num)
    rw [hhalf] at hcenter
    exact hcenter
  · have hcheck : (Config.default : Config ℝ).check = .ok () := by
      simp [Config.check, Config.violation?, Config.ranges, Config.default, Expected.holds]
      norm_num
    exact (hrun .mk actions hcheck (by norm_num)).1

end Controller
end GlobeView
