import GlobeView.Proofs.DrawnAndPicked
import GlobeView.Proofs.JsonNumbers
import GlobeView.Proofs.OverlayAccounting
import GlobeView.Proofs.OverlayElements

/-! # Undefined coordinates are not drawn

Nothing checks the coordinates of a scene.  An undefined one makes the depth undefined
(`View.isFinite_depth`), and an undefined depth is neither in front nor near the front: both passes
of the overlay and the search for a marker look at the depth before anything else.  An undefined
value of a heat point counts as no heat.

What is left is computed from defined numbers by operations that keep them defined; divisors are
compared with zero first (`particleProgress`, `Vec2.unitPerp?`).  The numbers of a configuration that
was read are finite (`Config.allFinite_ofJson`), so they are defined numbers
(`Renderer.isDefined_ofConfig`). -/

namespace GlobeView

open Scalar Number

/-! ### Configurations over numbers -/

/-- A finite double as the number it is; all others are undefined. -/
noncomputable def Number.ofDouble (x : Float) : Number :=
  if x.isFinite then real (Double.position x * 2 ^ (-1074 : ℤ)) else undefined

@[simp] theorem Number.isFinite_ofDouble (x : Float) :
    Scalar.isFinite (ofDouble x) = x.isFinite := by
  unfold ofDouble
  split_ifs with h
  · exact h.symm
  · exact (Bool.not_eq_true _ ▸ h).symm

section map

variable {α β : Type} (f : α → β)

def Rgba.map (c : Rgba α) : Rgba β := ⟨c.r, c.g, c.b, f c.a⟩

def OverlayColors.map (c : OverlayColors α) : OverlayColors β where
  arc := c.arc.map f
  arcWidth := f c.arcWidth
  particle := c.particle.map f
  particleRadius := f c.particleRadius
  heatCore := c.heatCore.map f
  heatMid := c.heatMid.map f

/-- A configuration over another kind of numbers. -/
def Config.map (c : Config α) : Config β where
  scale := f c.scale
  sizingMode := c.sizingMode
  renderCap := f c.renderCap
  fallbackSize := f c.fallbackSize
  theta := f c.theta
  initialPhi := f c.initialPhi
  damping := f c.damping
  minVelocity := f c.minVelocity
  dragSensitivity := f c.dragSensitivity
  settleDelay := f c.settleDelay
  particlePeriod := f c.particlePeriod
  particlePhaseStep := f c.particlePhaseStep
  arcCurvature := f c.arcCurvature
  limbThreshold := f c.limbThreshold
  heatRadiusFactor := f c.heatRadiusFactor
  minHitRadius := f c.minHitRadius
  hitSizeFactor := f c.hitSizeFactor
  colors := c.colors.map f

end map

/-- The numbers that a renderer draws with are defined. -/
structure Renderer.IsDefined (r : Renderer Number) : Prop where
  arc : isFinite r.colors.arc.a = true
  arcWidth : isFinite r.colors.arcWidth = true
  particle : isFinite r.colors.particle.a = true
  particleRadius : isFinite r.colors.particleRadius = true
  heatCore : isFinite r.colors.heatCore.a = true
  heatMid : isFinite r.colors.heatMid.a = true
  heatRadiusFactor : isFinite r.heatRadiusFactor = true
  arcCurvature : isFinite r.arcCurvature = true
  particlePeriod : isFinite r.particlePeriod = true
  particlePhaseStep : isFinite r.particlePhaseStep = true

theorem Renderer.isDefined_ofConfig {config : Config Float}
    (h : allFinite config.numbers = true) :
    (Renderer.ofConfig (config.map ofDouble)).IsDefined := by
  simp only [Config.numbers, OverlayColors.numbers, Rgba.numbers, allFinite_append, allFinite_cons,
    Bool.and_eq_true] at h
  constructor <;> simp only [ofConfig, Config.map, OverlayColors.map, Rgba.map, isFinite_ofDouble, h]

/-! ### Geometry -/

/-- Both coordinates of a location are defined. -/
def LatLon.isPlace {α : Type} [Scalar α] (l : LatLon α) : Bool := isFinite l.lat && isFinite l.lon

section depth

variable {view : View Number} {location : LatLon Number}

theorem View.depth_of_not_isPlace (h : location.isPlace = false) :
    (view.project location).z = undefined := by
  apply eq_undefined
  rw [isFinite_depth, show (isFinite location.lat && isFinite location.lon) = false from h]
  simp

theorem View.isDefined_project (hwidth : isFinite view.width = true)
    (h : isFinite (view.project location).z = true) :
    (view.project location).point.IsDefined := by
  obtain ⟨hx, hy⟩ := isFinite_project_of_depth h
  exact ⟨hx.trans hwidth, hy.trans hwidth⟩

end depth

namespace Vec2

variable {a b c : Vec2 Number} {t : Number}

theorem IsDefined.add (ha : a.IsDefined) (hb : b.IsDefined) : (a + b).IsDefined := by
  constructor
  · show isFinite (a.x + b.x) = true
    simp [ha.1, hb.1]
  · show isFinite (a.y + b.y) = true
    simp [ha.2, hb.2]

theorem IsDefined.sub (ha : a.IsDefined) (hb : b.IsDefined) : (a - b).IsDefined := by
  constructor
  · show isFinite (a.x - b.x) = true
    simp [ha.1, hb.1]
  · show isFinite (a.y - b.y) = true
    simp [ha.2, hb.2]

theorem IsDefined.midpoint (ha : a.IsDefined) (hb : b.IsDefined) : (a.midpoint b).IsDefined := by
  constructor <;> simp [Vec2.midpoint, ha.1, ha.2, hb.1, hb.2]

/-- A unit vector is divided by a length that is neither zero nor undefined. -/
theorem IsDefined.unitPerp? (ha : a.IsDefined) (h : a.unitPerp? = some b) : b.IsDefined := by
  simp only [Vec2.unitPerp?] at h
  split_ifs at h with hlength
  obtain rfl := Option.some.inj h
  obtain ⟨hpos, hfinite⟩ := not_or.mp hlength
  rw [Bool.not_eq_false] at hfinite
  exact ⟨isFinite_div (by simp [ha.2]) hfinite hpos, isFinite_div ha.1 hfinite hpos⟩

theorem IsDefined.arcControl? (ha : a.IsDefined) (hb : b.IsDefined) {curvature : Number}
    (hcurvature : isFinite curvature = true) (h : GlobeView.arcControl? a b curvature = some c) :
    c.IsDefined := by
  obtain ⟨normal, hnormal, rfl⟩ := Option.map_eq_some_iff.mp h
  have hchord := hb.sub ha
  have hlength : isFinite ((b - a).length * curvature) = true := by
    simp [length, hchord.1, hchord.2, hcurvature]
  exact (ha.midpoint hb).add ((isDefined_scale hlength normal).mpr (hchord.unitPerp? hnormal))

theorem IsDefined.quadraticPoint (ha : a.IsDefined) (hc : c.IsDefined) (hb : b.IsDefined)
    (ht : isFinite t = true) : (GlobeView.quadraticPoint a c b t).IsDefined := by
  constructor <;>
    simp [GlobeView.quadraticPoint, numeral, ha.1, ha.2, hb.1, hb.2, hc.1, hc.2, ht]

end Vec2

theorem isFinite_particleProgress {elapsed period step : Number} (index : ℕ)
    (helapsed : isFinite elapsed = true) (hperiod : isFinite period = true)
    (hstep : isFinite step = true) :
    isFinite (particleProgress elapsed index period step) = true := by
  unfold particleProgress
  split_ifs with hpos
  · rfl
  · exact isFinite_div (isFinite_modulo (by simp [helapsed, hstep]) hperiod hpos) hperiod hpos

/-! ### Heat -/

namespace HeatPoint

/-- Whether the location and the value are defined. -/
def isSound {α : Type} [Scalar α] (p : HeatPoint α) : Bool :=
  p.location.isPlace && isFinite p.value

theorem isFinite_intensity (p : HeatPoint Number) : isFinite p.intensity = true := by
  unfold intensity
  split_ifs with hvalue
  · simp only [clamp]
    split_ifs <;> first | rfl | exact hvalue
  · rfl

theorem intensity_of_undefined {p : HeatPoint Number} (h : isFinite p.value = false) :
    p.intensity = 0 := by
  rw [intensity, h, if_neg Bool.false_ne_true]

end HeatPoint

/-- What rounds to one pixel or more is at least half a pixel. -/
theorem half_le_of_round {a : Number} (ha : isFinite a = true) (h : ¬ Scalar.round a < 1) :
    0.5 ≤ a := by
  obtain ⟨x, rfl⟩ := exists_real ha
  have hround : ¬ Scalar.round x < ((1 : ℕ) : ℝ) := h
  rw [decimal, real_le_real]
  have hhalf : (OfScientific.ofScientific 5 true 1 : ℝ) = 1 / 2 := by norm_num
  rw [Nat.cast_one, not_lt] at hround
  rw [hhalf]
  simp only [Scalar.round] at hround
  split_ifs at hround with hneg
  · have hfloor : (0 : ℝ) ≤ ⌊-x + 1 / 2⌋ := Int.cast_nonneg (Int.floor_nonneg.mpr (by linarith))
    linarith
  · have hfloor : (⌊x + 1 / 2⌋ : ℝ) ≤ x + 1 / 2 := Int.floor_le _
    linarith

/-! ### Elements -/

/-- Whether both ends are places. -/
def Connection.isSound {α : Type} [Scalar α] (c : Connection α) : Bool :=
  c.start.isPlace && c.finish.isPlace

/-- The numbers of a command: coordinates, sizes, places of a gradient and alphas. -/
def OverlayCommand.numbers {α : Type} : OverlayCommand α → List α
  | .clear width => [width]
  | .setBlend _ => []
  | .glow center radius stops =>
    [center.x, center.y, radius] ++ stops.flatMap fun stop => [stop.offset, stop.color.a]
  | .arc start control finish color lineWidth =>
    [start.x, start.y, control.x, control.y, finish.x, finish.y, color.a, lineWidth]
  | .particle center radius color => [center.x, center.y, radius, color.a]

namespace Renderer

variable {r : Renderer Number} {view : View Number}

theorem isFront_of_not_isPlace {location : LatLon Number} (h : location.isPlace = false) :
    (view.project location).isFront = false := by
  rw [Projected.isFront, View.depth_of_not_isPlace h]
  simp

theorem glow_of_not_isPlace {p : HeatPoint Number} (h : p.location.isPlace = false) :
    r.glow view p = .hidden := by
  rw [glow, isFront_of_not_isPlace h]
  rfl

theorem arc_of_not_isSound {c : Connection Number} (h : c.isSound = false) (elapsed : Number)
    (index : ℕ) : r.arc view elapsed index c = .hidden := by
  have hbehind {location : LatLon Number} (hplace : location.isPlace = false) :
      (view.project location).isNearFront r.limbThreshold = false := by
    rw [Projected.isNearFront, View.depth_of_not_isPlace hplace]
    simp
  rw [Connection.isSound, Bool.and_eq_false_iff] at h
  obtain h | h := h
  · rw [arc, hbehind h]
    rfl
  · rw [arc, hbehind h, Bool.and_false]
    rfl

section defined

variable (hr : r.IsDefined) (hwidth : isFinite view.width = true)
include hr hwidth

theorem glow_of_undefined_value {p : HeatPoint Number}
    (hfront : (view.project p.location).isFront = true) (hvalue : isFinite p.value = false) :
    r.glow view p = .degenerate := by
  obtain ⟨w, hw⟩ := exists_real hwidth
  obtain ⟨f, hf⟩ := exists_real hr.heatRadiusFactor
  have hradius : Scalar.round (p.intensity * view.width * r.heatRadiusFactor) < 1 := by
    rw [HeatPoint.intensity_of_undefined hvalue, hw, hf]
    show Scalar.round (((0 : ℕ) : ℝ) * w * f) < ((1 : ℕ) : ℝ)
    norm_num [Scalar.round]
  rw [glow, if_pos hfront]
  exact if_pos hradius

theorem finite_commands_glow {p : HeatPoint Number} {cmd : OverlayCommand Number}
    (h : cmd ∈ (r.glow view p).commands) : ∀ x ∈ cmd.numbers, isFinite x = true := by
  obtain ⟨hfront, -, rfl⟩ := r.of_mem_commands_glow view h
  have hdepth := (isFinite_of_lt (of_decide_eq_true hfront)).2
  obtain ⟨hx, hy⟩ := View.isDefined_project hwidth hdepth
  have hintensity := p.isFinite_intensity
  simp [OverlayCommand.numbers, glowStops, Rgba.withAlpha, Rgba.transparent, numeral, hx, hy,
    hintensity, hwidth, hr.heatRadiusFactor, hr.heatCore, hr.heatMid]

theorem finite_commands_arc {elapsed : Number} (helapsed : isFinite elapsed = true) {index : ℕ}
    {c : Connection Number} {cmd : OverlayCommand Number}
    (h : cmd ∈ (r.arc view elapsed index c).commands) : ∀ x ∈ cmd.numbers, isFinite x = true := by
  obtain ⟨control, hstart, hfinish, hcontrol, hcmd⟩ := r.of_mem_commands_arc view elapsed h
  have ha := View.isDefined_project hwidth (isFinite_of_lt (of_decide_eq_true hstart)).2
  have hb := View.isDefined_project hwidth (isFinite_of_lt (of_decide_eq_true hfinish)).2
  have hc := ha.arcControl? hb hr.arcCurvature hcontrol
  obtain rfl | rfl := hcmd
  · simp [OverlayCommand.numbers, arcOf, ha.1, ha.2, hb.1, hb.2, hc.1, hc.2, hr.arc, hr.arcWidth]
  · have hprogress := isFinite_particleProgress index helapsed hr.particlePeriod
      hr.particlePhaseStep
    have hparticle := ha.quadraticPoint hc hb hprogress
    simp [OverlayCommand.numbers, particleOf, hparticle.1, hparticle.2, hr.particle,
      hr.particleRadius]

end defined

/-! ### Counts -/

theorem countP_filter_add {β : Type} (p good : β → Bool) (xs : List β) :
    xs.countP p = (xs.filter good).countP p + xs.countP fun x => !good x && p x := by
  rw [List.countP_eq_countP_filter_add xs p good, Nat.add_right_inj, List.countP_filter]
  exact congrArg (List.countP · xs) (funext fun x => Bool.and_comm _ _)

section counts

variable (hr : r.IsDefined) (hwidth : isFinite view.width = true)
include hr hwidth

theorem glow_of_not_isSound {p : HeatPoint Number} (h : p.isSound = false) :
    r.glow view p = if (view.project p.location).isFront then .degenerate else .hidden := by
  split_ifs with hfront
  · have hplace : p.location.isPlace = true := by
      by_contra hplace
      rw [isFront_of_not_isPlace (Bool.not_eq_true _ ▸ hplace)] at hfront
      cases hfront
    rw [HeatPoint.isSound, hplace, Bool.true_and] at h
    exact glow_of_undefined_value hr hwidth hfront h
  · rw [glow, if_neg hfront]

theorem countP_glow (kind : Outcome Number → Bool) (heat : List (HeatPoint Number)) :
    (heat.map (r.glow view)).countP kind =
      ((heat.filter HeatPoint.isSound).map (r.glow view)).countP kind +
        heat.countP fun p => !p.isSound &&
          if (view.project p.location).isFront then kind .degenerate else kind .hidden := by
  rw [List.countP_map, List.countP_map, countP_filter_add _ HeatPoint.isSound heat]
  refine congrArg (_ + List.countP · heat) (funext fun p => ?_)
  cases hsound : p.isSound with
  | true => rfl
  | false =>
      rw [Function.comp_apply, glow_of_not_isSound hr hwidth hsound, apply_ite kind]

omit hr hwidth in
theorem countP_arc (kind : Outcome Number → Bool)
    (hkind : ∀ commands commands', kind (.drawn commands) = kind (.drawn commands'))
    (connections : List (Connection Number)) (elapsed : Number) :
    (connections.mapIdx (r.arc view elapsed)).countP kind =
      ((connections.filter Connection.isSound).mapIdx (r.arc view elapsed)).countP kind +
        connections.countP fun c => !c.isSound && kind .hidden := by
  rw [countP_mapIdx_arc hkind r view _ elapsed elapsed,
    countP_mapIdx_arc hkind r view _ elapsed elapsed,
    countP_filter_add _ Connection.isSound connections]
  refine congrArg (_ + List.countP · connections) (funext fun c => ?_)
  cases hsound : c.isSound with
  | true => rfl
  | false => rw [arc_of_not_isSound hsound]

/-- Elements that are not sound are counted as hidden, and heat that is in view all the same as
degenerate. -/
theorem stats_render_sound (connections : List (Connection Number))
    (heat : List (HeatPoint Number)) (elapsed : Number) :
    let sound := r.render view (connections.filter Connection.isSound)
      (heat.filter HeatPoint.isSound) elapsed
    let front (p : HeatPoint Number) := (view.project p.location).isFront
    (r.render view connections heat elapsed).stats =
      { sound.stats with
        degenerate := sound.stats.degenerate + heat.countP fun p => !p.isSound && front p
        hidden := sound.stats.hidden + (heat.countP fun p => !p.isSound && !front p) +
          connections.countP fun c => !c.isSound } := by
  intro sound front
  simp only [render_eq, sound, OverlayStats.mk.injEq]
  refine ⟨?_, ?_, ?_, ?_⟩
  · rw [countP_glow hr hwidth Outcome.isDrawn heat]
    simp [Outcome.isDrawn]
  · rw [countP_arc Outcome.isDrawn (fun _ _ => rfl) connections]
    simp [Outcome.isDrawn]
  · rw [countP_glow hr hwidth Outcome.isDegenerate heat,
      countP_arc Outcome.isDegenerate (fun _ _ => rfl) connections]
    simp only [Outcome.isDegenerate, Bool.if_false_right, Bool.decide_eq_true, Bool.and_true,
      Bool.and_false, List.countP_false, Function.const_apply, front]
    omega
  · rw [countP_glow hr hwidth Outcome.isHidden heat,
      countP_arc Outcome.isHidden (fun _ _ => rfl) connections]
    simp only [Outcome.isHidden, Bool.if_true_right, Bool.decide_eq_true, Bool.or_false,
      Bool.and_true, front]
    omega

end counts

end Renderer

/-! ### Hits -/

theorem isDefined_position {markers : List (Marker Number)} {pointer : Vec2 Number}
    {phi theta : Number} {size : SurfaceSize Number} {o : HitOptions Number}
    {hit : MarkerHit Number} (hwidth : isFinite size.render = true)
    (h : hitTest markers pointer phi theta size o = some hit) : hit.position.IsDefined := by
  simp only [hitTest] at h
  split_ifs at h with hscale
  rw [Bool.and_eq_true, decide_eq_true_iff] at hscale
  obtain ⟨_, p, -, -, hp, hposition⟩ := firstHit?_eq_some h
  have hshown := ((Marker.isSome_hitPoint? _ _ _ _ _).mp (Option.isSome_of_eq_some hp)).1
  have hdepth := (isFinite_of_lt (of_decide_eq_true hshown.2)).2
  have hback : isFinite (1 / size.scaleFactor) = true :=
    isFinite_div rfl hscale.1 (not_le_zero_of_pos hscale.2)
  rw [hposition, Marker.eq_point_of_hitPoint? hp]
  exact (Vec2.isDefined_scale hback _).mpr (View.isDefined_project hwidth hdepth)

/-- **Undefined coordinates are not drawn.**  Whatever configuration was read and whatever is given
to a globe, all numbers of a frame are defined as long as the time and the width are, and no glow has
a radius of less than half a pixel.

An element without a place is hidden, and heat in view without a value is degenerate; the frame counts
what it counts without these, and each of them once.  The place of a hit is defined as well. -/
theorem undefined_coordinates_not_drawn {text : String} {config : Config Float}
    (hconfig : Config.ofJson text = .ok config) {view : View Number} {elapsed : Number}
    (hwidth : isFinite view.width = true) (helapsed : isFinite elapsed = true)
    (connections : List (Connection Number)) (heat : List (HeatPoint Number)) :
    let cfg := config.map ofDouble
    let r := Renderer.ofConfig cfg
    let frame := r.render view connections heat elapsed
    let sound := r.render view (connections.filter Connection.isSound)
      (heat.filter HeatPoint.isSound) elapsed
    let front (p : HeatPoint Number) := (view.project p.location).isFront
    (∀ cmd ∈ frame.commands, ∀ x ∈ cmd.numbers, isFinite x = true) ∧
    (∀ center radius stops, .glow center radius stops ∈ frame.commands → 0.5 ≤ radius) ∧
    (∀ p : HeatPoint Number, p.location.isPlace = false → r.glow view p = .hidden) ∧
    (∀ p : HeatPoint Number, front p = true → isFinite p.value = false →
      r.glow view p = .degenerate) ∧
    (∀ (index : ℕ) (c : Connection Number), c.isSound = false →
      r.arc view elapsed index c = .hidden) ∧
    frame.stats =
      { sound.stats with
        degenerate := sound.stats.degenerate + heat.countP fun p => !p.isSound && front p
        hidden := sound.stats.hidden + (heat.countP fun p => !p.isSound && !front p) +
          connections.countP fun c => !c.isSound } ∧
    ∀ (markers : List (Marker Number)) (pointer : Vec2 Number) (display : Number)
      (hit : MarkerHit Number),
      hitTest markers pointer view.phi view.theta ⟨display, view.width⟩ (.ofConfig cfg) = some hit →
        hit.position.IsDefined := by
  intro cfg r frame sound front
  have hr : r.IsDefined := Renderer.isDefined_ofConfig (Config.allFinite_ofJson hconfig)
  refine ⟨fun cmd hcmd => ?_, fun center radius stops hglow => ?_,
    fun p => Renderer.glow_of_not_isPlace, fun p => Renderer.glow_of_undefined_value hr hwidth,
    fun index c hc => Renderer.arc_of_not_isSound hc elapsed index,
    Renderer.stats_render_sound hr hwidth connections heat elapsed,
    fun _ _ _ _ hhit => isDefined_position hwidth hhit⟩
  · obtain rfl | ⟨_, rfl⟩ | ⟨p, _, hp⟩ | ⟨index, c, _, hc⟩ :=
      r.mem_commands_render view elapsed hcmd
    · exact List.forall_mem_singleton.mpr hwidth
    · exact fun _ hx => nomatch hx
    · exact Renderer.finite_commands_glow hr hwidth hp
    · exact Renderer.finite_commands_arc hr hwidth helapsed hc
  · obtain h | ⟨_, h⟩ | ⟨p, _, hp⟩ | ⟨index, c, _, hc⟩ :=
      r.mem_commands_render view elapsed hglow
    · cases h
    · cases h
    · obtain ⟨-, hround, heq⟩ := r.of_mem_commands_glow view hp
      obtain ⟨-, rfl, -⟩ := OverlayCommand.glow.inj heq
      refine half_le_of_round ?_ hround
      have hintensity := p.isFinite_intensity
      simp [hintensity, hwidth, hr.heatRadiusFactor]
    · obtain ⟨_, -, -, -, h | h⟩ := r.of_mem_commands_arc view elapsed hc <;> cases h

/-- A configuration that bows arcs the other way, a connection that starts nowhere, heat nowhere and
heat without a value: one more is degenerate and two more are hidden than without them. -/
theorem undefined_coordinates_not_drawn_mixed :
    let config : Config Float := { Config.default with theta := 0, arcCurvature := -2.5 }
    let r := Renderer.ofConfig (config.map ofDouble)
    let view : View Number := ⟨real 0, real 0, real 200⟩
    let shown : Connection Number := ⟨⟨real 0, real 0⟩, ⟨real 0, real 90⟩⟩
    let lost : Connection Number := ⟨⟨undefined, real 0⟩, ⟨real 0, real 90⟩⟩
    let warm : HeatPoint Number := ⟨real 0, real 0, real 1⟩
    let nowhere : HeatPoint Number := ⟨real 0, undefined, real 1⟩
    let unvalued : HeatPoint Number := ⟨real 0, real 0, undefined⟩
    let frame := r.render view [lost, shown] [nowhere, unvalued, warm] (real 500)
    let sound := r.render view [shown] [warm] (real 500)
    Config.ofJson "\x7b \"theta\": 0, \"arc_curvature\": -2.5 \x7d" = .ok config ∧
      isFinite view.width = true ∧ isFinite (real 500) = true ∧
      (∀ cmd ∈ frame.commands, ∀ x ∈ cmd.numbers, isFinite x = true) ∧
      frame.stats =
        { sound.stats with
          degenerate := sound.stats.degenerate + 1
          hidden := sound.stats.hidden + 1 + 1 } := by
  intro config r view shown lost warm nowhere unvalued frame sound
  have hconfig : Config.ofJson "\x7b \"theta\": 0, \"arc_curvature\": -2.5 \x7d" = .ok config := by
    decide +kernel
  have hwidth : isFinite view.width = true := rfl
  have helapsed : isFinite (real 500) = true := rfl
  obtain ⟨hfinite, -, -, -, -, hstats, -⟩ :=
    undefined_coordinates_not_drawn hconfig hwidth helapsed [lost, shown] [nowhere, unvalued, warm]
  have hmiddle : (view.project unvalued.location).isFront = true := (isShown_middleMarker 200).2
  have hnowhere : (view.project nowhere.location).isFront = false :=
    Renderer.isFront_of_not_isPlace rfl
  have hunsound : nowhere.isSound = false ∧ unvalued.isSound = false ∧ warm.isSound = true :=
    ⟨rfl, rfl, rfl⟩
  have hsound : [lost, shown].filter Connection.isSound = [shown] ∧
      [nowhere, unvalued, warm].filter HeatPoint.isSound = [warm] := ⟨rfl, rfl⟩
  have hlost : ([lost, shown].countP fun c => !c.isSound) = 1 := rfl
  have hdegenerate : ([nowhere, unvalued, warm].countP fun p =>
      !p.isSound && (view.project p.location).isFront) = 1 := by
    simp [hunsound, hmiddle, hnowhere]
  have hhidden : ([nowhere, unvalued, warm].countP fun p =>
      !p.isSound && !(view.project p.location).isFront) = 1 := by
    simp [hunsound, hmiddle, hnowhere]
  rw [hsound.1, hsound.2, hlost, hdegenerate, hhidden] at hstats
  exact ⟨hconfig, hwidth, helapsed, hfinite, hstats⟩

end GlobeView
