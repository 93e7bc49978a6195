import GlobeView.Proofs.JsonMembers
import GlobeView.Proofs.JsonRoundTrip

/-! # Configurations that are given in part

Every field of a configuration may be left out, and every field of its overlay colors; a color is
written with all of its components.  What was left out is as it is by default.

* `Config.replaced` spells out what is read: each field is the given one or the default one.
  `Config.parts` are the members that a text may have, and each of them puts its own field
  (`Config.replaces`), so that it is read whatever its order (`Config.reads`).
* Numbers of a text are finite.  So only `Config.demands` is left to be checked, and the first of
  them that does not hold is the violation (`Config.violation?_eq`). -/

namespace GlobeView

open Json (Blank Entry ObjectText Reads RecordField RecordPart Replaces)

namespace Rgba

/-- A color with the components that are given in place of its own. -/
def replaced (given : String → Bool) (c d : Rgba Float) : Rgba Float where
  r := if given "r" then c.r else d.r
  g := if given "g" then c.g else d.g
  b := if given "b" then c.b else d.b
  a := if given "a" then c.a else d.a

/-- The components of a color. -/
def parts (c : Rgba Float) : List (RecordPart (Rgba Float)) := c.entries.map .ofEntry

theorem replaces (c d : Rgba Float) : Replaces c.parts d fun given => c.replaced given d where
  none := rfl
  put := by
    simp only [parts, entries, Entry.number, RecordPart.ofEntry, List.map_cons, List.map_nil,
      List.forall_mem_cons, replaced]
    simp
  congr := by
    intro given given' h
    simp only [parts, entries, Entry.number, RecordPart.ofEntry, List.map_cons, List.map_nil,
      List.forall_mem_cons] at h
    simp only [replaced, h]

/-- A color is read from its components in any order, with anything else among them. -/
theorem reads {c : Rgba Float} (h : Readable c.numbers) (hfinite : allFinite c.numbers = true) :
    Reads reader (ObjectText (fields.map RecordField.name) c.parts) c := by
  have hfields : ∀ p ∈ c.parts, p.IsFieldOf fields := by
    intro p hp
    obtain ⟨e, he, rfl⟩ := List.mem_map.mp hp
    have hgood := List.all_eq_true.mp (c.good_entries.trans hfinite)
    exact RecordPart.isFieldOf_ofEntry (isFieldOf_entries h e he) (hgood e he)
  have hread := Json.reads_record (c.replaces .transparent) (fun _ => true) hfields
    (show ["r", "g", "b", "a"].Nodup by decide)
    (show ∀ f ∈ fields, f.required = true → f.name ∈ ["r", "g", "b", "a"] ∧ true = true by decide)
  rw [List.filter_true] at hread
  exact hread

end Rgba

namespace OverlayColors

/-- Overlay colors with those that are given in place of their own. -/
def replaced (given : String → Bool) (c d : OverlayColors Float) : OverlayColors Float where
  arc := if given "arc" then c.arc else d.arc
  arcWidth := if given "arc_width_px" then c.arcWidth else d.arcWidth
  particle := if given "particle" then c.particle else d.particle
  particleRadius := if given "particle_radius_px" then c.particleRadius else d.particleRadius
  heatCore := if given "heat_core" then c.heatCore else d.heatCore
  heatMid := if given "heat_mid" then c.heatMid else d.heatMid

/-- The fields of overlay colors; each color has all of its components. -/
def parts (c : OverlayColors Float) : List (RecordPart (OverlayColors Float)) :=
  let color (key : String) (v : Rgba Float) (put : Rgba Float → OverlayColors Float → _) :=
    ⟨key, ObjectText (Rgba.fields.map RecordField.name) v.parts, put v⟩
  let number (key : String) (x : Float) (put : Float → OverlayColors Float → _) :=
    .ofEntry (.number key x put)
  [color "arc" c.arc fun v r => { r with arc := v },
    number "arc_width_px" c.arcWidth fun v r => { r with arcWidth := v },
    color "particle" c.particle fun v r => { r with particle := v },
    number "particle_radius_px" c.particleRadius fun v r => { r with particleRadius := v },
    color "heat_core" c.heatCore fun v r => { r with heatCore := v },
    color "heat_mid" c.heatMid fun v r => { r with heatMid := v }]

theorem replaces (c d : OverlayColors Float) :
    Replaces c.parts d fun given => c.replaced given d where
  none := rfl
  put := by
    simp only [parts, Entry.number, RecordPart.ofEntry, List.forall_mem_cons, replaced]
    simp
  congr := by
    intro given given' h
    simp only [parts, Entry.number, RecordPart.ofEntry, List.forall_mem_cons] at h
    simp only [replaced, h]

theorem reads {c : OverlayColors Float} (h : Readable c.numbers)
    (hfinite : allFinite c.numbers = true) (given : String → Bool) :
    Reads reader
      (ObjectText (fields.map RecordField.name) (c.parts.filter fun p => given p.key))
      (c.replaced given .default) := by
  simp only [numbers, readable_cons, readable_append] at h
  simp only [numbers, allFinite_cons, allFinite_append, Bool.and_eq_true] at hfinite
  obtain ⟨harc, hwidth, hparticle, hradius, hcore, hmid⟩ := h
  obtain ⟨harc', hwidth', hparticle', hradius', hcore', hmid'⟩ := hfinite
  have number {key : String} {x : Float} {put : Float → OverlayColors Float → OverlayColors Float}
      (hread : x.isFinite = true → Json.ReadsBack x) (hfinite : x.isFinite = true)
      (hfield : fields.find? (·.name == key) = some (.of key false Json.float put)) :=
    RecordPart.isFieldOf_ofEntry (Entry.isFieldOf_number hfield hread) hfinite
  have hfields : ∀ p ∈ c.parts, p.IsFieldOf fields := by
    simp only [parts, List.forall_mem_cons]
    exact ⟨⟨_, rfl, (Rgba.reads harc harc').field "arc" false _⟩, number hwidth hwidth' rfl,
      ⟨_, rfl, (Rgba.reads hparticle hparticle').field "particle" false _⟩,
      number hradius hradius' rfl, ⟨_, rfl, (Rgba.reads hcore hcore').field "heat_core" false _⟩,
      ⟨_, rfl, (Rgba.reads hmid hmid').field "heat_mid" false _⟩, List.forall_mem_nil _⟩
  have hoptional : ∀ f ∈ fields, f.required = false := by decide
  have honce : (fields.map RecordField.name).Nodup := by decide
  refine Json.reads_record (c.replaces .default) given hfields honce fun f hf hrequired => ?_
  rw [hoptional f hf] at hrequired
  cases hrequired

end OverlayColors

namespace Config

/-- A configuration with the fields that are given in place of its own, and of the overlay colors
those that are given in place of the default ones. -/
def replaced (given inColors : String → Bool) (c d : Config Float) : Config Float where
  scale := if given "scale" then c.scale else d.scale
  sizingMode := if given "sizing_mode" then c.sizingMode else d.sizingMode
  renderCap := if given "render_cap" then c.renderCap else d.renderCap
  fallbackSize := if given "fallback_size" then c.fallbackSize else d.fallbackSize
  theta := if given "theta" then c.theta else d.theta
  initialPhi := if given "initial_phi" then c.initialPhi else d.initialPhi
  damping := if given "damping" then c.damping else d.damping
  minVelocity := if given "min_velocity" then c.minVelocity else d.minVelocity
  dragSensitivity := if given "drag_sensitivity" then c.dragSensitivity else d.dragSensitivity
  settleDelay := if given "settle_delay_s" then c.settleDelay else d.settleDelay
  particlePeriod := if given "particle_period_ms" then c.particlePeriod else d.particlePeriod
  particlePhaseStep :=
    if given "particle_phase_step_ms" then c.particlePhaseStep else d.particlePhaseStep
  arcCurvature := if given "arc_curvature" then c.arcCurvature else d.arcCurvature
  limbThreshold := if given "limb_threshold" then c.limbThreshold else d.limbThreshold
  heatRadiusFactor := if given "heat_radius_factor" then c.heatRadiusFactor else d.heatRadiusFactor
  minHitRadius := if given "min_hit_radius_px" then c.minHitRadius else d.minHitRadius
  hitSizeFactor := if given "hit_size_factor" then c.hitSizeFactor else d.hitSizeFactor
  colors := if given "colors" then c.colors.replaced inColors .default else d.colors

/-- The fields of a configuration, with the overlay colors that are given. -/
def parts (inColors : String → Bool) (c : Config Float) : List (RecordPart (Config Float)) :=
  (c.entries.filter (·.key != "colors")).map .ofEntry ++
    [⟨"colors",
      ObjectText (OverlayColors.fields.map RecordField.name)
        (c.colors.parts.filter fun p => inColors p.key),
      fun r => { r with colors := c.colors.replaced inColors .default }⟩]

theorem parts_eq (inColors : String → Bool) (c : Config Float) :
    c.parts inColors = c.entries.dropLast.map .ofEntry ++
      [⟨"colors",
        ObjectText (OverlayColors.fields.map RecordField.name)
          (c.colors.parts.filter fun p => inColors p.key),
        fun r => { r with colors := c.colors.replaced inColors .default }⟩] := rfl

theorem replaces (inColors : String → Bool) (c d : Config Float) :
    Replaces (c.parts inColors) d fun given => c.replaced given inColors d where
  none := rfl
  put := by
    simp only [parts_eq, entries, Entry.number, RecordPart.ofEntry, List.dropLast_cons_cons,
      List.dropLast_singleton, List.map_cons, List.map_nil, List.cons_append, List.nil_append,
      List.forall_mem_cons, replaced]
    simp
  congr := by
    intro given given' h
    simp only [parts_eq, entries, Entry.number, RecordPart.ofEntry, List.dropLast_cons_cons,
      List.dropLast_singleton, List.map_cons, List.map_nil, List.cons_append, List.nil_append,
      List.forall_mem_cons] at h
    simp only [replaced, h]

/-- A configuration is read from any of its fields; the others are the default ones. -/
theorem reads {c : Config Float} (h : Readable c.numbers) (hfinite : allFinite c.numbers = true)
    (given inColors : String → Bool) :
    Reads reader
      (ObjectText (fields.map RecordField.name) ((c.parts inColors).filter fun p => given p.key))
      (c.replaced given inColors .default) := by
  have hcolors : Readable c.colors.numbers ∧ allFinite c.colors.numbers = true := by
    rw [numbers, readable_append] at h
    rw [numbers, allFinite_append, Bool.and_eq_true] at hfinite
    exact ⟨h.2, hfinite.2⟩
  have hfields : ∀ p ∈ c.parts inColors, p.IsFieldOf fields := by
    intro p hp
    obtain hp | hp := List.mem_append.mp hp
    · obtain ⟨e, he, rfl⟩ := List.mem_map.mp hp
      have he' := (List.mem_filter.mp he).1
      have hgood := List.all_eq_true.mp (c.good_entries.trans hfinite)
      exact RecordPart.isFieldOf_ofEntry (isFieldOf_entries h e he') (hgood e he')
    · obtain rfl := List.mem_singleton.mp hp
      exact ⟨_, rfl, (OverlayColors.reads hcolors.1 hcolors.2 inColors).field "colors" false _⟩
  have hoptional : ∀ f ∈ fields, f.required = false := by decide
  have honce : (fields.map RecordField.name).Nodup := by decide
  refine Json.reads_record (c.replaces inColors .default) given hfields honce
    fun f hf hrequired => ?_
  rw [hoptional f hf] at hrequired
  cases hrequired

/-! ### Ranges -/

/-- What is asked of a configuration with finite numbers, in the order of the checks: each field
with its range and its value, and whether the value is in the range. -/
def demands (c : Config Float) : List (String × Expected × Float × Bool) :=
  [("scale", .positive, c.scale, 0 < c.scale),
    ("render_cap", .positive, c.renderCap, 0 < c.renderCap),
    ("fallback_size", .positive, c.fallbackSize, 0 < c.fallbackSize),
    ("particle_period_ms", .positive, c.particlePeriod, 0 < c.particlePeriod),
    ("damping", .unitInterval, c.damping, 0 < c.damping ∧ c.damping ≤ 1),
    ("min_velocity", .nonNegative, c.minVelocity, 0 ≤ c.minVelocity),
    ("settle_delay_s", .nonNegative, c.settleDelay, 0 ≤ c.settleDelay),
    ("heat_radius_factor", .nonNegative, c.heatRadiusFactor, 0 ≤ c.heatRadiusFactor),
    ("min_hit_radius_px", .nonNegative, c.minHitRadius, 0 ≤ c.minHitRadius),
    ("hit_size_factor", .nonNegative, c.hitSizeFactor, 0 ≤ c.hitSizeFactor)]

/-- The numbers that are checked are finite. -/
def RangesFinite (c : Config Float) : Prop := ∀ r ∈ c.ranges, r.2.2.isFinite = true

theorem rangesFinite_of_allFinite {c : Config Float} (h : allFinite c.numbers = true) :
    c.RangesFinite := by
  simp only [numbers, allFinite_cons, Bool.and_eq_true, List.cons_append, List.nil_append] at h
  simp [RangesFinite, ranges, h]

theorem RangesFinite.replaced {c d : Config Float} (hc : c.RangesFinite) (hd : d.RangesFinite)
    (given inColors : String → Bool) : (c.replaced given inColors d).RangesFinite := by
  simp only [RangesFinite, ranges, List.forall_mem_cons] at hc hd
  simp only [RangesFinite, ranges, List.forall_mem_cons, Config.replaced, apply_ite Float.isFinite,
    hc, hd, ite_self]
  simp

/-- The first range that finite numbers violate is the first demand that does not hold. -/
theorem violation?_eq {c : Config Float} (h : c.RangesFinite) :
    c.violation? = (c.demands.find? fun d => !d.2.2.2).map fun d => ⟨d.1, d.2.1, d.2.2.1⟩ := by
  let judged (r : String × Expected × Float) := (r.1, r.2.1, r.2.2, r.2.1.holds r.2.2)
  -- a check of a finite number is a demand, or it holds
  have hjudged : c.ranges.map judged =
      c.demands ++ [("theta", .finite, c.theta, true), ("initial_phi", .finite, c.initialPhi, true),
        ("drag_sensitivity", .finite, c.dragSensitivity, true)] := by
    simp only [RangesFinite, ranges, List.forall_mem_cons] at h
    simp [judged, ranges, demands, Expected.holds, Scalar.isFinite, h]
  have hfirst (rs : List (String × Expected × Float)) :
      (rs.findSome? fun (field, expected, value) =>
        if expected.holds value then none else some (RangeError.mk field expected value)) =
      ((rs.map judged).find? fun d => !d.2.2.2).map fun d => ⟨d.1, d.2.1, d.2.2.1⟩ := by
    induction rs with
    | nil => rfl
    | cons r rest ih =>
        obtain ⟨field, expected, value⟩ := r
        rw [List.findSome?_cons, List.map_cons, List.find?_cons, ih]
        cases hholds : expected.holds value <;> simp only [judged, hholds] <;> rfl
  rw [violation?, hfirst, hjudged, List.find?_append]
  simp

theorem demands_hold_iff (c : Config Float) :
    (c.demands.find? fun d => !d.2.2.2) = none ↔
      0 < c.scale ∧ 0 < c.renderCap ∧ 0 < c.fallbackSize ∧ 0 < c.particlePeriod ∧
        (0 < c.damping ∧ c.damping ≤ 1) ∧ 0 ≤ c.minVelocity ∧ 0 ≤ c.settleDelay ∧
        0 ≤ c.heatRadiusFactor ∧ 0 ≤ c.minHitRadius ∧ 0 ≤ c.hitSizeFactor := by
  simp [List.find?_eq_none, demands]

end Config

/-- **A configuration may be given in part.**  Take values for all fields of a configuration whose
numbers are finite and whose digits read back, choose any fields and of the overlay colors any, and
write the object of those, in any order and with anything under other keys among them.  It is read
as the default configuration with the chosen fields in place of its own.

That is accepted exactly if its factors, sizes and times are in range, and else the first field that
is not, in the order of the checks, is named with its value. -/
theorem partial_config_fills_defaults {c : Config Float} (hread : Readable c.numbers)
    (hfinite : allFinite c.numbers = true) (given inColors : String → Bool)
    {gap object gap' : List Char} (hgap : Blank gap) (hgap' : Blank gap')
    (hobject : ObjectText (Config.fields.map RecordField.name)
      ((c.parts inColors).filter fun p => given p.key) object) :
    let text := String.ofList (gap ++ (object ++ gap'))
    let config := c.replaced given inColors .default
    Json.parse Config.reader text = .ok config ∧
      (Config.ofJson text = .ok config ↔
        0 < config.scale ∧ 0 < config.renderCap ∧ 0 < config.fallbackSize ∧
          0 < config.particlePeriod ∧ (0 < config.damping ∧ config.damping ≤ 1) ∧
          0 ≤ config.minVelocity ∧ 0 ≤ config.settleDelay ∧ 0 ≤ config.heatRadiusFactor ∧
          0 ≤ config.minHitRadius ∧ 0 ≤ config.hitSizeFactor) ∧
      Config.ofJson text =
        match config.demands.find? fun d => !d.2.2.2 with
        | none => .ok config
        | some (field, expected, value, _) => .error (.range ⟨field, expected, value⟩) := by
  intro text config
  have hparse : Json.parse Config.reader text = .ok config :=
    (Config.reads hread hfinite given inColors).parse hgap hobject hgap'
  have hranges : config.RangesFinite :=
    (Config.rangesFinite_of_allFinite hfinite).replaced
      (Config.rangesFinite_of_allFinite (by decide)) given inColors
  have hcheck : Config.ofJson text =
      match config.demands.find? fun d => !d.2.2.2 with
      | none => .ok config
      | some (field, expected, value, _) => .error (.range ⟨field, expected, value⟩) := by
    rw [Config.ofJson, hparse]
    simp only [Config.violation?_eq hranges]
    cases config.demands.find? fun d => !d.2.2.2 <;> rfl
  refine ⟨hparse, ?_, hcheck⟩
  rw [hcheck, ← config.demands_hold_iff]
  cases config.demands.find? fun d => !d.2.2.2 with
  | none => simp
  | some d => simp

/-- Two fields the other way round, one of the colors with its components the other way round, and
other keys with a list and an object. -/
theorem partial_config_fills_defaults_reordered :
    let c : Config Float :=
      { Config.default with
        damping := 1.5
        colors := { OverlayColors.default with heatMid := ⟨1, 2, 3, 0.5⟩ } }
    let text := " \x7b\"x\" :[null, -1.5E+3],\"colors\":\x7b\"heat_mid\":\x7b\"a\":0.5," ++
      "\"b\":3 ,\"g\":2,\"r\":1,\"a b\":\x7b\"\\u00e9\":\"\"\x7d\x7d\x7d,\"damping\": 1.5\x7d"
    Readable c.numbers ∧ allFinite c.numbers = true ∧ Json.parse Config.reader text = .ok c ∧
      Config.ofJson text = .error (.range ⟨"damping", .unitInterval, 1.5⟩) := by
  intro c text
  have hread : Readable c.numbers := by decide
  have hfinite : allFinite c.numbers = true := by decide
  let given (key : String) : Bool := key == "damping" || key == "colors"
  let inColors (key : String) : Bool := key == "heat_mid"
  have hspace : Blank [' '] := by simp [Blank, Json.isBlank]
  have hnil := Blank.nil
  -- the other members
  have hnumber : Json.UnsignedText (['1'] ++ (['.', '5'] ++ ['E', '+', '3'])) :=
    .mk ⟨by simp, by simp⟩ (by simp) (.places ⟨by simp, by simp⟩)
      (@Json.ScaleText.exponent 'E' ['+'] ['3'] (.inr rfl) (by simp) ⟨by simp, by simp⟩)
  have hlist : Json.ValueText ("[null, -1.5E+3]".toList) :=
    .list (.cons hnil hnil .null (.cons hnil hspace (.negative hnumber) .nil)) hnil
  have hescape : Json.StringText ['\\', 'u', '0', '0', 'e', '9', '"'] :=
    .hex (by simp [Json.hexValue?]) .close
  have hobject : Json.ValueText ("\x7b\"\\u00e9\":\"\"\x7d".toList) :=
    .object (.cons hnil hnil hescape hnil hnil (.string .close) .nil) hnil
  -- the parts
  have hcolor : ObjectText (Rgba.fields.map RecordField.name) c.colors.heatMid.parts _ :=
    ⟨_, _, [], List.reverse_perm _,
      .part hnil hnil hnil hnil (.scalar rfl) <| .part hnil hnil hnil hnil (.scalar rfl) <|
        .part hspace hnil hnil hnil (.scalar rfl) <| .part hnil hnil hnil hnil (.scalar rfl) <|
        .other "a b" hnil hnil hnil hnil (by decide) hobject .nil, hnil, rfl⟩
  have hcolors : ObjectText (OverlayColors.fields.map RecordField.name)
      (c.colors.parts.filter fun p => inColors p.key) _ :=
    ⟨_, _, [], .refl _, .part hnil hnil hnil hnil hcolor .nil, hnil, rfl⟩
  have htext : ObjectText (Config.fields.map RecordField.name)
      ((c.parts inColors).filter fun p => given p.key) _ :=
    ⟨_, _, [], List.reverse_perm _,
      .other "x" hnil hnil hspace hnil (by decide) hlist <|
        .part hnil hnil hnil hnil hcolors <| .part hnil hnil hnil hspace (.scalar rfl) .nil,
      hnil, rfl⟩
  obtain ⟨hparse, -, hcheck⟩ :=
    partial_config_fills_defaults hread hfinite given inColors hspace hnil htext
  have hconfig : c.replaced given inColors .default = c := by decide
  have hviolated : (c.demands.find? fun d => !d.2.2.2) =
      some ("damping", .unitInterval, 1.5, false) := by
    decide
  rw [hconfig] at hparse hcheck
  rw [hviolated] at hcheck
  refine ⟨hread, hfinite, ?_, ?_⟩
  · convert hparse using 2
    decide
  · convert hcheck using 2
    decide

end GlobeView
