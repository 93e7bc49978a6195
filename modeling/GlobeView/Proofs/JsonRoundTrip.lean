import GlobeView.ConfigJson
import GlobeView.Proofs.JsonReading
import GlobeView.SceneJson

/-! # Scenes and configurations survive being written

Each part of a scene or configuration is restored from its texts, as long as its numbers are finite
and their digits read back; a number that is not finite is written as null and refused.

The parts are put together from their entries: `entries` lists what the members of an object make of
a record, and filling them into any record gives the part. -/

namespace GlobeView

open Json (Reader RecordField Value Restores Entry ReadsBack Writes)

/-- The digits of all numbers that are finite read back. -/
def Readable (numbers : List Float) : Prop := ∀ x ∈ numbers, x.isFinite = true → ReadsBack x

instance (numbers : List Float) : Decidable (Readable numbers) :=
  inferInstanceAs (Decidable (∀ x ∈ numbers, x.isFinite = true → ReadsBack x))

def allFinite (numbers : List Float) : Bool := numbers.all Float.isFinite

@[simp]
theorem readable_append {xs ys : List Float} :
    Readable (xs ++ ys) ↔ Readable xs ∧ Readable ys :=
  List.forall_mem_append

@[simp]
theorem readable_cons {x : Float} {xs : List Float} :
    Readable (x :: xs) ↔ (x.isFinite = true → ReadsBack x) ∧ Readable xs :=
  List.forall_mem_cons

theorem readable_flatMap {β : Type} {f : β → List Float} {bs : List β} :
    Readable (bs.flatMap f) ↔ ∀ b ∈ bs, Readable (f b) := by
  simp only [Readable, List.mem_flatMap]
  exact ⟨fun h b hb x hx => h x ⟨b, hb, hx⟩, fun h x ⟨b, hb, hx⟩ => h b hb x hx⟩

@[simp]
theorem allFinite_append (xs ys : List Float) :
    allFinite (xs ++ ys) = (allFinite xs && allFinite ys) :=
  List.all_append

@[simp]
theorem allFinite_cons (x : Float) (xs : List Float) :
    allFinite (x :: xs) = (x.isFinite && allFinite xs) :=
  List.all_cons

@[simp]
theorem allFinite_flatMap {β : Type} (f : β → List Float) (bs : List β) :
    allFinite (bs.flatMap f) = bs.all fun b => allFinite (f b) :=
  List.all_flatMap

namespace Json.Entry

variable {ρ : Type} {fields : List (RecordField ρ)}

/-- The entry of a number. -/
def number (key : String) (x : Float) (put : Float → ρ → ρ) : Entry ρ :=
  ⟨key, .number x, x.isFinite, put x⟩

theorem isFieldOf_number {key : String} {required : Bool} {x : Float} {put : Float → ρ → ρ}
    (hfield : fields.find? (·.name == key) = some (.of key required Json.float put))
    (hread : x.isFinite = true → ReadsBack x) : (number key x put).IsFieldOf fields :=
  ⟨_, hfield, (restores_float hread).field key required put⟩

/-- A record that is written as the object of its entries is restored from it. -/
theorem restores_object {entries : List (Entry ρ)} {v : Value} {good : Bool} {blank b : ρ}
    (keys : List String) (hv : v = .object (entries.map member)) (hkeys : entries.map key = keys)
    (hgood : entries.all Entry.good = good) (hfill : fill entries blank = b) (honce : keys.Nodup)
    (hall : ∀ f ∈ fields, f.required = true → f.name ∈ keys)
    (hfields : ∀ e ∈ entries, e.IsFieldOf fields) :
    Restores (Json.record fields blank) v good b := by
  subst hkeys
  rw [hv, ← hgood, ← hfill]
  exact restores_record hfields honce hall blank

end Json.Entry

/-! ### Scenes -/

namespace LatLon

def numbers (p : LatLon Float) : List Float := [p.lat, p.lon]

theorem restores {p : LatLon Float} (h : Readable p.numbers) :
    Restores reader p.toJson (allFinite p.numbers) p := by
  obtain ⟨hlat, hlon, _⟩ : _ ∧ _ ∧ _ := by simpa only [numbers, readable_cons] using h
  intro gap text rest hgap htext hrest
  have hpair := Json.restores_pair (Json.restores_float hlat) (Json.restores_float hlon)
    hgap htext hrest
  simp only [reader, hpair, numbers, allFinite, List.all_cons, List.all_nil, Bool.and_true]
  split_ifs <;> rfl

end LatLon

namespace Marker

def numbers (m : Marker Float) : List Float := m.location.numbers ++ [m.size]

/-- The entry of a tooltip. -/
def tooltipEntry (tooltip : String) : Entry (Marker Float) :=
  ⟨"tooltip", .text tooltip, true, fun r => { r with tooltip := some tooltip }⟩

/-- What the members of a written marker make of a record. -/
def entries (m : Marker Float) : List (Entry (Marker Float)) :=
  ⟨"location", m.location.toJson, allFinite m.location.numbers,
      fun r => { r with location := m.location }⟩ ::
    .number "size" m.size (fun v r => { r with size := v }) ::
    ((m.tooltip.map tooltipEntry).toList ++
      [⟨"pulse", .bool m.pulse, true, fun r => { r with pulse := m.pulse }⟩])

theorem restores {m : Marker Float} (h : Readable m.numbers) :
    Restores reader m.toJson (allFinite m.numbers) m := by
  obtain ⟨hlocation, hsize, _⟩ :
      Readable m.location.numbers ∧ (m.size.isFinite = true → ReadsBack m.size) ∧ _ := by
    simpa only [numbers, readable_append, readable_cons] using h
  have hfields : ∀ e ∈ m.entries, e.IsFieldOf fields := by
    simp only [entries, List.forall_mem_cons, List.forall_mem_append]
    refine ⟨⟨_, rfl, (LatLon.restores hlocation).field "location" true _⟩,
      Entry.isFieldOf_number rfl hsize, ?_,
      ⟨_, rfl, (Json.restores_bool _).field "pulse" false _⟩, ?_⟩
    · intro e he
      obtain ⟨s, hs, rfl⟩ : ∃ s, m.tooltip = some s ∧ tooltipEntry s = e := by simpa using he
      exact ⟨_, rfl, (Json.restores_optional_string s).field "tooltip" false _⟩
    · exact fun _ he => nomatch he
  obtain ⟨location, size, tooltip, pulse⟩ := m
  cases tooltip with
  | none =>
      exact Entry.restores_object ["location", "size", "pulse"] rfl rfl
        (by simp [entries, numbers, allFinite, Entry.number]) rfl (by decide) (by decide) hfields
  | some s =>
      exact Entry.restores_object ["location", "size", "tooltip", "pulse"] rfl rfl
        (by simp [entries, numbers, allFinite, Entry.number, tooltipEntry]) rfl (by decide)
        (by decide) hfields

end Marker

namespace Connection

def numbers (c : Connection Float) : List Float := c.start.numbers ++ c.finish.numbers

/-- What the members of a written connection make of a record. -/
def entries (c : Connection Float) : List (Entry (Connection Float)) :=
  [⟨"start", c.start.toJson, allFinite c.start.numbers, fun r => { r with start := c.start }⟩,
    ⟨"end", c.finish.toJson, allFinite c.finish.numbers, fun r => { r with finish := c.finish }⟩]

theorem restores {c : Connection Float} (h : Readable c.numbers) :
    Restores reader c.toJson (allFinite c.numbers) c := by
  obtain ⟨hstart, hfinish⟩ := readable_append.mp h
  have hfields : ∀ e ∈ c.entries, e.IsFieldOf fields := by
    simp only [entries, List.forall_mem_cons]
    exact ⟨⟨_, rfl, (LatLon.restores hstart).field "start" true _⟩,
      ⟨_, rfl, (LatLon.restores hfinish).field "end" true _⟩, fun _ he => nomatch he⟩
  exact Entry.restores_object ["start", "end"] rfl rfl
    (by simp [entries, numbers, allFinite]) rfl (by decide) (by decide) hfields

end Connection

namespace HeatPoint

def numbers (p : HeatPoint Float) : List Float := [p.lat, p.lon, p.value]

/-- What the members of a written heat point make of a record. -/
def entries (p : HeatPoint Float) : List (Entry (HeatPoint Float)) :=
  [.number "lat" p.lat fun v r => { r with lat := v },
    .number "lon" p.lon fun v r => { r with lon := v },
    .number "value" p.value fun v r => { r with value := v }]

theorem restores {p : HeatPoint Float} (h : Readable p.numbers) :
    Restores reader p.toJson (allFinite p.numbers) p := by
  simp only [numbers, readable_cons] at h
  obtain ⟨hlat, hlon, hvalue, _⟩ := h
  have hfields : ∀ e ∈ p.entries, e.IsFieldOf fields := by
    simp only [entries, List.forall_mem_cons]
    exact ⟨Entry.isFieldOf_number rfl hlat, Entry.isFieldOf_number rfl hlon,
      Entry.isFieldOf_number rfl hvalue, fun _ he => nomatch he⟩
  exact Entry.restores_object ["lat", "lon", "value"] rfl rfl
    (by simp [entries, numbers, allFinite, Entry.number]) rfl (by decide) (by decide) hfields

end HeatPoint

namespace Scene

/-- All numbers of a scene. -/
def numbers (s : Scene Float) : List Float :=
  s.markers.flatMap Marker.numbers ++ s.connections.flatMap Connection.numbers ++
    s.heat.flatMap HeatPoint.numbers

/-- What the members of a written scene make of a record. -/
def entries (s : Scene Float) : List (Entry (Scene Float)) :=
  [⟨"markers", .list (s.markers.map Marker.toJson),
      s.markers.all fun m => allFinite m.numbers, fun r => { r with markers := s.markers }⟩,
    ⟨"connections", .list (s.connections.map Connection.toJson),
      s.connections.all fun c => allFinite c.numbers,
      fun r => { r with connections := s.connections }⟩,
    ⟨"heatmapPoints", .list (s.heat.map HeatPoint.toJson),
      s.heat.all fun p => allFinite p.numbers, fun r => { r with heat := s.heat }⟩]

/-- A scene is restored if its numbers are finite and their digits read back. -/
theorem restores {s : Scene Float} (h : Readable s.numbers) :
    Restores reader s.toJson (allFinite s.numbers) s := by
  simp only [numbers, readable_append, readable_flatMap] at h
  obtain ⟨⟨hmarkers, hconnections⟩, hheat⟩ := h
  have hfields : ∀ e ∈ s.entries, e.IsFieldOf fields := by
    simp only [entries, List.forall_mem_cons]
    exact ⟨⟨_, rfl, (Json.restores_list fun m hm => Marker.restores (hmarkers m hm)).field
        "markers" false _⟩,
      ⟨_, rfl, (Json.restores_list fun c hc => Connection.restores (hconnections c hc)).field
        "connections" false _⟩,
      ⟨_, rfl, (Json.restores_list fun p hp => HeatPoint.restores (hheat p hp)).field
        "heatmapPoints" false _⟩, fun _ he => nomatch he⟩
  exact Entry.restores_object ["markers", "connections", "heatmapPoints"] rfl rfl
    (by simp [entries, numbers]) rfl (by decide) (by decide) hfields

end Scene

/-! ### Configurations -/

namespace Rgba

def numbers (c : Rgba Float) : List Float := [c.a]

/-- What the members of a written color make of a record. -/
def entries (c : Rgba Float) : List (Entry (Rgba Float)) :=
  [⟨"r", .count c.r.toNat, true, fun r => { r with r := c.r }⟩,
    ⟨"g", .count c.g.toNat, true, fun r => { r with g := c.g }⟩,
    ⟨"b", .count c.b.toNat, true, fun r => { r with b := c.b }⟩,
    .number "a" c.a fun v r => { r with a := v }]

theorem isFieldOf_entries {c : Rgba Float} (h : Readable c.numbers) :
    ∀ e ∈ c.entries, e.IsFieldOf fields := by
  simp only [numbers, readable_cons] at h
  simp only [entries, List.forall_mem_cons]
  exact ⟨⟨_, rfl, (Json.restores_byte c.r).field "r" true _⟩,
    ⟨_, rfl, (Json.restores_byte c.g).field "g" true _⟩,
    ⟨_, rfl, (Json.restores_byte c.b).field "b" true _⟩,
    Entry.isFieldOf_number rfl h.1, fun _ he => nomatch he⟩

theorem good_entries (c : Rgba Float) : c.entries.all Entry.good = allFinite c.numbers := by
  simp [entries, numbers, allFinite, Entry.number]

theorem restores {c : Rgba Float} (h : Readable c.numbers) :
    Restores reader c.toJson (allFinite c.numbers) c :=
  Entry.restores_object ["r", "g", "b", "a"] rfl rfl c.good_entries rfl (by decide) (by decide)
    (isFieldOf_entries h)

end Rgba

namespace OverlayColors

def numbers (c : OverlayColors Float) : List Float :=
  c.arc.numbers ++ c.arcWidth :: (c.particle.numbers ++ c.particleRadius ::
    (c.heatCore.numbers ++ c.heatMid.numbers))

/-- What the members of written overlay colors make of a record. -/
def entries (c : OverlayColors Float) : List (Entry (OverlayColors Float)) :=
  let color (key : String) (v : Rgba Float) (put : Rgba Float → OverlayColors Float → _) :=
    ⟨key, v.toJson, allFinite v.numbers, put v⟩
  [color "arc" c.arc fun v r => { r with arc := v },
    .number "arc_width_px" c.arcWidth fun v r => { r with arcWidth := v },
    color "particle" c.particle fun v r => { r with particle := v },
    .number "particle_radius_px" c.particleRadius fun v r => { r with particleRadius := v },
    color "heat_core" c.heatCore fun v r => { r with heatCore := v },
    color "heat_mid" c.heatMid fun v r => { r with heatMid := v }]

theorem restores {c : OverlayColors Float} (h : Readable c.numbers) :
    Restores reader c.toJson (allFinite c.numbers) c := by
  simp only [numbers, readable_cons, readable_append] at h
  obtain ⟨harc, hwidth, hparticle, hradius, hcore, hmid⟩ := h
  have hfields : ∀ e ∈ c.entries, e.IsFieldOf fields := by
    simp only [entries, List.forall_mem_cons]
    exact ⟨⟨_, rfl, (Rgba.restores harc).field "arc" false _⟩, Entry.isFieldOf_number rfl hwidth,
      ⟨_, rfl, (Rgba.restores hparticle).field "particle" false _⟩,
      Entry.isFieldOf_number rfl hradius, ⟨_, rfl, (Rgba.restores hcore).field "heat_core" false _⟩,
      ⟨_, rfl, (Rgba.restores hmid).field "heat_mid" false _⟩, fun _ he => nomatch he⟩
  exact Entry.restores_object
    ["arc", "arc_width_px", "particle", "particle_radius_px", "heat_core", "heat_mid"] rfl rfl
    (by simp [entries, numbers, Entry.number]) rfl (by decide) (by decide) hfields

end OverlayColors

theorem SizingMode.choice_name (mode : SizingMode) :
    Json.choice SizingMode.options mode.name = .ok mode := by
  cases mode <;> rfl

namespace Config

/-- All numbers of a configuration. -/
def numbers (c : Config Float) : List Float :=
  [c.scale, c.renderCap, c.fallbackSize, c.theta, c.initialPhi, c.damping, c.minVelocity,
    c.dragSensitivity, c.settleDelay, c.particlePeriod, c.particlePhaseStep, c.arcCurvature,
    c.limbThreshold, c.heatRadiusFactor, c.minHitRadius, c.hitSizeFactor] ++ c.colors.numbers

/-- What the members of a written configuration make of a record. -/
def entries (c : Config Float) : List (Entry (Config Float)) :=
  [.number "scale" c.scale fun v r => { r with scale := v },
    ⟨"sizing_mode", .text c.sizingMode.name, true, fun r => { r with sizingMode := c.sizingMode }⟩,
    .number "render_cap" c.renderCap fun v r => { r with renderCap := v },
    .number "fallback_size" c.fallbackSize fun v r => { r with fallbackSize := v },
    .number "theta" c.theta fun v r => { r with theta := v },
    .number "initial_phi" c.initialPhi fun v r => { r with initialPhi := v },
    .number "damping" c.damping fun v r => { r with damping := v },
    .number "min_velocity" c.minVelocity fun v r => { r with minVelocity := v },
    .number "drag_sensitivity" c.dragSensitivity fun v r => { r with dragSensitivity := v },
    .number "settle_delay_s" c.settleDelay fun v r => { r with settleDelay := v },
    .number "particle_period_ms" c.particlePeriod fun v r => { r with particlePeriod := v },
    .number "particle_phase_step_ms" c.particlePhaseStep fun v r =>
      { r with particlePhaseStep := v },
    .number "arc_curvature" c.arcCurvature fun v r => { r with arcCurvature := v },
    .number "limb_threshold" c.limbThreshold fun v r => { r with limbThreshold := v },
    .number "heat_radius_factor" c.heatRadiusFactor fun v r => { r with heatRadiusFactor := v },
    .number "min_hit_radius_px" c.minHitRadius fun v r => { r with minHitRadius := v },
    .number "hit_size_factor" c.hitSizeFactor fun v r => { r with hitSizeFactor := v },
    ⟨"colors", c.colors.toJson, allFinite c.colors.numbers, fun r => { r with colors := c.colors }⟩]

theorem fill_entries (c r : Config Float) : Entry.fill c.entries r = c := by
  simp only [Entry.fill, entries, Entry.number, List.foldl_cons, List.foldl_nil]

theorem isFieldOf_entries {c : Config Float} (h : Readable c.numbers) :
    ∀ e ∈ c.entries, e.IsFieldOf fields := by
  simp only [numbers, List.cons_append, List.nil_append, readable_cons] at h
  obtain ⟨h₁, h₂, h₃, h₄, h₅, h₆, h₇, h₈, h₉, h₁₀, h₁₁, h₁₂, h₁₃, h₁₄, h₁₅, h₁₆, hcolors⟩ := h
  have number {key : String} {x : Float} {put : Float → Config Float → Config Float}
      (hread : x.isFinite = true → ReadsBack x)
      (hfield : fields.find? (·.name == key) = some (.of key false Json.float put)) :=
    Entry.isFieldOf_number hfield hread
  simp only [entries, List.forall_mem_cons]
  exact ⟨number h₁ rfl,
    ⟨_, rfl, (Json.restores_oneOf c.sizingMode.choice_name).field "sizing_mode" false _⟩,
    number h₂ rfl, number h₃ rfl, number h₄ rfl, number h₅ rfl, number h₆ rfl, number h₇ rfl,
    number h₈ rfl, number h₉ rfl, number h₁₀ rfl, number h₁₁ rfl, number h₁₂ rfl, number h₁₃ rfl,
    number h₁₄ rfl, number h₁₅ rfl, number h₁₆ rfl,
    ⟨_, rfl, (OverlayColors.restores hcolors).field "colors" false _⟩, fun _ he => nomatch he⟩

theorem good_entries (c : Config Float) : c.entries.all Entry.good = allFinite c.numbers := by
  simp [entries, numbers, Entry.number]

/-- A configuration is restored if its numbers are finite and their digits read back. -/
theorem restores {c : Config Float} (h : Readable c.numbers) :
    Restores reader c.toJson (allFinite c.numbers) c :=
  Entry.restores_object (fields.map (·.name)) rfl rfl c.good_entries (fill_entries c _)
    (by decide) (fun _ hf _ => List.mem_map_of_mem hf) (isFieldOf_entries h)

/-- A configuration that is read back is checked again. -/
theorem ofJson_of_writes {c : Config Float} (h : Readable c.numbers)
    (hfinite : allFinite c.numbers = true) {text : String} (htext : Writes c.toJson text.toList) :
    ofJson text = match c.check with
      | .ok _ => .ok c
      | .error e => .error (.range e) := by
  rw [ofJson, (restores h).parse htext, hfinite]
  simp only [if_true, check]
  cases c.violation? <;> rfl

end Config

/-- **Scenes and configurations survive being written.**  A scene whose numbers are finite is read
back from its text; one with another number is refused for its data.  A configuration whose numbers
are finite is read back from both of its texts if it is in range, and else refused as its check
does.  The digits of the finite numbers are supposed to read back. -/
theorem json_round_trip :
    (∀ s : Scene Float, Readable s.numbers →
      (allFinite s.numbers = true → Scene.ofJson s.pretty = .ok s) ∧
      (allFinite s.numbers = false →
        ∃ fault, Scene.ofJson s.pretty = .error fault ∧ fault.kind.name = "data")) ∧
    ∀ c : Config Float, Readable c.numbers → allFinite c.numbers = true →
      ∀ text ∈ [c.toJson.compact, c.toJson.pretty],
        Config.ofJson text = match c.check with
          | .ok _ => .ok c
          | .error e => .error (.range e) := by
  constructor
  · intro s h
    have hread : Scene.ofJson s.pretty =
        if allFinite s.numbers then .ok s else .error .invalidType :=
      (Scene.restores h).parse
        (by simpa [Scene.pretty, Value.pretty] using Json.writes_pretty 0 s.toJson)
    refine ⟨fun hfinite => ?_, fun hfinite => ⟨.invalidType, ?_, rfl⟩⟩
    · rw [hread, hfinite]
      rfl
    · rw [hread, hfinite]
      rfl
  · intro c h hfinite text htext
    refine Config.ofJson_of_writes h hfinite ?_
    simp only [List.mem_cons, List.not_mem_nil, or_false] at htext
    obtain rfl | rfl := htext
    · simpa [Value.compact] using Json.writes_compact c.toJson
    · simpa [Value.pretty] using Json.writes_pretty 0 c.toJson

/-- Tooltips with quotes, a backslash, control characters or nothing in them; a number that is not
finite; a configuration that is in range and one that is not. -/
theorem json_round_trip_tooltips :
    let marker : Marker Float := ⟨⟨35.6895, 139.6917⟩, 0.03, some "\"a\\b\" \t\x01 é", true⟩
    let scene : Scene Float :=
      { markers := [marker, { marker with tooltip := some "" }, { marker with tooltip := none }]
        connections := [⟨⟨-0.0, 1e21⟩, ⟨0.1, 2.5e-7⟩⟩]
        heat := [⟨-33.8688, 151.2093, 1⟩] }
    let broken : Scene Float := { scene with heat := [⟨0, 0, 1 / 0⟩] }
    let config : Config Float := { Config.default with sizingMode := .cover, theta := -0.7 }
    let outside : Config Float := { config with damping := 1.5 }
    Scene.ofJson scene.pretty = .ok scene ∧
      (∃ fault, Scene.ofJson broken.pretty = .error fault ∧ fault.kind.name = "data") ∧
      Config.ofJson config.toJson.compact = .ok config ∧
      Config.ofJson outside.toJson.pretty = .error (.range ⟨"damping", .unitInterval, 1.5⟩) := by
  intro marker scene broken config outside
  obtain ⟨hscene, hconfig⟩ := json_round_trip
  have hcheck : config.check = .ok () := by decide +kernel
  have hrange : outside.check = .error ⟨"damping", .unitInterval, 1.5⟩ := by decide +kernel
  refine ⟨(hscene scene (by decide +kernel)).1 (by decide +kernel),
    (hscene broken (by decide +kernel)).2 (by decide +kernel), ?_, ?_⟩
  · rw [hconfig config (by decide +kernel) (by decide +kernel) _ (by simp), hcheck]
  · rw [hconfig outside (by decide +kernel) (by decide +kernel) _ (by simp), hrange]

end GlobeView
