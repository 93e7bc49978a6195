import GlobeView.Config
import GlobeView.Double.Arithmetic
import GlobeView.Json.Reader
import GlobeView.Json.Value

/-! # Configurations as JSON

Missing fields take their defaults.  A configuration that is read is also checked, so a text can be
refused for its form or for a value out of range. -/

namespace GlobeView

open Json (Reader RecordField Fault Value)

namespace Rgba

def fields : List (RecordField (Rgba Float)) :=
  [.of "r" true Json.byte fun v c => { c with r := v },
   .of "g" true Json.byte fun v c => { c with g := v },
   .of "b" true Json.byte fun v c => { c with b := v },
   .of "a" true Json.float fun v c => { c with a := v }]

def reader : Reader (Rgba Float) := Json.record fields .transparent

def toJson (c : Rgba Float) : Value :=
  .object
    [("r", .count c.r.toNat), ("g", .count c.g.toNat), ("b", .count c.b.toNat), ("a", .number c.a)]

end Rgba

namespace OverlayColors

def fields : List (RecordField (OverlayColors Float)) :=
  [.of "arc" false Rgba.reader fun v c => { c with arc := v },
   .of "arc_width_px" false Json.float fun v c => { c with arcWidth := v },
   .of "particle" false Rgba.reader fun v c => { c with particle := v },
   .of "particle_radius_px" false Json.float fun v c => { c with particleRadius := v },
   .of "heat_core" false Rgba.reader fun v c => { c with heatCore := v },
   .of "heat_mid" false Rgba.reader fun v c => { c with heatMid := v }]

def reader : Reader (OverlayColors Float) := Json.record fields .default

def toJson (c : OverlayColors Float) : Value :=
  .object
    [("arc", c.arc.toJson), ("arc_width_px", .number c.arcWidth),
     ("particle", c.particle.toJson), ("particle_radius_px", .number c.particleRadius),
     ("heat_core", c.heatCore.toJson), ("heat_mid", c.heatMid.toJson)]

end OverlayColors

namespace SizingMode

/-- The modes by name. -/
def options : List (String × SizingMode) := [("fit", .fit), ("cover", .cover)]

def name : SizingMode → String
  | .fit => "fit"
  | .cover => "cover"

end SizingMode

/-- Why a configuration is refused. -/
inductive ConfigError where
  | json (fault : Fault)
  | range (error : RangeError Float)
deriving DecidableEq, Repr

/-- A range error in words. -/
def RangeError.message (e : RangeError Float) : String :=
  e.field ++ " must be " ++ e.expected.text ++ " (got " ++ Double.plain e.value ++ ")"

/-- A refused configuration in words. -/
def ConfigError.message : ConfigError → String
  | .json _ => "invalid config json"
  | .range e => e.message

namespace Config

def fields : List (RecordField (Config Float)) :=
  [.of "scale" false Json.float fun v c => { c with scale := v },
   .of "sizing_mode" false (Json.oneOf SizingMode.options) fun v c => { c with sizingMode := v },
   .of "render_cap" false Json.float fun v c => { c with renderCap := v },
   .of "fallback_size" false Json.float fun v c => { c with fallbackSize := v },
   .of "theta" false Json.float fun v c => { c with theta := v },
   .of "initial_phi" false Json.float fun v c => { c with initialPhi := v },
   .of "damping" false Json.float fun v c => { c with damping := v },
   .of "min_velocity" false Json.float fun v c => { c with minVelocity := v },
   .of "drag_sensitivity" false Json.float fun v c => { c with dragSensitivity := v },
   .of "settle_delay_s" false Json.float fun v c => { c with settleDelay := v },
   .of "particle_period_ms" false Json.float fun v c => { c with particlePeriod := v },
   .of "particle_phase_step_ms" false Json.float fun v c => { c with particlePhaseStep := v },
   .of "arc_curvature" false Json.float fun v c => { c with arcCurvature := v },
   .of "limb_threshold" false Json.float fun v c => { c with limbThreshold := v },
   .of "heat_radius_factor" false Json.float fun v c => { c with heatRadiusFactor := v },
   .of "min_hit_radius_px" false Json.float fun v c => { c with minHitRadius := v },
   .of "hit_size_factor" false Json.float fun v c => { c with hitSizeFactor := v },
   .of "colors" false OverlayColors.reader fun v c => { c with colors := v }]

def reader : Reader (Config Float) := Json.record fields .default

/-- Reads and checks a configuration. -/
def ofJson (text : String) : Except ConfigError (Config Float) :=
  match Json.parse reader text with
  | .error fault => .error (.json fault)
  | .ok c => match c.violation? with
    | some e => .error (.range e)
    | none => .ok c

def toJson (c : Config Float) : Value :=
  .object
    [("scale", .number c.scale), ("sizing_mode", .text c.sizingMode.name),
     ("render_cap", .number c.renderCap), ("fallback_size", .number c.fallbackSize),
     ("theta", .number c.theta), ("initial_phi", .number c.initialPhi),
     ("damping", .number c.damping), ("min_velocity", .number c.minVelocity),
     ("drag_sensitivity", .number c.dragSensitivity), ("settle_delay_s", .number c.settleDelay),
     ("particle_period_ms", .number c.particlePeriod),
     ("particle_phase_step_ms", .number c.particlePhaseStep),
     ("arc_curvature", .number c.arcCurvature), ("limb_threshold", .number c.limbThreshold),
     ("heat_radius_factor", .number c.heatRadiusFactor),
     ("min_hit_radius_px", .number c.minHitRadius), ("hit_size_factor", .number c.hitSizeFactor),
     ("colors", c.colors.toJson)]

end Config
end GlobeView
