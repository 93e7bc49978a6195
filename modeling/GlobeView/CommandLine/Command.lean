import GlobeView.CommandLine.Options
import GlobeView.Double.Arithmetic
import GlobeView.Simulation
import GlobeView.Text.Characters
import GlobeView.Text.Number

/-! # Commands

There are two commands: `simulate` runs a globe without a display and prints what happened, `demo`
writes a generated scene. -/

namespace GlobeView.CommandLine

open Text

/-- What the user asked for. -/
inductive Command where
  | simulate (scene config : Option String) (seed : Nat) (options : SimOptions Float)
  | demo (count seed : Nat) (out : Option String)
deriving Repr

/-! ### Values -/

/-- A value read by `f`, a fault in words. -/
abbrev Parse (β : Type) := String → Except String β

def parseNat : Parse Nat := fun s => (parseCount s.toList).mapError NumberFault.message

def parseReal : Parse Float := fun s => (parseFloat s.toList).mapError NumberFault.message

/-- A number inside a value; a fault is shown with the name of the part. -/
def part {β : Type} (name : String) (f : List Char → Except NumberFault β) (cs : List Char) :
    Except String β :=
  (f cs).mapError fun e => name ++ ": " ++ e.message

/-- A point `x,y`. -/
def parsePoint : Parse (Vec2 Float) := fun s =>
  match splitOnce? ',' s.toList with
  | none => .error ("expected x,y but got " ++ quoted s)
  | some (x, y) => do
    let x ← part "x" parseFloat (trim x)
    let y ← part "y" parseFloat (trim y)
    .ok ⟨x, y⟩

/-- A data event from its four parts. -/
def heatEventOf (lat lon amount frame : List Char) : Except String (HeatEvent Float) := do
  let lat ← part "lat" parseFloat lat
  let lon ← part "lon" parseFloat lon
  let amount ← part "amount" parseFloat amount
  let frame ← part "frame" parseCount frame
  .ok ⟨frame, ⟨lat, lon⟩, amount⟩

/-- A data event `lat,lon,amount` or `lat,lon,amount,frame`; the frame is the first by default. -/
def parseHeatEvent : Parse (HeatEvent Float) := fun s =>
  match (splitAt ',' s.toList).map trim with
  | [lat, lon, amount] => heatEventOf lat lon amount ['0']
  | [lat, lon, amount, frame] => heatEventOf lat lon amount frame
  | _ => .error ("expected lat,lon,amount[,frame] but got " ++ quoted s)

/-! ### Options -/

/-- Whether a value can be read. -/
def readable {β : Type} (f : Parse β) (s : String) : Option ValueFault :=
  match f s with
  | .ok _ => none
  | .error reason => some (.invalid reason)

/-- A path is any text but the empty one. -/
def isPath (s : String) : Option ValueFault := if s.isEmpty then some .missing else none

def simulateSpec : CommandSpec where
  name := "simulate"
  about := "Mount a globe on recording surfaces, run frames and print a JSON summary"
  options :=
    [⟨"scene", .single, none, isPath, "Scene JSON (\x60markers\x60, \x60connections\x60, \x60heatmapPoints\x60)", none⟩,
     ⟨"config", .single, none, isPath, "Config JSON; missing fields take defaults", none⟩,
     ⟨"frames", .single, none, readable parseNat, "", "120"⟩,
     ⟨"dt", .single, none, readable parseReal, "", "0.016666666666666666"⟩,
     ⟨"width", .single, none, readable parseReal, "", "600"⟩,
     ⟨"height", .single, none, readable parseReal, "", "600"⟩,
     ⟨"seed", .single, none, readable parseNat, "", "0"⟩,
     ⟨"drag-from", .single, some "drag-to", readable parsePoint,
       "Drag start as \x60x,y\x60 in display pixels", none⟩,
     ⟨"drag-to", .single, some "drag-from", readable parsePoint, "", none⟩,
     ⟨"hover", .single, none, readable parsePoint,
       "Rest the pointer at \x60x,y\x60 after the drag", none⟩,
     ⟨"click", .flag, some "hover", fun _ => none, "Release at the hover position", none⟩,
     ⟨"heat-decay", .single, some "heat-event", readable parseReal,
       "Drive heat from \x60--heat-event\x60s, fading by this factor each frame. " ++
         "Replaces the scene's heatmap points", none⟩,
     ⟨"heat-event", .many, some "heat-decay", readable parseHeatEvent,
       "Data event as \x60lat,lon,amount[,frame]\x60; frame defaults to 0", none⟩]

def demoSpec : CommandSpec where
  name := "demo"
  about := "Write a generated validator-map scene as JSON"
  options :=
    [⟨"count", .single, none, readable parseNat, "", "1000"⟩,
     ⟨"seed", .single, none, readable parseNat, "", "12345"⟩,
     ⟨"out", .single, none, isPath, "Output path; stdout when omitted", none⟩]

/-- The help for the program. -/
def help : String :=
  programHelp "Headless globe simulator and demo scene generator" [simulateSpec, demoSpec]

/-- The value of an option as read by `f`. -/
def Given.get? {β : Type} (given : Given) (name : String) (f : Parse β) : Option β :=
  (given.value? name).bind fun s => (f s).toOption

/-- The command `simulate` with its options. -/
def simulateOf (given : Given) : Command :=
  let d : SimOptions Float := .default
  let drag := match given.get? "drag-from" parsePoint, given.get? "drag-to" parsePoint with
    | some start, some finish => some (start, finish)
    | _, _ => none
  let events := (given.values "heat-event").filterMap fun s => (parseHeatEvent s).toOption
  .simulate (given.value? "scene") (given.value? "config")
    ((given.get? "seed" parseNat).getD 0)
    { frames := (given.get? "frames" parseNat).getD d.frames
      dt := (given.get? "dt" parseReal).getD d.dt
      container :=
        ⟨(given.get? "width" parseReal).getD d.container.width,
         (given.get? "height" parseReal).getD d.container.height⟩
      script :=
        { drag := drag
          hover := given.get? "hover" parsePoint
          click := given.has "click" }
      heat := (given.get? "heat-decay" parseReal).map fun decay => ⟨decay, events⟩ }

/-- The command `demo` with its options. -/
def demoOf (given : Given) : Command :=
  .demo ((given.get? "count" parseNat).getD 1000) ((given.get? "seed" parseNat).getD 12345)
    (given.value? "out")

/-- The help for a command by name. -/
def helpFor? : String → Option String
  | "simulate" => some simulateSpec.help
  | "demo" => some demoSpec.help
  | "help" => some helpForHelp
  | _ => none

/-- What the command `help` answers: commands have no commands of their own. -/
def answerHelp : List String → UsageError
  | [] => .help help
  | name :: more =>
    match helpFor? name, more with
    | none, _ => .unknownCommand name
    | some text, [] => .help text
    | some _, extra :: _ => .unknownCommand extra

/-- Reads the arguments of the program. -/
def parse : List String → Except UsageError Command
  | [] => .error (.noCommand help)
  | "simulate" :: args => (parseOptions simulateSpec args).map simulateOf
  | "demo" :: args => (parseOptions demoSpec args).map demoOf
  | "help" :: args => .error (answerHelp args)
  | name :: args =>
    .error <| match Argument.ofText name with
      | .stop => match args with
        | [] => .noCommand help
        | extra :: _ =>
          if (helpFor? extra).isSome then .unexpectedArgument extra else .unknownCommand extra
      | .option "help" none => .help help
      | .option "help" (some value) => .superfluousValue value "--help"
      | .option option _ => .unexpectedArgument ("--" ++ option)
      | .letter c => if c = 'h' then .help help else .unexpectedArgument (String.ofList ['-', c])
      | .plain text => .unknownCommand text

end GlobeView.CommandLine
