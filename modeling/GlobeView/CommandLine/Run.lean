import GlobeView.CommandLine.Command
import GlobeView.ConfigJson
import GlobeView.Random.Xoshiro
import GlobeView.SceneJson
import GlobeView.Validators

/-! # Running a command

A command reads its files, does its work and leaves an exit code, an output and perhaps a message.
It sees files through a `Disk`, so that it can run against a folder in memory as well. -/

namespace GlobeView.CommandLine

open Json (Value)

/-- Access to files; a fault is the system's message. -/
structure Disk (m : Type → Type) where
  read : String → m (Except String String)
  write : String → String → m (Except String Unit)

/-- What a program leaves behind. -/
structure Outcome where
  exitCode : Nat
  output : String
  message : String
deriving DecidableEq, Repr

/-- Why a command fails. -/
inductive RunError where
  | read (path fault : String)
  | write (path fault : String)
  | scene (path : String)
  | config (path : String) (error : ConfigError)
deriving DecidableEq, Repr

/-- A failure in words. -/
def RunError.message : RunError → String
  | .read path fault => "error: read " ++ Text.quoted path ++ ": " ++ fault
  | .write path fault => "error: write " ++ Text.quoted path ++ ": " ++ fault
  | .scene path => "error: " ++ Text.quoted path ++ ": invalid scene json"
  | .config path e => "error: " ++ Text.quoted path ++ ": " ++ e.message

/-- The counts of a summary. -/
def statsJson (s : OverlayStats) : Value :=
  .object
    [("glows", .count s.glows), ("arcs", .count s.arcs),
     ("skipped_degenerate", .count s.degenerate), ("skipped_hidden", .count s.hidden)]

/-- A summary as it is printed; the glows of each frame are left out when there are none. -/
def summaryJson (s : SimSummary Float) : Value :=
  let trace : List (String × Value) :=
    if s.glowTrace.isEmpty then [] else [("glow_trace", .list (s.glowTrace.map .count))]
  .object <|
    [("frames", .count s.frames), ("phi", .number s.phi), ("velocity", .number s.velocity),
     ("display_width", .number s.display), ("render_width", .number s.render),
     ("overlay", statsJson s.overlay), ("last_overlay_commands", .count s.lastCommands),
     ("hover", match s.hover with
       | some label => .text label
       | none => .null),
     ("clicked", .list (s.clicked.map .text)), ("events", .count s.events)] ++ trace ++
    [("heat_points", .count s.heatPoints)]

section Run

variable {m : Type → Type} [Monad m]

/-- Reads the scene of a simulation; without a path it is empty. -/
def readScene (disk : Disk m) : Option String → m (Except RunError (Scene Float))
  | none => pure (.ok .empty)
  | some path => do
    match ← disk.read path with
    | .error fault => return .error (.read path fault)
    | .ok text => return (Scene.ofJson text).mapError fun _ => .scene path

/-- Reads the configuration of a simulation; without a path it is the default. -/
def readConfig (disk : Disk m) : Option String → m (Except RunError (Config Float))
  | none => pure (.ok .default)
  | some path => do
    match ← disk.read path with
    | .error fault => return .error (.read path fault)
    | .ok text => return (Config.ofJson text).mapError (.config path)

/-- Runs a command.  Answers its output. -/
def Command.run (disk : Disk m) : Command → m (Except RunError String)
  | .simulate scenePath configPath seed options => do
    match ← readScene disk scenePath with
    | .error e => return .error e
    | .ok scene =>
      match ← readConfig disk configPath with
      | .error e => return .error e
      | .ok config =>
        let source := Random.Xoshiro.ofSeed seed.toUInt64
        return .ok ((summaryJson (Simulation.run scene config source options)).pretty ++ "\n")
  | .demo count seed out => do
    let scene : Scene Float := Validators.scene count (Random.ChaCha.ofSeed seed.toUInt64)
    match out with
    | none => return .ok (scene.pretty ++ "\n")
    | some path =>
      match ← disk.write path scene.pretty with
      | .error fault => return .error (.write path fault)
      | .ok _ => return .ok ""

/-- Runs the program with its arguments. -/
def execute (disk : Disk m) (args : List String) : m Outcome := do
  match parse args with
  | .error (.help text) => return ⟨0, text, ""⟩
  | .error e => return ⟨2, "", e.message⟩
  | .ok command =>
    match ← command.run disk with
    | .error e => return ⟨1, "", e.message⟩
    | .ok output => return ⟨0, output, ""⟩

end Run
end GlobeView.CommandLine
