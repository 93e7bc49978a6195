/-! # Commands, options and their help

What there is to say about the options of a command, and the texts that say it.  A help text has a
sentence, a line of usage, and a table with a row for each command or option. -/

namespace GlobeView.CommandLine

/-- How an option is given. -/
inductive Arity where
  /-- Without a value, at most once. -/
  | flag
  /-- With a value, at most once. -/
  | single
  /-- With a value, any number of times. -/
  | many
deriving DecidableEq, Repr

/-- What is wrong with a value. -/
inductive ValueFault where
  /-- It counts as no value at all. -/
  | missing
  | invalid (reason : String)
deriving DecidableEq, Repr

/-- An option of a command. -/
structure OptionSpec where
  name : String
  arity : Arity
  /-- An option that has to be given along with it. -/
  needs : Option String
  /-- What is wrong with a value, if anything. -/
  fault? : String → Option ValueFault
  /-- What it is for; the words are only for help. -/
  about : String := ""
  /-- The value without it. -/
  default : Option String := none

/-- A command and its options. -/
structure CommandSpec where
  name : String
  about : String
  options : List OptionSpec

/-- How an option is shown: with the name of its value, if it has one. -/
def OptionSpec.shown (o : OptionSpec) : String :=
  let value := String.ofList (o.name.toList.map fun c => if c = '-' then '_' else c.toUpper)
  "--" ++ o.name ++ (if o.arity = .flag then "" else " <" ++ value ++ ">")

/-! ### Texts -/

/-- A table with two columns, indented. -/
def table (rows : List (String × String)) : String :=
  let width := rows.foldl (fun w row => max w row.1.length) 0
  String.join (rows.map fun (left, right) =>
    "  " ++ left ++ String.ofList (List.replicate (width - left.length) ' ') ++ "  " ++ right ++
      "\n")

/-- The row of an option. -/
def OptionSpec.row (o : OptionSpec) : String × String :=
  let words := match o.default with
    | some value => [o.about, "[default: " ++ value ++ "]"]
    | none => [o.about]
  ("    " ++ o.shown, " ".intercalate (words.filter (!·.isEmpty)))

/-- The row of the option that asks for help. -/
def helpRow : String × String := ("-h, --help", "Print help")

def CommandSpec.row (c : CommandSpec) : String × String := (c.name, c.about)

/-- The help for a command. -/
def CommandSpec.help (c : CommandSpec) : String :=
  c.about ++ "\n\nUsage: globe-sim " ++ c.name ++ " [OPTIONS]\n\nOptions:\n" ++
    table (c.options.map OptionSpec.row ++ [helpRow])

/-- What the command `help` is for. -/
def helpAbout : String := "Print this message or the help of the given subcommand(s)"

/-- The help for the command `help`. -/
def helpForHelp : String :=
  helpAbout ++ "\n\nUsage: globe-sim help [COMMAND]...\n\nArguments:\n" ++
    table [("[COMMAND]...", "Print help for the subcommand(s)")]

/-- The help for a program with commands. -/
def programHelp (about : String) (commands : List CommandSpec) : String :=
  about ++ "\n\nUsage: globe-sim <COMMAND>\n\nCommands:\n" ++
    table (commands.map CommandSpec.row ++ [("help", helpAbout)]) ++ "\nOptions:\n" ++
    table [helpRow]

end GlobeView.CommandLine
