import GlobeView.CommandLine.Help
import GlobeView.Text.Terminal

/-! # Options

The grammar of the arguments after a command: options by name, most with a value that follows in the
next argument or after an equals sign.

* An argument that starts with a dash is never the value of an option, unless it is a lone dash.
* The value of an option is looked at when the next option begins or the arguments end; until then
  an argument that does not belong there is the first problem.
* Every command has an option that asks for help; it counts once the options before it are in order.
* Options that need each other are compared at the end. -/

namespace GlobeView.CommandLine

/-- Why no command is run. -/
inductive UsageError where
  /-- The user asks for a help text instead. -/
  | help (text : String)
  /-- Without arguments there is a help text as well. -/
  | noCommand (text : String)
  | unknownCommand (name : String)
  | unexpectedArgument (text : String)
  | superfluousValue (value option : String)
  | missingValue (option : String)
  | invalidValue (value option reason : String)
  | repeatedOption (option : String)
  /-- Options that others need. -/
  | missingOptions (options : List String)
deriving DecidableEq, Repr

/-- A usage error in words.  Texts of the user are shown as a terminal shows them. -/
def UsageError.message : UsageError → String
  | .help text => text
  | .noCommand text => text
  | .unknownCommand name => "error: unrecognized subcommand '" ++ Text.plain name ++ "'"
  | .unexpectedArgument text => "error: unexpected argument '" ++ Text.plain text ++ "' found"
  | .superfluousValue value option =>
    "error: unexpected value '" ++ Text.plain value ++ "' for '" ++ option ++
      "' found; no more were expected"
  | .missingValue option =>
    "error: a value is required for '" ++ option ++ "' but none was supplied"
  | .invalidValue value option reason =>
    "error: invalid value '" ++ Text.plain value ++ "' for '" ++ option ++ "': " ++ reason
  | .repeatedOption option =>
    "error: the argument '" ++ option ++ "' cannot be used multiple times"
  | .missingOptions options =>
    "error: the following required arguments were not provided:" ++
      String.join (options.map ("\n  " ++ ·))

/-- Options with their values, in the order in which they were given; a flag has the value "". -/
abbrev Given := List (String × String)

/-- The value of an option. -/
def Given.value? (given : Given) (name : String) : Option String :=
  (given.find? (·.1 == name)).map (·.2)

/-- All values of an option. -/
def Given.values (given : Given) (name : String) : List String :=
  (given.filter (·.1 == name)).map (·.2)

def Given.has (given : Given) (name : String) : Bool := given.any (·.1 == name)

/-- Adds an option with its value. -/
def Given.add (given : Given) (o : OptionSpec) (value : String) : Except UsageError Given :=
  if o.arity != .many && given.has o.name then .error (.repeatedOption o.shown)
  else match o.fault? value with
    | none => .ok (given ++ [(o.name, value)])
    | some .missing => .error (.missingValue o.shown)
    | some (.invalid reason) => .error (.invalidValue value o.shown reason)

/-- An option that was begun and not looked at yet, with its value if that was given. -/
abbrev Pending := Option (OptionSpec × Option String)

/-- Looks at the option that was begun. -/
def Given.settle (given : Given) : Pending → Except UsageError Given
  | none => .ok given
  | some (o, none) => .error (.missingValue o.shown)
  | some (o, some value) => given.add o value

/-- A kind of argument. -/
inductive Argument where
  /-- Two dashes: no options follow. -/
  | stop
  /-- An option by name, perhaps with a value after an equals sign. -/
  | option (name : String) (value : Option String)
  /-- A dash and a letter. -/
  | letter (c : Char)
  | plain (text : String)
deriving DecidableEq, Repr

/-- What kind of argument a text is. -/
def Argument.ofText (text : String) : Argument :=
  match text.toList with
  | ['-', '-'] => .stop
  | '-' :: '-' :: rest =>
    match rest.dropWhile (· != '=') with
    | _ :: value => .option (String.ofList (rest.takeWhile (· != '='))) (some (String.ofList value))
    | [] => .option (String.ofList rest) none
  | '-' :: c :: _ => .letter c
  | _ => .plain text

/-- Goes through the arguments of a command. -/
def readOptions (command : CommandSpec) :
    Given → Pending → List String → Except UsageError Given
  | given, pending, [] => given.settle pending
  | given, pending, text :: rest =>
    match Argument.ofText text with
    | .stop =>
      match rest with
      | [] => given.settle pending
      | extra :: _ => .error (.unexpectedArgument extra)
    | .letter c =>
      if c = 'h' then do
        let _ ← given.settle pending
        .error (.help command.help)
      else .error (.unexpectedArgument (String.ofList ['-', c]))
    | .plain text =>
      match pending with
      | some (o, none) => readOptions command given (some (o, some text)) rest
      | _ => .error (.unexpectedArgument text)
    | .option "help" none => do
      let _ ← given.settle pending
      .error (.help command.help)
    | .option "help" (some value) => .error (.superfluousValue value "--help")
    | .option name value =>
      match command.options.find? (·.name == name) with
      | none => .error (.unexpectedArgument ("--" ++ name))
      | some o =>
        match o.arity, value with
        | .flag, some value => .error (.superfluousValue value o.shown)
        | .flag, none => do
          let given ← given.settle pending
          let given ← given.add o ""
          readOptions command given none rest
        | _, some value => do
          let given ← given.settle pending
          let given ← given.add o value
          readOptions command given none rest
        | _, none => do
          let given ← given.settle pending
          readOptions command given (some (o, none)) rest

/-- The options that are needed and were not given, in the order in which the need arose. -/
def missing (options : List OptionSpec) (given : Given) : List OptionSpec :=
  let needed := (given.filterMap fun (name, _) =>
    (options.find? (·.name == name)).bind (·.needs)).eraseDups
  (needed.filter fun name => !given.has name).filterMap fun name => options.find? (·.name == name)

/-- Reads the arguments of a command. -/
def parseOptions (command : CommandSpec) (args : List String) : Except UsageError Given := do
  let given ← readOptions command [] none args
  match missing command.options given with
  | [] => .ok given
  | options => .error (.missingOptions (options.map OptionSpec.shown))

end GlobeView.CommandLine
