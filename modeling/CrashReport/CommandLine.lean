import CrashReport.Text.Scan

/-!
# Command lines

The arguments of the command that makes a report from a recorded session. Options
begin with two hyphens; the value of an option stands after an equals sign or is the
next argument. A lone `--` ends the options, and one argument that is no option must
name the session.

* **`options`** — the options, and which values they take;
* **`scan`** — the arguments in their order. Asking for help or the version is answered
  at once, and an argument that cannot be placed is an error at once;
* **`fault?`** — what must hold of all arguments together;
* **`parse`** — the settings that a command line asks for.
-/

namespace CrashReport.CommandLine

/-- What an option takes. -/
inductive Takes where
  | nothing
  | anything
  | oneOf (words : List String)
  deriving DecidableEq, Repr

/-- An option: its name without the hyphens, what it takes, and what it is for. -/
structure OptionSpec where
  name : String
  takes : Takes
  purpose : String
  deriving DecidableEq, Repr

/-- The words for the levels of logging. -/
def logLevels : List String := ["off", "error", "warn", "info", "debug", "trace"]

/-- The words for the memory tiers. -/
def tierWords : List String := ["spacious", "some", "little", "cramped"]

/-- The options. -/
def options : List OptionSpec :=
  [⟨"json", .nothing, "Write the report as an event (the default)"⟩,
   ⟨"human", .nothing, "Write the report for people"⟩,
   ⟨"tier", .oneOf tierWords, "How much memory may be used (default: spacious)"⟩,
   ⟨"signal", .anything, "The number of the fatal signal (default: 11)"⟩,
   ⟨"program", .anything, "The name of the crashed program"⟩,
   ⟨"app-version", .anything, "The version of the crashed program"⟩,
   ⟨"home", .anything, "The home directory to hide in file names"⟩,
   ⟨"host-facts", .anything, "A command that prints facts about the host"⟩,
   ⟨"module-lister", .anything, "A command that lists the images of a core image"⟩,
   ⟨"core", .anything, "The file of the core image"⟩,
   ⟨"output-file", .anything, "The file to write the report to"⟩,
   ⟨"log-file", .anything, "The file to write the log to"⟩,
   ⟨"verbose", .oneOf logLevels, "The level of logging (default: error)"⟩,
   ⟨"pretty", .nothing, "Write the event on indented lines"⟩,
   ⟨"brief", .nothing, "Write only the summary and the crashed thread for people"⟩]

/-- Why a command line is refused. A `conflict` is that two forms of output were asked for. -/
inductive UsageError where
  | unknownArgument (argument : String)
  | unexpectedValue (option : String)
  | missingValue (option : String)
  | repeated (option : String)
  | wrongWord (option value : String)
  | wrongNumber (option value : String)
  | conflict
  | missingSession
  deriving DecidableEq, Repr

/-- What is said about a command line that is refused. -/
def UsageError.message : UsageError → String
  | .unknownArgument argument => "error: unexpected argument: " ++ argument
  | .unexpectedValue option => "error: no value is expected for --" ++ option
  | .missingValue option => "error: a value is required for --" ++ option
  | .repeated option => "error: given more than once: --" ++ option
  | .wrongWord option value => "error: not a possible value for --" ++ option ++ ": " ++ value
  | .wrongNumber option value => "error: not a valid number for --" ++ option ++ ": " ++ value
  | .conflict => "error: --json and --human cannot be used together"
  | .missingSession => "error: no session was given"

/-- What comes instead of settings. -/
inductive Interruption where
  | help
  | version
  | refused (error : UsageError)
  deriving DecidableEq, Repr

/-- An argument that has found its place: the path of the session, an option that takes nothing, or
an option with its value, if there is one. -/
inductive Argument where
  | session (path : String)
  | flag (name : String)
  | valued (name : String) (value : Option String)
  deriving DecidableEq, Repr

/-- The argument is read as an option, and not as the value of the one before it. -/
def looksLikeOption (argument : String) : Bool :=
  match argument.toList with
  | '-' :: _ :: _ => true
  | _ => false

/-- The name of a long option, and the value after its equals sign if it has one. -/
def splitOption (text : List Char) : String × Option String :=
  match Text.cut ['='] text with
  | some (name, value) => (String.ofList name, some (String.ofList value))
  | none => (String.ofList text, none)

/-- Places an argument that is no option. -/
def placeSession (placed : Bool) (argument : String) : Except Interruption Argument :=
  if placed then .error (.refused (.unknownArgument argument)) else .ok (.session argument)

/-- Places all arguments after a lone `--`. -/
def scanSessions : (placed : Bool) → List String → Except Interruption (List Argument)
  | _, [] => .ok []
  | placed, argument :: rest => do
    let first ← placeSession placed argument
    return first :: (← scanSessions true rest)

/-- Places an option that begins with one hyphen, of which only two are known. -/
def shortOption (argument : String) : Interruption :=
  match argument.toList.drop 1 with
  | 'h' :: _ => .help
  | 'V' :: _ => .version
  | _ => .refused (.unknownArgument argument)

/-- Places an option that takes nothing. -/
def placeFlag (name : String) (value : Option String) : Except Interruption Argument :=
  match value with
  | some _ => .error (.refused (.unexpectedValue name))
  | none => .ok (.flag name)

/-- Answers an option that is about the command itself. -/
def placeInquiry (name : String) (value : Option String) (answer : Interruption) : Interruption :=
  match value with
  | some _ => .refused (.unexpectedValue name)
  | none => answer

/-- Places all arguments; `placed` says whether the session has been named. -/
def scan : (placed : Bool) → List String → Except Interruption (List Argument)
  | _, [] => .ok []
  | placed, argument :: rest =>
    match argument.toList with
    | ['-', '-'] => scanSessions placed rest
    | '-' :: '-' :: long =>
      let (name, value) := splitOption long
      if name = "help" then .error (placeInquiry name value .help)
      else if name = "version" then .error (placeInquiry name value .version)
      else
        match options.find? fun spec => spec.name = name with
        | none => .error (.refused (.unknownArgument argument))
        | some spec =>
          if spec.takes = .nothing then do
            let first ← placeFlag name value
            return first :: (← scan placed rest)
          else
            match value, rest with
            | some value, rest => do return .valued name (some value) :: (← scan placed rest)
            | none, next :: after =>
              if looksLikeOption next then do
                return .valued name none :: (← scan placed (next :: after))
              else do return .valued name (some next) :: (← scan placed after)
            | none, [] => .ok [.valued name none]
    | '-' :: _ :: _ => .error (shortOption argument)
    | _ => do
      let first ← placeSession placed argument
      return first :: (← scan true rest)

/-- The option that an argument is. -/
def Argument.option? : Argument → Option String
  | session _ => none
  | flag name => some name
  | valued name _ => some name

/-- The option is among the arguments. -/
def given (arguments : List Argument) (name : String) : Bool :=
  arguments.any fun argument => argument.option? = some name

/-- The value of an option. -/
def value? (arguments : List Argument) (name : String) : Option String :=
  arguments.findSome? fun
    | .valued other value => if other = name then value else none
    | _ => none

/-- The path of the session. -/
def session? (arguments : List Argument) : Option String :=
  arguments.findSome? fun
    | .session path => some path
    | _ => none

/-- The first fault of an option among all arguments. -/
def optionFault? (arguments : List Argument) (spec : OptionSpec) : Option UsageError :=
  if arguments.contains (.valued spec.name none) then some (.missingValue spec.name)
  else if 1 < arguments.countP fun argument => argument.option? = some spec.name then
    some (.repeated spec.name)
  else
    match spec.takes, value? arguments spec.name with
    | .oneOf words, some value =>
      if words.contains value then none else some (.wrongWord spec.name value)
    | _, _ => none

/-- What is wrong with the arguments taken together. -/
def fault? (arguments : List Argument) : Option UsageError :=
  ((options.findSome? (optionFault? arguments)).or
    (if given arguments "json" && given arguments "human" then some .conflict else none)).or
    (if (session? arguments).isNone then some .missingSession else none)

/-- What a command line asks for. The tier, the signal and the level of logging are as they were
written; `hostFacts` and `lister` are commands. -/
structure Settings where
  session : String
  human : Bool := false
  pretty : Bool := false
  brief : Bool := false
  tier : String := "spacious"
  signal : String := "11"
  program : Option String := none
  programVersion : Option String := none
  home : Option String := none
  hostFacts : Option String := none
  lister : String := "eu-unstrip -n"
  coreFile : Option String := none
  outputFile : Option String := none
  logFile : Option String := none
  verbosity : String := "error"
  deriving DecidableEq, Repr

/-- The settings that arguments without a fault ask for. -/
def settings (arguments : List Argument) : Settings where
  session := (session? arguments).getD ""
  human := given arguments "human"
  pretty := given arguments "pretty"
  brief := given arguments "brief"
  tier := (value? arguments "tier").getD "spacious"
  signal := (value? arguments "signal").getD "11"
  program := value? arguments "program"
  programVersion := value? arguments "app-version"
  home := value? arguments "home"
  hostFacts := value? arguments "host-facts"
  lister := (value? arguments "module-lister").getD "eu-unstrip -n"
  coreFile := value? arguments "core"
  outputFile := value? arguments "output-file"
  logFile := value? arguments "log-file"
  verbosity := (value? arguments "verbose").getD "error"

/-- The settings that a command line asks for. -/
def parse (commandLine : List String) : Except Interruption Settings := do
  let arguments ← scan false commandLine
  match fault? arguments with
  | some error => throw (.refused error)
  | none => return settings arguments

/-- How the command is used. -/
def usage : String :=
  let line (spec : OptionSpec) : String :=
    "    --" ++ spec.name ++ (if spec.takes = .nothing then "" else " <value>") ++
      "\n            " ++ spec.purpose ++ "\n"
  "Turns a recorded debugger session of a crashed program into a crash report.\n\n" ++
    "USAGE:\n    crashpost-stackwalk [FLAGS] [OPTIONS] <session>\n\nOPTIONS:\n" ++
    String.join (options.map line)

end CrashReport.CommandLine
