import CrashReport.CommandLine
import CrashReport.Investigation
import CrashReport.Report.Event
import CrashReport.Report.Text
import CrashReport.Session.Reader
import CrashReport.Text.Blank
import CrashReport.Text.Utf8

/-!
# The command

The command reads a recorded session, investigates it and writes the report. It works
on a `Platform`, the operations that it needs of a system, so that its effects can be
followed in a model as well as be carried out.

* **`Console.run`** — the whole command, from arguments to exit code;
* **`pieces`** — the report in the form that the settings ask for, cut into the pieces that
  are written one by one (`writeAll`);
* **`follow`** — where paths lead. All that an investigation may ask for are followed before it is
  made (`imagePaths`);
* **`replaceFile`** — a file is replaced as a whole: the report is written to a
  temporary file beside it, which then takes its place. If anything fails the temporary
  file is to be removed, and the file stays as it was.

The report is written only after everything else has succeeded. What goes to standard output
goes there at once, and stays there if a later piece cannot be written.

Two tools can be asked for, one that lists the images of a core image and one that tells
facts about the host (`ToolRun`, `splitCommand`). Without their answers the report has less in it.
-/

namespace CrashReport

/-- Why a file operation fails. -/
inductive FileError where
  | missing
  | notDirectory
  | isDirectory
  | nameTooLong
  | busy
  | other (text : String)
  deriving DecidableEq, Repr

/-- What the system says about a failure. -/
def FileError.message : FileError → String
  | .missing => "No such file or directory (os error 2)"
  | .notDirectory => "Not a directory (os error 20)"
  | .isDirectory => "Is a directory (os error 21)"
  | .nameTooLong => "File name too long (os error 36)"
  | .busy => "Device or resource busy (os error 16)"
  | .other text => text

/-- Why the text of a file cannot be had: it cannot be opened, or it cannot be read. -/
inductive OpenError where
  | opening (error : FileError)
  | reading (error : FileError)
  deriving DecidableEq, Repr

/-- How a tool ended, where zero is success, and what it printed. -/
structure ToolRun where
  exitCode : Nat
  output : List UInt8
  deriving DecidableEq, Repr

/-- The text that a command printed, if it succeeded. -/
def ToolRun.text? (run : ToolRun) : Option String :=
  if run.exitCode = 0 then some (Utf8.decode run.output) else none

/-- The words of a command. -/
def splitCommand (command : String) : List String :=
  (Text.words command.toList).map String.ofList

/-- The operations of a system. `createFile` makes a file empty if there is one, `appendFile` writes
at the end of one, and `renameFile` replaces what has the new name. `freshName` gives a name that no
file has, and `runTool` says what a command with its arguments did, if it can be run. `canonical`
says where a path leads once all links are followed; one that cannot be followed leads to itself. -/
structure Platform (m : Type → Type) where
  home : m (Option String)
  readFile : String → m (Except OpenError String)
  createFile : String → m (Except FileError Unit)
  appendFile : String → String → m (Except FileError Unit)
  freshName : m String
  renameFile : String → String → m (Except FileError Unit)
  removeFile : String → m (Except FileError Unit)
  writeOut : String → m (Except FileError Unit)
  writeError : String → m (Except FileError Unit)
  runTool : List String → m (Option ToolRun)
  canonical : String → m String
  circumstances : HostFacts → m Circumstances

namespace Console

open CommandLine (Settings)

/-- What the command says about a session that is no session. -/
def flawMessage : Json.Flaw → String
  | .malformed => "not JSON"
  | .mismatch => "not the expected shape"
  | .unfinished => "unexpected end of text"

/-- The report in the form that the settings ask for: the lines for people, or a document and the
end of its line. -/
def pieces (settings : Settings) (report : Report) (c : Circumstances) : List String :=
  if settings.human then report.lines c settings.brief
  else
    let event := report.toJson c
    [if settings.pretty then event.pretty else event.compact, "\n"]

/-- A reversed path without the slashes at its end, and without the components there that
only repeat their directory. -/
def dropIdle : List Char → List Char
  | '/' :: path => dropIdle path
  | '.' :: '/' :: path => dropIdle path
  | path => path

/-- The directory of a path, which is the present one if the path names none. -/
def parentDirectory (path : String) : String :=
  let above := (dropIdle path.toList.reverse).dropWhile (· ≠ '/')
  if above.isEmpty then "."
  else
    match dropIdle above with
    | [] => "/"
    | directory => String.ofList directory.reverse

/-- The path of a name in a directory. -/
def pathIn (directory name : String) : String :=
  if directory.toList.getLast? = some '/' then directory ++ name else directory ++ "/" ++ name

/-- The number of a signal as it is written on the command line. -/
def signal? (settings : Settings) : Option UInt32 := Decimal.uint32? settings.signal.toList

/-- The settings ask for no form of output, with what is said about it. -/
def formFault? (settings : Settings) : Option String :=
  if settings.pretty && settings.human then
    some "Humans must be hideous! (The --pretty and --human flags cannot both be set)"
  else if settings.brief && !settings.human then
    some "Robots cannot be brief! (The --brief flag is only valid for --human output)"
  else none

/-- The options of the investigation that the settings ask for. -/
def investigationOptions (settings : Settings) (tier : Tier) (signal : UInt32)
    (home : Option String) : Investigation.Options where
  tier := tier
  signal := signal
  program := settings.program
  programVersion := settings.programVersion
  home := settings.home.or home
  coreFile := settings.coreFile

variable {m : Type → Type} [Monad m]

/-- Writes the lines of a log. Nothing is logged below the level of errors, and nothing at
all if logging is off. -/
def log (p : Platform m) (settings : Settings) (lines : List String) : m Unit := do
  if settings.verbosity ≠ "off" then
    let text := String.join (lines.map fun line => "[ERROR] " ++ line ++ "\n")
    match settings.logFile with
    | some path =>
      let _ ← p.appendFile path text
    | none =>
      let _ ← p.writeError text

/-- Logs why there is no report, and gives the exit code. -/
def fail (p : Platform m) (settings : Settings) (lines : List String) : m Nat := do
  log p settings lines
  return 1

/-- Writes pieces one after another, up to the first one that cannot be written. -/
def writeAll (write : String → m (Except FileError Unit)) :
    List String → m (Except FileError Unit)
  | [] => return .ok ()
  | piece :: rest => do
    match ← write piece with
    | .error e => return .error e
    | .ok _ => writeAll write rest

/-- Replaces a file by one with the given pieces, or leaves it as it is. Whether the temporary file
could be removed is not asked. -/
def replaceFile (p : Platform m) (path : String) (pieces : List String) :
    m (Except String Unit) := do
  let temporary := pathIn (parentDirectory path) (← p.freshName)
  match ← p.createFile temporary with
  | .error e => return .error (e.message ++ " at path " ++ Text.quote temporary)
  | .ok _ =>
    match ← writeAll (p.appendFile temporary) pieces with
    | .error e =>
      let _ ← p.removeFile temporary
      return .error e.message
    | .ok _ =>
      match ← p.renameFile temporary path with
      | .error e =>
        let _ ← p.removeFile temporary
        return .error e.message
      | .ok _ => return .ok ()

/-- Writes the report to where the settings say. -/
def deliver (p : Platform m) (settings : Settings) (pieces : List String) :
    m (Except String Unit) := do
  match settings.outputFile with
  | some path => replaceFile p path pieces
  | none => return (← writeAll p.writeOut pieces).mapError FileError.message

/-- Runs a command given as one text; a text without words is no command. -/
def runCommand (p : Platform m) (command : String) (arguments : List String) :
    m (Option String) := do
  match splitCommand command with
  | [] => return none
  | words => return (← p.runTool (words ++ arguments)).bind ToolRun.text?

/-- The session in a file, or what is said about its lack. -/
def readSession (p : Platform m) (path : String) : m (Except String Session) := do
  match ← p.readFile path with
  | .error (.opening e) => return .error ("cannot read session: " ++ e.message)
  | .error (.reading e) => return .error ("malformed session: " ++ e.message)
  | .ok text =>
    return (Session.ofText text).mapError fun flaw => "malformed session: " ++ flawMessage flaw

/-- Where each of the paths leads. -/
def follow (p : Platform m) : List String → m (List (String × String))
  | [] => return []
  | path :: rest => do
    let place ← p.canonical path
    let places ← follow p rest
    return (path, place) :: places

/-- The paths that an investigation may have to follow: those of the images, and the names that
the debugger has for its libraries. -/
def imagePaths (o : Investigation.Options) (session : Session) : List String :=
  (Investigation.roster Session.debugger o session).1.images.toList.map Image.file ++
    session.images.map Session.MappedFile.file

/-- Investigates a session. The listing tool is run if its core image must be listed, and all paths
are followed beforehand. -/
def investigate (p : Platform m) (settings : Settings) (o : Investigation.Options)
    (session : Session) : m (Except Failure Report) := do
  let listing ← match Investigation.coreToList Session.debugger o session with
    | some core => runCommand p settings.lister [coreArgument core]
    | none => pure none
  let o := { o with listing := fun _ => listing }
  let places ← follow p (imagePaths o session)
  let canonical := fun path => (places.lookup path).getD path
  return (Investigation.investigate Session.debugger { o with canonical } session).1

/-- The command with settings that can be carried out. -/
def runWith (p : Platform m) (settings : Settings) (o : Investigation.Options) : m Nat := do
  match ← readSession p settings.session with
  | .error reason => fail p settings ["Error reading session: " ++ reason]
  | .ok session =>
    match ← investigate p settings o session with
    | .error failure =>
      fail p settings
        (failure.log ++ [failure.name ++ " - Error processing session: " ++ failure.message])
    | .ok report =>
      let facts ← match settings.hostFacts with
        | some command => runCommand p command []
        | none => pure none
      let c ← p.circumstances (HostFacts.ofOutput facts)
      match ← deliver p settings (pieces settings report c) with
      | .error reason => fail p settings ["Error writing report: " ++ reason]
      | .ok _ => return 0

/-- Makes the file for the log, if one is asked for. -/
def openLog (p : Platform m) (settings : Settings) : m (Except String Unit) := do
  match settings.logFile with
  | some path =>
    return (← p.createFile path).mapError fun e =>
      "cannot create log file " ++ path ++ ": " ++ e.message
  | none => return .ok ()

/-- Refuses a command line. -/
def refuse (p : Platform m) (error : CommandLine.UsageError) : m Nat := do
  let _ ← p.writeError (error.message ++ "\n")
  return 2

/-- The exit code of a program that panics, as it does where it cannot write to standard error. -/
def panicCode : Nat := 101

/-- The command with the settings of its command line. -/
def runSettings (p : Platform m) (settings : Settings) : m Nat := do
  match ← openLog p settings with
  | .error reason =>
    match ← p.writeError (reason ++ "\n") with
    | .ok _ => return 1
    | .error _ => return panicCode
  | .ok _ =>
    match Tier.ofName settings.tier, signal? settings with
    | .error _, _ => refuse p (.wrongWord "tier" settings.tier)
    | .ok _, none => refuse p (.wrongNumber "signal" settings.signal)
    | .ok tier, some signal =>
      match formFault? settings with
      | some reason => fail p settings [reason]
      | none =>
        runWith p settings (investigationOptions settings tier signal (← p.home))

/-- The whole command: carries out its arguments and gives the exit code. -/
def run (p : Platform m) (arguments : List String) : m Nat := do
  match CommandLine.parse arguments with
  | .error .help =>
    let _ ← p.writeOut CommandLine.usage
    return 0
  | .error .version =>
    let _ ← p.writeOut "crashpost-stackwalk 0.3.0\n"
    return 0
  | .error (.refused error) => refuse p error
  | .ok settings => runSettings p settings

end Console

end CrashReport
