import CrashReport.Console
import CrashReport.Machine.SystemFiles
import Std.Time.DateTime.Timestamp

/-!
# The program

The operations of the system, and the program that carries out the command with them.
Two names are made of random octets (`RandomName`): the number of an event, which must
differ from those of all other events, and the name of a temporary file.
No tool is run from here: a listing or a fact for which one would be needed is missing.
-/

namespace CrashReport.RandomName

/-- Sixteen random octets as the number of an event: version 4 and variant 1 of the format
for such numbers are marked in the seventh and the ninth of them. -/
def eventId (octets : List UInt8) : List UInt8 :=
  octets.mapIdx fun place octet =>
    if place = 6 then octet % 0x10 + 0x40
    else if place = 8 then octet % 0x40 + 0x80
    else octet

/-- The letters and digits of the names of temporary files. -/
def alphabet : List Char :=
  "ABCDEFGHIJKLMNOPQRSTUVWXYZabcdefghijklmnopqrstuvwxyz0123456789".toList

/-- The name of a temporary file, with a character for each octet. -/
def temporary (octets : List UInt8) : String :=
  ".tmp" ++ String.ofList (octets.map fun octet => alphabet.getD (octet.toNat % 62) 'A')

theorem length_eventId (octets : List UInt8) : (eventId octets).length = octets.length := by
  simp [eventId]

end CrashReport.RandomName

namespace CrashReport.Program

/-- A failure of the system as the command knows it. -/
def fileError : IO.Error → FileError
  | .noFileOrDirectory _ _ _ => .missing
  | .noSuchThing _ _ _ => .missing
  | .inappropriateType _ 20 _ => .notDirectory
  | .inappropriateType _ 21 _ => .isDirectory
  | .invalidArgument _ 36 _ => .nameTooLong
  | .resourceBusy 16 _ => .busy
  | error => .other (toString error)

/-- The answer of an operation, or why it failed. -/
def attempt {α : Type} (work : IO α) : IO (Except FileError α) := do
  try return .ok (← work)
  catch error => return .error (fileError error)

/-- The text of a file, if it can be read. -/
def textOf? (path : String) : IO (Option String) := do
  return (← attempt (IO.FS.readFile path)).toOption

/-- The files in which the kernel describes the machine. -/
def systemFiles : IO SystemFiles := do
  return {
    processors := ← textOf? "/proc/cpuinfo"
    memory := ← textOf? "/proc/meminfo"
    counters := ← textOf? "/proc/stat"
    kernelName := ← textOf? "/proc/sys/kernel/ostype"
    hostName := ← textOf? "/proc/sys/kernel/hostname"
    release := ← textOf? "/proc/sys/kernel/osrelease"
    version := ← textOf? "/proc/sys/kernel/version"
    architecture := ← textOf? "/proc/sys/kernel/arch" }

/-- The present time. -/
def now : IO Timestamp := do
  let time ← Std.Time.Timestamp.now
  return .ofNanos (time.val.second.val * Timestamp.nanosInSecond + time.val.nano.val)

/-- Random octets. -/
def randomOctets (count : USize) : IO (List UInt8) := do
  return (← IO.getRandomBytes count).toList

/-- Opens a file and reads its text; the octets must be a text. -/
def readText (path : String) : IO (Except OpenError String) := do
  match ← attempt (IO.FS.Handle.mk path .read) with
  | .error error => return .error (.opening error)
  | .ok handle =>
    match ← attempt handle.readToEnd with
    | .error error => return .error (.reading error)
    | .ok text => return .ok text

/-- Where a path leads once all links are followed. -/
def canonical (path : String) : IO String := do
  return ((← attempt (IO.FS.realPath path)).toOption.map toString).getD path

/-- The operations of the system on which the program runs. -/
def platform : Platform IO where
  home := IO.getEnv "HOME"
  readFile := readText
  createFile := fun path => attempt do
    let _ ← IO.FS.Handle.mk path .write
  appendFile := fun path text => attempt do
    (← IO.FS.Handle.mk path .append).putStr text
  freshName := return RandomName.temporary (← randomOctets 6)
  renameFile := fun source target => attempt (IO.FS.rename source target)
  removeFile := fun path => attempt (IO.FS.removeFile path)
  writeOut := fun text => attempt do
    let out ← IO.getStdout
    out.putStr text
    out.flush
  writeError := fun text => attempt do
    (← IO.getStderr).putStr text
  runTool := fun _ => return none
  canonical := canonical
  circumstances := fun facts => return {
    eventId := RandomName.eventId (← randomOctets 16)
    time := ← now
    machine := (← systemFiles).machine facts }

end CrashReport.Program

/-- Carries out the command with the arguments of the program. -/
def main (arguments : List String) : IO UInt32 := do
  return UInt32.ofNat (← CrashReport.Console.run CrashReport.Program.platform arguments)
