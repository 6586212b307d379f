import CrashReport.Json.Printer
import CrashReport.Report

/-!
# Reports as events

The JSON object in which a report is sent: the exception with the stack of the crashed
thread, the stacks of all threads with the QML engine's last, the images by which
symbols are found, and what is known of the machine.
-/

namespace CrashReport.Report

/-- The name of the program that makes reports. -/
def makerName : String := "crashpost.stackwalk"

/-- An image of the process. -/
def imageJson (arch : String) (image : Image) : Json :=
  .ofFields [
    ("type", .text "elf"),
    ("image_addr", .text (Hex.address image.base)),
    ("image_size", .number image.size.toNat),
    ("debug_id", .ofOption (image.debugId?.map DebugId.text)),
    ("code_id", .ofOption image.codeId?),
    ("code_file", .text image.file),
    ("arch", .text arch)]

/-- How the signal came to be reported. -/
def mechanismJson (signal : UInt32) : Json :=
  .ofFields [
    ("type", .text "crashpost"),
    ("handled", .bool false),
    ("synthetic", .bool true),
    ("meta", .ofFields [
      ("signal", .ofFields [
        ("number", .number signal.toNat),
        ("name", .text ((Signal.name? signal).getD (Signal.describe signal)))])])]

/-- The signal as the exception of the event. -/
def exceptionJson (r : Report) : Json :=
  .ofFields [
    ("type", .ofOption (Signal.name? r.signal)),
    ("value", .text (Signal.describe r.signal)),
    ("thread_id", .number r.crashedThread.toNat),
    ("mechanism", mechanismJson r.signal),
    ("stacktrace", (r.crashing.map Stack.traceJson).getD .null)]

/-- The threads of the event. -/
def threadsJson (r : Report) : List Json :=
  (r.threadStacks.zipIdx.map fun (stack, place) => stack.toJson (r.crashed = some place)) ++
    (r.qml.map QmlStack.toJson).toList

/-- A number, or null. -/
def numberJson (n : Option Nat) : Json := (n.map fun n => Json.number n).getD .null

/-- The device on which the process ran. -/
def deviceJson (m : Machine) : Json :=
  .ofFields [
    ("name", .ofOption m.host.hostname),
    ("family", .ofOption m.host.chassis),
    ("simulator", .ofOption m.host.virtualization),
    ("arch", .text m.arch),
    ("memory_size", numberJson m.memory),
    ("free_memory", numberJson m.freeMemory),
    ("boot_time", .ofOption (m.bootTime.bind Timestamp.text?)),
    ("timezone", .ofOption m.host.timezone),
    ("processor_count", .number m.processors)]

/-- The system on which the process ran. -/
def systemJson (m : Machine) : Json :=
  .ofFields [
    ("name", .ofOption m.host.osName),
    ("version", .ofOption m.host.osVersion),
    ("build", .ofOption m.host.osBuild),
    ("kernel_version", .ofOption m.kernel),
    ("raw_description", .ofOption m.description)]

/-- The tags by which events are found. -/
def tagsJson (r : Report) : Json :=
  .ofFields [
    ("binary", .text r.program),
    ("stack_vars_rate", .text (Rate.text r.varsRate)),
    ("stack_vars", .text r.varsTag)]

/-- The report as an event. -/
def toJson (r : Report) (c : Circumstances) : Json :=
  .ofFields (
    [("event_id", .text (String.ofList (Hex.ofBytes c.eventId))),
      ("timestamp", .ofOption c.time.text?),
      ("platform", .text "native"),
      ("level", .text "fatal"),
      ("message", .text ("Signal " ++ toString r.signal.toNat ++ " in " ++ r.program)),
      ("sdk", .ofFields [("name", .text makerName), ("version", .text r.makerVersion)]),
      ("release", .text r.release),
      ("dist", .ofOption r.programBuildId),
      ("tags", r.tagsJson),
      ("debug_meta", .ofFields [
        ("images", .array (r.images.toList.map (imageJson c.machine.arch)))]),
      ("threads", .array r.threadsJson),
      ("exception", .ofFields [("values", .array [r.exceptionJson])]),
      ("contexts", .ofFields [
        ("device", deviceJson c.machine),
        ("os", systemJson c.machine)])] ++
    Json.optional "extra"
      (fun message => .ofFields [("kcrash_error_message", .text message)]) r.handlerMessage)

end CrashReport.Report
