import CrashReport.Report
import CrashReport.Text.Blank
import CrashReport.Text.Scan

/-!
# What a system says of its machine

The kernel describes the machine in small files of lines and words. `SystemFiles` holds
their texts as far as they could be read, and `SystemFiles.machine` takes from them what
a report says of the machine. A file that is missing, or does not say what it is asked
for, leaves its fact out.
-/

namespace CrashReport

/-- The texts of the files in which the kernel describes the machine. Each processor takes several
lines, and each amount of memory a line; the counters have the time of the start among them, and
`version` is the build of the kernel. -/
structure SystemFiles where
  processors : Option String := none
  memory : Option String := none
  counters : Option String := none
  kernelName : Option String := none
  hostName : Option String := none
  release : Option String := none
  version : Option String := none
  architecture : Option String := none
  deriving DecidableEq, Repr

namespace SystemFiles

/-- The words of the lines of a text. -/
def rows (text : Option String) : List (List String) :=
  (Text.lines (text.getD "").toList).map fun line => (Text.words line).map String.ofList

/-- The number in the line that begins with a word. -/
def amount? (text : Option String) (word : String) : Option Nat :=
  (rows text).findSome? fun
    | first :: number :: _ => if first = word then Decimal.natural? number.toList else none
    | _ => none

/-- The text of a file that holds one value. -/
def value? (text : Option String) : Option String :=
  text.map fun text => String.ofList (Text.trim text.toList)

/-- The number of processors; there is at least one. -/
def processorCount (f : SystemFiles) : Nat :=
  max 1 ((rows f.processors).countP fun row => row.head? = some "processor")

/-- An amount of memory in octets. -/
def octets? (f : SystemFiles) (word : String) : Option Nat :=
  (amount? f.memory word).map fun kilobytes => 1024 * kilobytes

/-- The system in one line, if all of its parts are known. -/
def description? (f : SystemFiles) : Option String := do
  let parts ← [f.kernelName, f.hostName, f.release, f.version, f.architecture].mapM value?
  return " ".intercalate parts

/-- The machine, given the facts about the host. -/
def machine (f : SystemFiles) (host : HostFacts) : Machine where
  arch := (value? f.architecture).getD "unknown"
  processors := f.processorCount
  memory := f.octets? "MemTotal:"
  freeMemory := f.octets? "MemAvailable:"
  bootTime := (amount? f.counters "btime").map fun seconds => ⟨seconds, 0⟩
  kernel := value? f.release
  description := f.description?
  host := host

theorem one_le_processorCount (f : SystemFiles) : 1 ≤ f.processorCount :=
  Nat.le_max_left ..

end SystemFiles

end CrashReport
