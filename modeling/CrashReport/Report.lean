import CrashReport.HostFacts
import CrashReport.Image
import CrashReport.Json.Numeral
import CrashReport.QmlStack
import CrashReport.Signal
import CrashReport.Stack
import CrashReport.Timestamp
import CrashReport.Unwind

/-!
# Reports

A report holds what was found out about a crash. Where and when it was made is told
apart from it, as `Circumstances`, so that a session and its options alone decide the
report.

* **`Report.crashing`** — the stack of the crashed thread;
* **`Report.varsRate`**, **`Report.varsTag`** — how much was captured of it.

A rate is the share of some things among all, in whole hundredths (`Rate.hundredths`). It is
computed as a machine computes it, in binary floating point with 53 significant bits: the quotient
is rounded to such a number, so is its product with a hundred, and only that is rounded to
a whole number. So a quotient that lies exactly between two hundredths goes to the side
to which the two roundings have moved it.
-/

namespace CrashReport.Rate

/-- A number in binary floating point, `significand / 2 ^ places`. -/
structure Binary where
  significand : Nat
  places : Nat
  deriving DecidableEq, Repr

/-- The number of 53 significant bits that is nearest to a quotient, if the quotient is
less than `2 ^ 53`. -/
def Binary.ofQuotient (num den : Nat) : Binary :=
  if num = 0 then ⟨0, 0⟩
  else
    let places := 53 + den.log2 - num.log2
    let places := if 1 <<< 53 ≤ (num <<< places) / den then places - 1 else places
    ⟨Rounding.even (num <<< places) den, places⟩

/-- The share of `part` in `whole`, in hundredths; nothing has no share in nothing. -/
def hundredths (part whole : Nat) : Nat :=
  if whole = 0 then 0
  else
    let share := Binary.ofQuotient part whole
    let percent := Binary.ofQuotient (100 * share.significand) (1 <<< share.places)
    Rounding.up percent.significand (1 <<< percent.places)

/-- A number of hundredths as a decimal fraction with two places. -/
def text (hundredths : Nat) : String :=
  let places := hundredths % 100
  toString (hundredths / 100) ++ "." ++ (if places < 10 then "0" else "") ++ toString places

theorem hundredths_zero_left (whole : Nat) : hundredths 0 whole = 0 := by
  simp [hundredths, Binary.ofQuotient, Rounding.up]

example : hundredths 1 8 = 13 := by decide

/-- The nearest number to 29/200 lies below it. -/
example : hundredths 29 200 = 14 := by decide

end CrashReport.Rate

namespace CrashReport

/-- The report of a crash. `makerVersion` is the version of the program that made it.
`crashedThread` is the kernel's number of the crashed thread, and `crashed` the place of its stack,
unless there is none, among those of all threads in the order in which they are listed. -/
structure Report where
  program : String
  programBuildId : Option String
  makerVersion : String
  programVersion : Option String
  signal : UInt32
  crashedThread : UInt64
  crashed : Option Nat
  threadStacks : List Stack
  qml : Option QmlStack
  images : ImageList
  captured : Unwind.Captured
  handlerMessage : Option String
  deriving DecidableEq

/-- The machine on which a report is made. Its memory is given in octets, `kernel` is the release of
the kernel, and `description` is what the system says of itself. -/
structure Machine where
  arch : String
  processors : Nat := 1
  memory : Option Nat := none
  freeMemory : Option Nat := none
  bootTime : Option Timestamp := none
  kernel : Option String := none
  description : Option String := none
  host : HostFacts := {}
  deriving DecidableEq, Repr

/-- Where and when a report is made, with the octets of the number by which the event is known. -/
structure Circumstances where
  eventId : List UInt8
  time : Timestamp
  machine : Machine
  deriving DecidableEq, Repr

namespace Report

/-- The stack of the crashed thread. -/
def crashing (r : Report) : Option Stack := r.crashed.bind fun place => r.threadStacks[place]?

/-- The share of the crashed thread's frames of which symbols were captured, in
hundredths. -/
def varsRate (r : Report) : Nat := Rate.hundredths r.captured.withVars r.captured.frames

/-- Enough was captured for the report to be useful. -/
def varsTag (r : Report) : String := if 25 < r.varsRate then "yes" else "no"

/-- The version of the program, by the name of the program. -/
def release (r : Report) : String := r.program ++ "@" ++ r.programVersion.getD "unknown"

end Report

end CrashReport
