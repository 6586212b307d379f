import CrashReport.Blocking
import CrashReport.Debugger
import CrashReport.Json
import CrashReport.Path
import CrashReport.Text.Scan

/-!
# Stacks

The stack of a thread as it is reported, and its two written forms: the JSON object of
an event, in which the oldest frame stands first, and lines for people, in which the
newest one does.
-/

namespace CrashReport

namespace Stack

/-- A frame of a stack. The home directory is hidden in its `file`, the line is as the debugger
counts, and `image` is the file of the image to which the program counter belongs. There are `vars`
if symbols were captured. -/
structure Frame where
  pc : UInt64
  kind : FrameKind := .normal
  function : Option String := none
  file : Option String := none
  line : Option Int64 := none
  image : Option String := none
  vars : Option (Table String) := none
  deriving DecidableEq

end Stack

/-- The stack of a thread, newest frame first. The registers are those of the newest frame in
hexadecimal, if they were captured. The crash handler was found among the frames if the stack is
`handled`, and the thread runs the main loop of the program if it is `main`. `state` is what the
thread is about, if that is known. -/
structure Stack where
  thread : Thread
  frames : List Stack.Frame
  registers : Option (Table String)
  handled : Bool
  main : Bool
  blocking : Blocking.Records
  state : Option Blocking.State
  deriving DecidableEq

namespace Stack

namespace Frame

/-- The line of a report, which is one more than the debugger's. There is none below
zero. The sum wraps around, as it does in the program that is handed out; a build that
checks its arithmetic cannot form the sum for the last line of 64 bits. -/
def reportedLine (frame : Frame) : Option Int64 :=
  (frame.line.filter fun line => 0 ≤ line).map fun line => line + 1

/-- At least one symbol was captured. -/
def hasVars (frame : Frame) : Bool :=
  frame.vars.any fun vars => !vars.isEmpty

/-- The frame as it stands in an event. -/
def toJson (frame : Frame) : Json :=
  .ofFields (
    Json.optional "filename" .text frame.file ++
    Json.optional "function" .text frame.function ++
    Json.optional "package" .text frame.image ++
    [("instruction_addr", .text (Hex.address frame.pc))] ++
    Json.optional "lineno" (fun line => .number line.toInt) frame.reportedLine ++
    Json.optional "vars" .ofTable frame.vars)

/-- Where the frame is: its image and function, or its address if neither is known. -/
def place (frame : Frame) : String :=
  match frame.image, frame.function with
  | some image, some function => Path.lastComponent image ++ "!" ++ function
  | some image, none => Path.lastComponent image
  | none, some function => function
  | none, none => Hex.address frame.pc

/-- The file and line in brackets, if both are known. -/
def source (frame : Frame) : String :=
  match frame.file, frame.reportedLine with
  | some file, some line => " [" ++ Path.lastComponent file ++ " : " ++ toString line ++ "]"
  | _, _ => ""

/-- The lines that describe a frame. -/
def describe (number : Nat) (frame : Frame) : List String :=
  [Decimal.padded number ++ "  " ++ frame.place ++ frame.source,
    "    pc = " ++ Hex.address frame.pc] ++
  ((frame.vars.map Table.entries).getD []).map fun (name, value) =>
    "    " ++ name ++ " = " ++ value

end Frame

/-- The stack trace of an event. -/
def traceJson (stack : Stack) : Json :=
  .ofFields (
    [("frames", .array (stack.frames.reverse.map Frame.toJson))] ++
    Json.optional "registers" .ofTable stack.registers)

/-- The thread of an event; `crashed` says whether it is the one that crashed. -/
def toJson (crashed : Bool) (stack : Stack) : Json :=
  .ofFields (
    [("id", .number stack.thread.id.toNat),
      ("name", .ofOption stack.thread.name),
      ("crashed", .bool (crashed && stack.handled)),
      ("current", .bool crashed),
      ("main", .bool stack.main),
      ("stacktrace", stack.traceJson)] ++
    Json.optional "state" (.text ∘ Blocking.State.name) stack.state ++
    if stack.blocking.toList.isEmpty then [] else [("held_locks", stack.blocking.toJson)])

/-- The lines that describe a stack. -/
def describe (stack : Stack) : List String :=
  match stack.frames with
  | [] => ["<no frames>"]
  | frames => (frames.zipIdx.map fun (frame, number) => frame.describe number).flatten

end Stack

end CrashReport
