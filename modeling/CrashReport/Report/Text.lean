import CrashReport.Report

/-!
# Reports for people

The lines in which a report is shown: a summary, the stack of the crashed thread, and,
unless the report is to be brief, the other stacks, the QML engine's, and the images.
-/

namespace CrashReport.Report

/-- The system and the machine. -/
def machineLines (m : Machine) : List String :=
  ["Operating system: " ++ m.host.osName.getD "Linux"] ++
  (m.kernel.map fun kernel => "                  " ++ kernel).toList ++
  ["CPU: " ++ m.arch,
    "     " ++ toString m.processors ++ " CPU" ++ (if 1 < m.processors then "s" else ""),
    ""]

/-- The reason of the crash. -/
def reasonLines (r : Report) : List String :=
  ["Crash reason:  " ++ (Signal.name? r.signal).getD (toString r.signal.toNat) ++ " / " ++
    Signal.describe r.signal] ++
  (r.handlerMessage.map fun message => "Crash handler message: " ++ message).toList ++
  [""]

/-- The number and the name of a stack's thread. -/
def threadTitle (stack : Stack) : String :=
  "Thread " ++ toString stack.thread.id.toNat ++ " " ++ stack.thread.name.getD ""

/-- The stack of the crashed thread. -/
def crashedLines (r : Report) : List String :=
  match r.crashing with
  | some stack =>
    [threadTitle stack ++ (if stack.handled then " (crashed)" else " (crashed, handler not found)")] ++
      stack.describe ++ [""]
  | none => ["Thread " ++ toString r.crashedThread.toNat ++ " (crashed, no stack)", ""]

/-- The stack of a thread that did not crash. -/
def otherLines (stack : Stack) : List String :=
  let state := (stack.state.map fun state => " (" ++ state.name ++ ")").getD ""
  [threadTitle stack ++ state] ++ stack.describe ++ [""]

/-- The stacks of all threads but the crashed one. -/
def othersLines (r : Report) : List String :=
  ((r.threadStacks.zipIdx.filter fun (_, place) => r.crashed ≠ some place).map
    fun (stack, _) => otherLines stack).flatten

/-- A frame of the QML engine's stack. -/
def qmlLine (number : Nat) (frame : QmlStack.Frame) : String :=
  Decimal.padded number ++ "  " ++ frame.function.getD "<anonymous>" ++ " [" ++
    frame.file.getD "?" ++ " : " ++ (frame.line.map fun (line : Int) => toString line).getD "" ++ "]"

/-- The stack of the QML engine. -/
def qmlLines (stack : QmlStack) : List String :=
  ["QML stack"] ++ (stack.frames.zipIdx.map fun (frame, number) => qmlLine number frame) ++ [""]

/-- An image. -/
def imageLine (image : Image) : String :=
  Hex.address image.base ++ " - " ++ Hex.address image.limit ++ "  " ++
    Path.lastComponent image.file ++ "  (" ++ image.buildId.getD "" ++ ")"

/-- The summary and the stack of the crashed thread. -/
def briefLines (r : Report) (c : Circumstances) : List String :=
  machineLines c.machine ++ r.reasonLines ++ r.crashedLines

/-- All of the report. -/
def fullLines (r : Report) (c : Circumstances) : List String :=
  r.briefLines c ++ r.othersLines ++ ((r.qml.map qmlLines).getD []) ++
    ["Loaded modules:"] ++ r.images.toList.map imageLine

/-- The lines of the report for people. -/
def lines (r : Report) (c : Circumstances) (brief : Bool) : List String :=
  (if brief then r.briefLines c else r.fullLines c).map fun line => line ++ "\n"

end CrashReport.Report
