import CrashReport.Debugger
import CrashReport.Json
import CrashReport.MachineInterface.Reader
import CrashReport.Path
import CrashReport.Text.Blank
import CrashReport.Text.Scan

/-!
# Stacks of the QML engine

A crash in QML code shows as a pile of interpreter frames. The engine can print its own
stack: a pointer to the engine is looked for in the frames of all threads, and the
engine is asked with expressions that newer and older versions of its library know.

* **`QmlStack.payload?`** — the result records inside a printed answer;
* **`QmlStack.ofPayload?`** — the stack that the records describe;
* **`QmlStack.search`** — the stack of the first engine that answers with records. It
  is looked for thread by thread, frame by frame from the newest, symbol by symbol,
  expression by expression, and the selection is put back.
-/

namespace CrashReport

namespace QmlStack

/-- A frame of the engine's stack, as far as the engine describes it. -/
structure Frame where
  file : Option String := none
  function : Option String := none
  line : Option Int := none
  deriving DecidableEq, Repr

end QmlStack

/-- The stack of a QML engine, newest frame first. -/
structure QmlStack where
  frames : List QmlStack.Frame
  deriving DecidableEq, Repr

namespace QmlStack

/-- The type of the object that is looked for. -/
def engineType : String := "QV4::ExecutionEngine"

/-- The expressions that print the stack of the engine at an address. -/
def expressions (address : UInt64) : List String :=
  let a := Hex.address address
  ["qt_v4StackTraceForEngine((void*)" ++ a ++ ")",
    "qt_v4StackTrace(((" ++ engineType ++ " *)" ++ a ++ ")->currentContext())",
    "qt_v4StackTrace(((" ++ engineType ++ " *)" ++ a ++ ")->currentContext)"]

/-- The text with each escaped quote written as a quote. -/
def unescapeQuotes : List Char → List Char
  | '\\' :: '"' :: text => '"' :: unescapeQuotes text
  | c :: text => c :: unescapeQuotes text
  | [] => []

/-- The records inside a printed text such as `$1 = "stack=[…]"`, in which the debugger has
escaped the quotes. -/
def payload? (printed : String) : Option String := do
  let (_, rest) ← Text.cut "\"stack=[".toList printed.toList
  let records ← Text.before? "]\"".toList (Text.trimEnd rest)
  return String.ofList (unescapeQuotes records)

/-- The text of a field of a record. -/
def textField (name : String) (value : MachineInterface.Value) : Option String :=
  (value.field? name).bind MachineInterface.Value.constant?

/-- The frame that a record describes, with the home directory hidden. -/
def frameOf? (home : Option String) (result : MachineInterface.Result) : Option Frame :=
  match result with
  | ("frame", value@(.tuple _)) => some {
      file := (textField "file" value).map (Path.hideHome home)
      function := textField "func" value
      line := (textField "line" value).bind fun line => Decimal.int64? (Text.trim line.toList) }
  | _ => none

/-- The stack that records describe, if they are well formed and describe any frame. -/
def ofPayload? (home : Option String) (payload : String) : Option QmlStack :=
  match MachineInterface.read payload with
  | .error _ => none
  | .ok results =>
    match results.filterMap (frameOf? home) with
    | [] => none
    | frames => some ⟨frames⟩

/-- A frame as it stands in a report. -/
def Frame.toJson (frame : Frame) : Json :=
  .ofFields (
    [("platform", .text "other"), ("in_app", .bool true)] ++
    Json.optional "filename" .text frame.file ++
    Json.optional "function" .text frame.function ++
    Json.optional "lineno" .number frame.line)

/-- The stack as a thread of a report, in which the oldest frame stands first. -/
def toJson (stack : QmlStack) : Json :=
  .ofFields [
    ("id", .text "QML"),
    ("name", .text "QML"),
    ("crashed", .bool true),
    ("stacktrace", .ofFields [("frames", .array (stack.frames.reverse.map Frame.toJson))])]

/-- The address of the engine, if the symbol is a pointer to one. -/
def engineAddress? (symbol : FrameSymbol) : Option UInt64 :=
  if symbol.holdsValue then
    symbol.reading.bind fun reading =>
      if reading.optimizedOut || reading.pointee ≠ some engineType then none
      else reading.address
  else none

variable {σ : Type}

/-- The first answer to the expressions that has records in it. -/
def ask (d : Debugger σ) : List String → σ → Option String × σ
  | [], s => (none, s)
  | expression :: rest, s =>
    match d.perform (.evaluate expression) s with
    | (.error _, s) => ask d rest s
    | (.ok printed, s) =>
      match payload? printed with
      | some payload => (some payload, s)
      | none => ask d rest s

/-- The records of the first engine that answers, among those in the selected frame. -/
def askFrame (d : Debugger σ) (s : σ) : Option String × σ :=
  match d.perform .symbols s with
  | (.error _, s) => (none, s)
  | (.ok symbols, s) => ask d ((symbols.filterMap engineAddress?).flatMap expressions) s

/-- The records of the first engine that answers, from the selected frame on towards the
callers, in at most `fuel` frames. -/
def askFrames (d : Debugger σ) : (fuel : Nat) → σ → Option String × σ
  | 0, s => (none, s)
  | fuel + 1, s =>
    match askFrame d s with
    | (some payload, s) => (some payload, s)
    | (none, s) =>
      match d.perform .selectOlder s with
      | (.error _, s) => (none, s)
      | (.ok _, s) => askFrames d fuel s

/-- The records of the first engine that answers, thread by thread. A thread that cannot
be selected, or has no frames, is passed over. The frames of the others are all gone through, however
many there are; `depth` only says that there is an end to them. -/
def askThreads (d : Debugger σ) : List Thread → σ → Option String × σ
  | [], s => (none, s)
  | thread :: rest, s =>
    if thread.valid then
      match d.perform (.switchThread thread.number) s with
      | (.error _, s) => askThreads d rest s
      | (.ok _, s) =>
        match d.perform .selectNewest s with
        | (.error _, s) => askThreads d rest s
        | (.ok _, s) =>
          match askFrames d (d.depth s) s with
          | (some payload, s) => (some payload, s)
          | (none, s) => askThreads d rest s
    else askThreads d rest s

/-- The stack of the first engine that answers in one of the threads. -/
def search (d : Debugger σ) (threads : List Thread) (home : Option String) (s : σ) :
    Option QmlStack × σ :=
  d.keepingThread
    (fun s =>
      let (payload, s) := askThreads d threads s
      (payload.bind (ofPayload? home), s)) s

end QmlStack

end CrashReport
