import CrashReport.Debugger
import CrashReport.Loader
import CrashReport.Roster
import CrashReport.Stack

/-!
# Unwinding

A thread's stack is read frame by frame, from the newest towards the callers, until the
outermost frame, a frame that cannot be read, or the limit is reached.

* **`Unwind.frames`** — the frames that are visited;
* **`Unwind.clip`** — of the crashed thread, the frames after the crash handler: what
  stands up to the oldest frame of the handler or of a signal trampoline is left out;
* **`Unwind.unwind`** — the stack of a thread, which stays selected at its newest frame.

What cannot be read of a frame is missing from it; only a frame without a program
counter ends the stack. The image of a frame goes by the canonical path of its file.
-/

namespace CrashReport.Unwind

/-- What to read, besides the frames themselves: whether the thread is the one that crashed, whether
symbols and registers are captured, and the home directory to hide in file names. -/
structure Options where
  crashed : Bool := false
  capture : Bool := false
  home : Option String := none
  deriving DecidableEq, Repr

/-- What was captured of stacks: how many frames they have, and how many of those have at least one
symbol. -/
structure Captured where
  frames : Nat := 0
  withVars : Nat := 0
  deriving DecidableEq, Repr

/-- The function that handles the fatal signal. -/
def crashHandler : String := "KCrash::defaultCrashHandler"

/-- The functions that run the main loop of a program. -/
def mainLoops : List String :=
  ["main", "QCoreApplication::exec", "QGuiApplication::exec", "QApplication::exec"]

/-- The function is the crash handler, whatever its arguments are. -/
def isHandler (function : String) : Bool :=
  (Text.after? crashHandler.toList function.toList).isSome

/-- The function is a main loop, with or without its arguments. -/
def isMainLoop (function : String) : Bool :=
  mainLoops.any fun name =>
    match Text.after? name.toList function.toList with
    | some [] => true
    | some (c :: _) => c = '('
    | none => false

/-- The frame is one of the crash handler. -/
def inHandler (frame : Stack.Frame) : Bool := frame.function.any isHandler

/-- The registers in hexadecimal; those of vectors are left out, and one that is not
available counts as zero. -/
def registerTable (registers : List Register) : Table String :=
  .ofList ((registers.filter fun r => (Text.after? "ymm".toList r.name.toList).isNone).map
    fun r => (r.name, Hex.address (r.value.getD 0)))

/-- The symbols with their printed values, as far as they have one. -/
def varTable (symbols : List FrameSymbol) : Table String :=
  .ofList (symbols.filterMap fun symbol =>
    (symbol.reading.bind Reading.text).map fun text => (symbol.name, text))

variable {σ : Type}

/-- The selected frame; it fails only if there is no program counter. -/
def readFrame (d : Debugger σ) (roster : Roster) (o : Options) (s : σ) :
    Except DebuggerError Stack.Frame × σ :=
  match d.perform .pc s with
  | (.error reason, s) => (.error reason, s)
  | (.ok pc, s) =>
    let (kind, s) := d.perform .frameKind s
    let location := d.location s
    let frame : Stack.Frame := {
      pc := pc
      kind := kind.toOption.getD .normal
      function := d.functionName s
      file := (location.bind Location.file).map (Path.hideHome o.home)
      line := location.bind Location.line
      image := (roster.locate d pc s).map Image.file }
    if o.capture then
      let (symbols, s) := d.perform .symbols s
      (.ok { frame with vars := symbols.toOption.map varTable }, s)
    else (.ok frame, s)

/-- The frames from the selected one on, at most `fuel` of them. -/
def frames (d : Debugger σ) (roster : Roster) (o : Options) :
    (fuel : Nat) → σ → List Stack.Frame × σ
  | 0, s => ([], s)
  | fuel + 1, s =>
    match readFrame d roster o s with
    | (.error _, s) => ([], s)
    | (.ok frame, s) =>
      if fuel = 0 then ([frame], s)
      else
        match d.perform .selectOlder s with
        | (.error _, s) => ([frame], s)
        | (.ok _, s) =>
          let (older, s) := frames d roster o fuel s
          (frame :: older, s)

/-- The place of the last frame that passes a test. -/
def lastPlace? (test : Stack.Frame → Bool) (frames : List Stack.Frame) : Option Nat :=
  frames.zipIdx.foldl (fun last (frame, place) => if test frame then some place else last) none

/-- The greater one of two places, if there is any. -/
def greater? : Option Nat → Option Nat → Option Nat
  | some a, some b => some (max a b)
  | some a, none => some a
  | none, b => b

/-- The frames that are left when all up to the last frame of the crash handler or the last signal
trampoline, whichever is older, are dropped. -/
def clip (frames : List Stack.Frame) : List Stack.Frame :=
  match greater? (lastPlace? inHandler frames)
      (lastPlace? (fun frame => frame.kind = .signalTrampoline) frames) with
  | some place => frames.drop (place + 1)
  | none => frames

/-- The registers of the selected frame, if they are wanted and can be read. -/
def readRegisters (d : Debugger σ) (o : Options) (s : σ) : Option (Table String) × σ :=
  if o.capture then
    let (registers, s) := d.perform .registers s
    (registers.toOption.map registerTable, s)
  else (none, s)

/-- The registers and all frames of the selected thread. -/
def visit (d : Debugger σ) (roster : Roster) (o : Options) (s : σ) :
    (Option (Table String) × List Stack.Frame) × σ :=
  match d.perform .selectNewest s with
  | (.error _, s) => ((none, []), s)
  | (.ok _, s) =>
    let (registers, s) := readRegisters d o s
    let (visited, s) := frames d roster o frameLimit s
    ((registers, visited), s)

/-- The stack made of what was read of a thread. -/
def assemble (thread : Thread) (o : Options) (registers : Option (Table String))
    (visited : List Stack.Frame) : Stack :=
  let kept := if o.crashed then clip visited else visited
  let blocking := Blocking.Records.ofFunctions thread.id (kept.filterMap Stack.Frame.function)
  { thread := thread
    frames := kept
    registers := registers
    handled := o.crashed && visited.any inHandler
    main := visited.any fun frame => frame.function.any isMainLoop
    blocking := blocking
    state := Blocking.state? thread.exited blocking }

/-- What was captured of a stack. -/
def captured (stack : Stack) : Captured :=
  ⟨stack.frames.length, stack.frames.countP Stack.Frame.hasVars⟩

/-- The stack of a thread; it fails only if the thread cannot be selected. -/
def unwind (d : Debugger σ) (roster : Roster) (thread : Thread) (o : Options) (s : σ) :
    Except DebuggerError Stack × σ :=
  match d.perform (.switchThread thread.number) s with
  | (.error reason, s) => (.error reason, s)
  | (.ok _, s) =>
    let ((registers, visited), s) := d.atNewestFrame (visit d roster o) s
    (.ok (assemble thread o registers visited), s)

end CrashReport.Unwind
