import CrashReport.Text.Hex
import CrashReport.Tier

/-!
# Debuggers

A debugger holds a stopped process or a core image. It has one selection, a thread
and a frame of that thread, and most of what can be read is read of the selected
frame. So whoever moves the selection is expected to put it back.

* **`Request`** lists what a debugger may refuse, with the type of each answer;
* **`Debugger`** is a debugger over a type of states: its answers to requests, and
  what can be read without being refused;
* **`DebuggerError.message`** words the reasons for a refusal;
* **`Debugger.refusing`** is a debugger that refuses some requests without effect.

Work that moves the selection runs under a guard. However the work ends, the guard
then selects the newest frame again (`Debugger.atNewestFrame`), and before that the
thread that was selected when the work began (`Debugger.keepingThread`). If the
debugger refuses, the selection stays where it is.
-/

namespace CrashReport

/-- A thread as a debugger lists it. Its `number` is the debugger's own, by which the thread is
selected, and its `id` is the kernel's. A thread that is not valid has no frames and cannot be
selected. -/
structure Thread where
  number : UInt32
  id : UInt64
  name : Option String := none
  valid : Bool := true
  exited : Bool := false
  deriving DecidableEq, Repr

/-- What the unwinder takes a frame for. A `dummy` is a call made by the debugger itself, `inlined`
one that the compiler has put in place of its caller's code, and `tailCall` one that has taken over
its caller's frame. Through a `signalTrampoline` a signal handler returns, and a `sentinel` only
ends the stack. -/
inductive FrameKind where
  | normal
  | dummy
  | inlined
  | tailCall
  | signalTrampoline
  | arch
  | sentinel
  deriving DecidableEq, Repr

/-- Where in the source a frame stands. The line is 0 if its table has no usable one. -/
structure Location where
  file : Option String
  line : Option Int64
  deriving DecidableEq, Repr

/-- What a symbol of a frame is. -/
inductive SymbolKind where
  | localVariable
  | argument
  | other
  deriving DecidableEq, Repr

/-- What could be read of a symbol's value: the text that the debugger prints for it, whether the
compiler has left no value, the name of the type that it points to, and the value as a number. -/
structure Reading where
  text : Option String := none
  optimizedOut : Bool := false
  pointee : Option String := none
  address : Option UInt64 := none
  deriving DecidableEq, Repr

/-- A symbol of the block in which a frame stands. It has no reading if its value cannot be read. -/
structure FrameSymbol where
  name : String
  kind : SymbolKind
  reading : Option Reading := none
  deriving DecidableEq, Repr

/-- The symbol holds a value of the running program. -/
def FrameSymbol.holdsValue (s : FrameSymbol) : Bool :=
  s.kind = .localVariable || s.kind = .argument

/-- A register of a frame, with its value if that is available. -/
structure Register where
  name : String
  value : Option UInt64 := none
  deriving DecidableEq, Repr

/-- Why a debugger refuses a request. With `noFrame` the selected thread has no frame to read, and
with `noOlderFrame` the outermost frame is selected. -/
inductive DebuggerError where
  | noFrame
  | noOlderFrame
  | invalidFrame (level : Nat)
  | invalidThread (number : UInt32)
  | memory (address : UInt64)
  | evaluation (reason : String)
  | command (reason : String)
  | unsupported (ability : String)
  deriving DecidableEq, Repr

/-- What is said about a refusal. -/
def DebuggerError.message : DebuggerError → String
  | .noFrame => "no frame is selected"
  | .noOlderFrame => "no older frame"
  | .invalidFrame level => "frame " ++ toString level ++ " does not exist"
  | .invalidThread number => "thread " ++ toString number.toNat ++ " does not exist"
  | .memory address => "cannot access memory at address " ++ Hex.address address
  | .evaluation reason => "evaluation failed: " ++ reason
  | .command reason => "command failed: " ++ reason
  | .unsupported ability => "not supported by this debugger: " ++ ability

/-- What a debugger can be asked and may refuse; the index is the type of the answer. A thread is
selected at its newest frame, whose level is 0, and `selectOlder` selects the caller of the selected
frame. What is asked of a frame, and the value of an expression, are those of the selected one. The
answer to a load is the build id of the file that was found. -/
inductive Request : Type → Type where
  | switchThread (number : UInt32) : Request Unit
  | selectNewest : Request Unit
  | selectOlder : Request Unit
  | selectFrame (level : Nat) : Request Unit
  | pc : Request UInt64
  | frameKind : Request FrameKind
  | symbols : Request (List FrameSymbol)
  | registers : Request (List Register)
  | evaluate (expression : String) : Request String
  | staticText (name : String) : Request (Option String)
  | mappings : Request String
  | buildIdAt (address : UInt64) : Request (Option String)
  | load (file : String) (address : UInt64) (detail : Detail) : Request (Option String)

/-- A debugger whose states are of type `σ`. The function and the location are those of the selected
frame, and `libraryAt` names the file of the library that holds an address.

No debugger can be asked for its `depth`. It bounds how many frames of the selected thread can
be selected in turn, and stands for the end of a loop that has no bound of its own: it goes on to
the caller of a frame for as long as there is one (`QmlStack.askThreads`). -/
structure Debugger (σ : Type) where
  isLive : σ → Bool
  coreFile : σ → Option String
  programPath : σ → Option String
  programBuildId : σ → Option String
  threads : σ → List Thread
  selectedThread : σ → Option UInt32
  depth : σ → Nat
  functionName : σ → Option String
  location : σ → Option Location
  libraryAt : UInt64 → σ → Option String
  allowDownloads : Bool → σ → σ
  perform : {α : Type} → Request α → σ → Except DebuggerError α × σ

namespace Debugger

variable {σ : Type}

/-- The debugger, but refusing the requests for which `refusal` gives a reason. A refused
request has no effect. -/
def refusing (d : Debugger σ)
    (refusal : {α : Type} → Request α → σ → Option DebuggerError) : Debugger σ :=
  { d with
    perform := fun request s =>
      match refusal request s with
      | some reason => (.error reason, s)
      | none => d.perform request s }

/-! ### Putting the selection back -/

variable {α : Type}


/-- The state after selecting the newest frame, if that is possible. -/
def toNewestFrame (d : Debugger σ) (s : σ) : σ :=
  (d.perform .selectNewest s).2

/-- The state after selecting a thread, if one is given, and then its newest frame. -/
def toThread (d : Debugger σ) (number : Option UInt32) (s : σ) : σ :=
  match number with
  | some number => d.toNewestFrame (d.perform (.switchThread number) s).2
  | none => d.toNewestFrame s

/-- Runs `work` and selects the newest frame of whichever thread it leaves selected. -/
def atNewestFrame (d : Debugger σ) (work : σ → α × σ) (s : σ) : α × σ :=
  let (answer, after) := work s
  (answer, d.toNewestFrame after)

/-- Runs `work` and selects the thread again that was selected before, at its newest
frame. -/
def keepingThread (d : Debugger σ) (work : σ → α × σ) (s : σ) : α × σ :=
  let (answer, after) := work s
  (answer, d.toThread (d.selectedThread s) after)

theorem atNewestFrame_fst (d : Debugger σ) (work : σ → α × σ) (s : σ) :
    (d.atNewestFrame work s).1 = (work s).1 := rfl

theorem keepingThread_fst (d : Debugger σ) (work : σ → α × σ) (s : σ) :
    (d.keepingThread work s).1 = (work s).1 := rfl

end Debugger

end CrashReport
