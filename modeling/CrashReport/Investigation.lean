import CrashReport.Loader
import CrashReport.Report
import CrashReport.Unwind

/-!
# Investigations

An investigation turns a session, whose selected thread is the one that crashed, into
a report. Each thread is traced at most once, the crashed one first: its images are
loaded and its stack is read. Then, in a running process, a QML engine is looked for;
at last every image must have a debug id.

* **`Progress.trace`** — one thread; its stack is kept under its number;
* **`traceOthers`** — the threads besides the crashed one. One that the debugger refuses
  costs only its own stack;
* **`coreToList`** — the core image of which the images must be listed. The path of one must be fit
  to be passed to a tool (`canPass`);
* **`investigate`** — the report. The selection is put back however it ends.
-/

namespace CrashReport

/-- The number of octets that a word passed to a command must stay below. -/
def wordLimit : Nat := 131072

/-- A word can be passed to a command. The system takes a NUL for the end of a word, so
no word has one, and it refuses a word that is too long. -/
def canPass (word : String) : Bool :=
  !word.toList.contains '\x00' && word.utf8ByteSize < wordLimit

/-- The argument by which the listing tool is told of the core image. -/
def coreArgument (core : String) : String := "--core=" ++ core

namespace Investigation

/-- How an investigation is to be made. The name of the program is taken from its path, and the core
image from the debugger, if they are not given. `makerVersion` is the version of the program that
makes the report, and `programVersion` that of the one that crashed. `listing` is what the listing
tool prints for a core image, if it can be run, and `canonical` is where a path leads once all links
are followed. -/
structure Options where
  tier : Tier := .spacious
  signal : UInt32 := 11
  program : Option String := none
  makerVersion : String := "0.3.0"
  programVersion : Option String := none
  home : Option String := none
  coreFile : Option String := none
  listing : String → Option String := fun _ => none
  canonical : String → String := id

/-- What has been found out so far: the loads that were made, the stacks by the numbers of their
threads, the last one first, and what was captured of the crashed thread. -/
structure Progress where
  loader : Loader
  traced : List (UInt32 × Stack) := []
  captured : Unwind.Captured := {}

variable {σ : Type}

/-- The static variable in which the crash handler notes its own failures. -/
def messageVariable : String := "s_kcrashErrorMessage"

/-- The first thread of a number. -/
def thread? (threads : List Thread) (number : UInt32) : Option Thread :=
  threads.find? fun thread => thread.number = number

/-- What the crash handler says about its own failure, if it says anything. -/
def handlerMessage (d : Debugger σ) (s : σ) : Option String × σ :=
  let (answer, s) := d.perform (.staticText messageVariable) s
  (answer.toOption.join.filter fun message => !message.isEmpty, s)

/-- The core image of which the images must be listed, if there is one of which the listing
tool can be told. -/
def coreFile (d : Debugger σ) (o : Options) (s : σ) : Option String :=
  if d.isLive s then none
  else (o.coreFile.or (d.coreFile s)).filter fun core => canPass (coreArgument core)

/-- The images of the session. -/
def roster (d : Debugger σ) (o : Options) (s : σ) : Roster × σ :=
  if d.isLive s then Roster.ofProcess d o.canonical s
  else
    match (coreFile d o s).bind o.listing with
    | some text => (Roster.ofListing o.canonical text, s)
    | none => ({ canonical := o.canonical }, s)

/-- What to read of a thread. -/
def unwindOptions (o : Options) (crashed : Bool) : Unwind.Options :=
  { crashed := crashed, capture := o.tier.captures, home := o.home }

/-- The sum of what was captured. -/
def addCaptured (a b : Unwind.Captured) : Unwind.Captured :=
  ⟨a.frames + b.frames, a.withVars + b.withVars⟩

/-- Loads the images of a thread and reads its stack, unless the stack of a thread with
its number is there already. What was captured counts if the crashed thread is selected
afterwards. -/
def Progress.trace (p : Progress) (d : Debugger σ) (o : Options) (roster : Roster)
    (crashed : UInt32) (thread : Thread) (s : σ) : Except Failure Unit × Progress × σ :=
  if p.traced.any fun entry => entry.1 = thread.number then (.ok (), p, s)
  else
    let isCrashed : Bool := thread.number = crashed
    match p.loader.loadThread d roster thread isCrashed s with
    | (.error failure, loader, s) => (.error failure, { p with loader }, s)
    | (.ok _, loader, s) =>
      let p := { p with loader }
      match Unwind.unwind d roster thread (unwindOptions o isCrashed) s with
      | (.error reason, s) => (.error (.debugger reason), p, s)
      | (.ok stack, s) =>
        let captured :=
          if d.selectedThread s = some crashed then
            addCaptured p.captured (Unwind.captured stack)
          else p.captured
        (.ok (), { p with traced := (thread.number, stack) :: p.traced, captured }, s)

/-- Traces the valid ones of the threads, the crashed one apart. -/
def traceOthers (d : Debugger σ) (o : Options) (roster : Roster) (crashed : UInt32) :
    List Thread → Progress → σ → Except Failure Unit × Progress × σ
  | [], p, s => (.ok (), p, s)
  | thread :: rest, p, s =>
    if thread.number = crashed || !thread.valid then traceOthers d o roster crashed rest p s
    else
      match p.trace d o roster crashed thread s with
      | (.ok _, p, s) => traceOthers d o roster crashed rest p s
      | (.error (.debugger _), p, s) => traceOthers d o roster crashed rest p s
      | (.error failure, p, s) => (.error failure, p, s)

/-- Traces the crashed thread, if it is valid, and then the others. -/
def traceAll (d : Debugger σ) (o : Options) (roster : Roster) (crashed : Thread)
    (threads : List Thread) (p : Progress) (s : σ) : Except Failure Unit × Progress × σ :=
  if crashed.valid then
    match p.trace d o roster crashed.number crashed s with
    | (.ok _, p, s) => traceOthers d o roster crashed.number threads p s
    | (.error failure, p, s) => (.error failure, p, s)
  else traceOthers d o roster crashed.number threads p s

/-- The stacks in the order of the threads, each once, with the numbers of their threads. -/
def inOrder : List Thread → List (UInt32 × Stack) → List (UInt32 × Stack)
  | [], _ => []
  | thread :: rest, traced =>
    match traced.find? fun entry => entry.1 = thread.number with
    | some entry =>
      entry :: inOrder rest (traced.filter fun other => other.1 ≠ thread.number)
    | none => inOrder rest traced

/-- The failure of the first image without a debug id. -/
def missingBuildId? (images : ImageList) : Option Failure :=
  (images.toList.find? fun image => image.debugId?.isNone).map fun image =>
    .noBuildId image.file image.buildId

/-- The name of the program. -/
def programName (o : Options) (path : Option String) : String :=
  (o.program.or (path.map Path.lastComponent)).getD "unknown"

/-- The report of what has been found out. -/
def report (o : Options) (programPath programBuildId : Option String) (crashed : Thread)
    (threads : List Thread) (images : ImageList) (message : Option String)
    (qml : Option QmlStack) (p : Progress) : Report :=
  let traced := inOrder threads p.traced
  { program := programName o programPath
    programBuildId := programBuildId
    makerVersion := o.makerVersion
    programVersion := o.programVersion
    signal := o.signal
    crashedThread := crashed.id
    crashed := traced.findIdx? fun entry => entry.1 = crashed.number
    threadStacks := traced.map (·.2)
    qml := qml
    images := images
    captured := p.captured
    handlerMessage := message }

/-- The stack of a QML engine, which only a running process can be asked for. -/
def qmlStack (d : Debugger σ) (o : Options) (threads : List Thread) (s : σ) :
    Option QmlStack × σ :=
  if d.isLive s then QmlStack.search d threads o.home s else (none, s)

/-- The report of a session in which a listed thread has crashed. -/
def investigateThread (d : Debugger σ) (o : Options) (crashed : Thread) (s : σ) :
    Except Failure Report × σ :=
  let threads := d.threads s
  let (message, s) := handlerMessage d s
  let (roster, s) := roster d o s
  let (loader, s) := Loader.start o.tier d s
  match traceAll d o roster crashed threads { loader } s with
  | (.error failure, _, s) => (.error failure, s)
  | (.ok _, p, s) =>
    let (qml, s) := qmlStack d o threads s
    match missingBuildId? roster.images with
    | some failure => (.error failure, s)
    | none =>
      (.ok (report o (d.programPath s) (d.programBuildId s) crashed threads roster.images
        message qml p), s)

/-- The selected thread, if it is one of those that are listed. -/
def crashedThread? (d : Debugger σ) (s : σ) : Option Thread :=
  (d.selectedThread s).bind (thread? (d.threads s))

/-- The core image that the listing tool must be asked for, if there is one. -/
def coreToList (d : Debugger σ) (o : Options) (s : σ) : Option String :=
  (crashedThread? d s).bind fun _ => coreFile d o s

/-- The report of a session. -/
def investigate (d : Debugger σ) (o : Options) (s : σ) : Except Failure Report × σ :=
  d.keepingThread
    (fun s =>
      match crashedThread? d s with
      | none => (.error .noCrashedThread, s)
      | some crashed => investigateThread d o crashed s) s

end Investigation

end CrashReport
