import CrashReport.Debugger
import CrashReport.Table

/-!
# Recorded sessions

A recorded session holds everything a debugger would say about a process: its
threads with their frames, its images, its mappings, and the values of static
variables and expressions. It answers as the debugger would have answered.

* **`Session`** — the recording, the selection, and a log of the loads;
* **`Session.perform`** — the answer to each request. Only a selection and a load
  change the session, and only a load that finds no file leaves a trace of a refusal;
* **`Session.debugger`** — the session as a debugger.

The name of a function is known once the symbols of its image are loaded.
-/

namespace CrashReport

namespace Session

/-- A frame as it was recorded. There are no registers if they cannot be read. `image` is the file
whose symbols name the function; without one the name is always known. -/
structure Frame where
  pc : UInt64 := 0
  function : Option String := none
  kind : FrameKind := .normal
  file : Option String := none
  line : Option Int64 := none
  symbols : List FrameSymbol := []
  registers : Option (List Register) := none
  image : Option String := none
  deriving DecidableEq, Repr

/-- A thread as it was recorded, with its frames, newest first. -/
structure ThreadRecord where
  thread : Thread
  frames : List Frame := []
  deriving DecidableEq, Repr

/-- An image as it was recorded. `buildId` is the build id in memory, and `diskBuildId` that of the
file, if it is another one. The image is loaded once its symbols are. -/
structure MappedFile where
  file : String
  start : UInt64
  stop : UInt64
  buildId : Option String := none
  diskBuildId : Option String := none
  loaded : Bool := false
  deriving DecidableEq, Repr

/-- A request to load an image. -/
structure Load where
  file : String
  detail : Detail
  deriving DecidableEq, Repr

end Session

/-- A recorded session with its present selection, which is the number of a thread and the level of
a frame. The threads are in the order in which they are listed. Of several images that fit, the
first counts. `downloads` allows to fetch debug information over the network, and `loads` are the
loads that were asked for, oldest first. -/
structure Session where
  live : Bool := false
  coreFile : Option String := none
  programPath : Option String := none
  programBuildId : Option String := none
  selected : Option UInt32 := none
  level : Nat := 0
  threads : List Session.ThreadRecord := []
  images : List Session.MappedFile := []
  mappings : Option String := none
  statics : Table String := {}
  evaluations : Table String := {}
  downloads : Bool := true
  loads : List Session.Load := []

namespace Session

/-- The first thread with a number. -/
def thread? (s : Session) (number : UInt32) : Option ThreadRecord :=
  s.threads.find? fun record => record.thread.number = number

/-- The selected thread. -/
def current? (s : Session) : Option ThreadRecord := s.selected.bind s.thread?

/-- The frames of the selected thread. -/
def frames (s : Session) : List Frame := (s.current?.map ThreadRecord.frames).getD []

/-- The selected frame. -/
def frame? (s : Session) : Option Frame := s.frames[s.level]?

/-- The first image that holds an address. -/
def imageAt? (s : Session) (address : UInt64) : Option MappedFile :=
  s.images.find? fun image => image.start ≤ address && address < image.stop

/-- The symbols that name the frame's function are loaded. -/
def symbolsKnown (s : Session) (frame : Frame) : Bool :=
  match frame.image with
  | none => true
  | some file => s.images.any fun image => image.file = file && image.loaded

/-- The name of the frame's function, if it is known. -/
def functionOf (s : Session) (frame : Frame) : Option String :=
  if s.symbolsKnown frame then frame.function else none

/-- The frame's place in the source, unless neither file nor line is known. -/
def Frame.location (frame : Frame) : Option Location :=
  match frame.file, frame.line with
  | none, none => none
  | file, line => some ⟨file, line⟩

/-- Something read of the selected frame. -/
def read {α : Type} (s : Session) (what : Frame → Except DebuggerError α) :
    Except DebuggerError α :=
  match s.frame? with
  | some frame => what frame
  | none => .error .noFrame

/-- The build id of the file that is found when an image is loaded. -/
def MappedFile.foundBuildId (image : MappedFile) : Option String :=
  image.diskBuildId.or image.buildId

/-- The images with the symbols of the first one of a file loaded. -/
def markLoaded (file : String) : List MappedFile → List MappedFile
  | [] => []
  | image :: rest =>
    if image.file = file then { image with loaded := true } :: rest
    else image :: markLoaded file rest

/-- The session with one more load in its log. -/
def logLoad (s : Session) (load : Load) : Session :=
  { s with loads := s.loads ++ [load] }

/-- The answer to a request and the session after it. -/
def perform {α : Type} (request : Request α) (s : Session) : Except DebuggerError α × Session :=
  match request with
  | .switchThread number =>
    match s.thread? number with
    | some record =>
      if record.thread.valid then (.ok (), { s with selected := some number, level := 0 })
      else (.error (.invalidThread number), s)
    | none => (.error (.invalidThread number), s)
  | .selectNewest =>
    if 0 < s.frames.length then (.ok (), { s with level := 0 })
    else (.error (.invalidFrame 0), s)
  | .selectOlder =>
    if s.level + 1 < s.frames.length then (.ok (), { s with level := s.level + 1 })
    else (.error .noOlderFrame, s)
  | .selectFrame level =>
    if level < s.frames.length then (.ok (), { s with level := level })
    else (.error (.invalidFrame level), s)
  | .pc => (s.read fun frame => .ok frame.pc, s)
  | .frameKind => (s.read fun frame => .ok frame.kind, s)
  | .symbols => (s.read fun frame => .ok frame.symbols, s)
  | .registers =>
    (s.read fun frame =>
      match frame.registers with
      | some registers => .ok registers
      | none => .error (.unsupported "frame registers"), s)
  | .evaluate expression =>
    match s.evaluations.find? expression with
    | some value => (.ok value, s)
    | none => (.error (.evaluation ("cannot evaluate " ++ expression)), s)
  | .staticText name => (.ok (s.statics.find? name), s)
  | .mappings =>
    if s.live then (.ok (s.mappings.getD ""), s)
    else (.error (.command "No current process: you must name one."), s)
  | .buildIdAt address =>
    match s.images.find? fun image => image.start = address with
    | some image => (.ok image.buildId, s)
    | none => (.error (.memory address), s)
  | .load file _ detail =>
    let logged := s.logLoad ⟨file, detail⟩
    match s.images.find? fun image => image.file = file with
    | some image => (.ok image.foundBuildId, { logged with images := markLoaded file s.images })
    | none => (.error (.command (file ++ ": No such file or directory.")), logged)

/-- The session as a debugger. -/
def debugger : Debugger Session where
  isLive := live
  coreFile := coreFile
  programPath := programPath
  programBuildId := programBuildId
  threads := fun s => s.threads.map ThreadRecord.thread
  selectedThread := selected
  depth := fun s => s.frames.length
  functionName := fun s => s.frame?.bind s.functionOf
  location := fun s => s.frame?.bind Frame.location
  libraryAt := fun address s => (s.imageAt? address).map MappedFile.file
  allowDownloads := fun allowed s => { s with downloads := allowed }
  perform := perform

end Session

end CrashReport
