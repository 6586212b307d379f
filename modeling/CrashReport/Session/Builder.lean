import CrashReport.Session

/-!
# Making sessions by hand

Besides being read from a recording, a session can be put together step by step,
from frames to threads and images to the session. The first thread that is added is
the selected one, unless a step says otherwise.
-/

namespace CrashReport.Session

namespace Frame

/-- A frame with one more symbol. -/
def addSymbol (frame : Frame) (symbol : FrameSymbol) : Frame :=
  { frame with symbols := frame.symbols ++ [symbol] }

/-- A frame with one more local variable, which prints as `text`. -/
def addVariable (frame : Frame) (name text : String) : Frame :=
  frame.addSymbol { name, kind := .localVariable, reading := some { text := some text } }

/-- A frame with one more argument, which points to an object of type `pointee`. -/
def addPointer (frame : Frame) (name pointee : String) (address : UInt64) : Frame :=
  frame.addSymbol {
    name
    kind := .argument
    reading := some {
      text := some ("(" ++ pointee ++ " *) " ++ Hex.address address)
      pointee := some pointee
      address := some address } }

/-- A frame at a place in the source. -/
def atLocation (frame : Frame) (file : String) (line : Int64) : Frame :=
  { frame with file := some file, line := some line }

/-- A frame with one more register. -/
def addRegister (frame : Frame) (register : Register) : Frame :=
  { frame with registers := some (frame.registers.getD [] ++ [register]) }

end Frame

/-- A thread with one more frame, older than all others. -/
def ThreadRecord.addFrame (record : ThreadRecord) (frame : Frame) : ThreadRecord :=
  { record with frames := record.frames ++ [frame] }

/-- A session with one more thread, which is selected if none was. -/
def addThread (s : Session) (record : ThreadRecord) : Session :=
  { s with
    selected := s.selected.or (some record.thread.number)
    threads := s.threads ++ [record] }

/-- A session with a thread selected, which need not be there. -/
def select (s : Session) (number : UInt32) : Session :=
  { s with selected := some number, level := 0 }

/-- A session with one more image. -/
def addImage (s : Session) (image : MappedFile) : Session :=
  { s with images := s.images ++ [image] }

/-- A session of a program. -/
def ofProgram (s : Session) (path buildId : String) : Session :=
  { s with programPath := some path, programBuildId := some buildId }

/-- A session with the text of a static variable. -/
def setStatic (s : Session) (name text : String) : Session :=
  { s with statics := s.statics.insert name text }

/-- A session with the printed value of an expression. -/
def setEvaluation (s : Session) (expression value : String) : Session :=
  { s with evaluations := s.evaluations.insert expression value }

end CrashReport.Session
