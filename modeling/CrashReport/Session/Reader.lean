import CrashReport.Json.Decode
import CrashReport.Session

/-!
# Reading recordings

A recorded session is a JSON object. This module lists the fields of its records, with
their names and with what holds where one is missing. The selection starts at the
newest frame of the selected thread, and no load has been asked for.
-/

namespace CrashReport.Session

open Json (RecordField)

/-- The kinds of frames by their names. -/
def frameKinds : List (String × FrameKind) :=
  [("normal", .normal), ("dummy", .dummy), ("inline", .inlined), ("tail_call", .tailCall),
   ("sig_tramp", .signalTrampoline), ("arch", .arch), ("sentinel", .sentinel)]

/-- The kinds of symbols by their names. -/
def symbolKinds : List (String × SymbolKind) :=
  [("variable", .localVariable), ("argument", .argument), ("other", .other)]

/-- The fields of a symbol's value. -/
def readingFields : List (RecordField Reading) :=
  [.defaulted "rendered" (Json.optional? Json.string) fun v r => { r with text := v },
   .defaulted "optimized_out" Json.truth fun v r => { r with optimizedOut := v },
   .defaulted "pointee_type" (Json.optional? Json.string) fun v r => { r with pointee := v },
   .defaulted "address" (Json.optional? Json.uint64) fun v r => { r with address := v }]

/-- The fields of a symbol. -/
def symbolFields : List (RecordField FrameSymbol) :=
  [.required "name" Json.string fun v s => { s with name := v },
   .required "kind" (Json.oneOf symbolKinds) fun v s => { s with kind := v },
   .nullable "value" (Json.record {} readingFields) fun v s => { s with reading := v }]

/-- A symbol. -/
def readSymbol : Json.Scan FrameSymbol :=
  Json.record { name := "", kind := .other } symbolFields

/-- The fields of a register. -/
def registerFields : List (RecordField Register) :=
  [.required "name" Json.string fun v r => { r with name := v },
   .nullable "value" Json.uint64 fun v r => { r with value := v }]

/-- The fields of a frame. -/
def frameFields : List (RecordField Frame) :=
  [.defaulted "pc" Json.uint64 fun v f => { f with pc := v },
   .defaulted "function" (Json.optional? Json.string) fun v f => { f with function := v },
   .defaulted "frame_type" (Json.oneOf frameKinds) fun v f => { f with kind := v },
   .defaulted "file" (Json.optional? Json.string) fun v f => { f with file := v },
   .defaulted "line" (Json.optional? Json.int64) fun v f => { f with line := v },
   .defaulted "symbols" (Json.list readSymbol) fun v f => { f with symbols := v },
   .defaulted "registers"
     (Json.optional? (Json.list (Json.record { name := "" } registerFields)))
     fun v f => { f with registers := v },
   .defaulted "module" (Json.optional? Json.string) fun v f => { f with image := v }]

/-- The fields of a thread. -/
def threadFields : List (RecordField ThreadRecord) :=
  [.required "num" Json.uint32 fun v t => { t with thread.number := v },
   .required "tid" Json.uint64 fun v t => { t with thread.id := v },
   .defaulted "name" (Json.optional? Json.string) fun v t => { t with thread.name := v },
   .defaulted "valid" Json.truth fun v t => { t with thread.valid := v },
   .defaulted "exited" Json.truth fun v t => { t with thread.exited := v },
   .defaulted "frames" (Json.list (Json.record {} frameFields)) fun v t => { t with frames := v }]

/-- The fields of an image. -/
def imageFields : List (RecordField MappedFile) :=
  [.required "path" Json.string fun v i => { i with file := v },
   .required "start" Json.uint64 fun v i => { i with start := v },
   .required "end" Json.uint64 fun v i => { i with stop := v },
   .defaulted "build_id" (Json.optional? Json.string) fun v i => { i with buildId := v },
   .defaulted "disk_build_id" (Json.optional? Json.string) fun v i => { i with diskBuildId := v },
   .defaulted "symbols_loaded" Json.truth fun v i => { i with loaded := v }]

/-- The fields of a session. -/
def fields : List (RecordField Session) :=
  [.defaulted "live" Json.truth fun v s => { s with live := v },
   .defaulted "core_file" (Json.optional? Json.string) fun v s => { s with coreFile := v },
   .defaulted "program_path" (Json.optional? Json.string) fun v s => { s with programPath := v },
   .defaulted "program_build_id" (Json.optional? Json.string) fun v s =>
     { s with programBuildId := v },
   .defaulted "selected_thread" (Json.optional? Json.uint32) fun v s => { s with selected := v },
   .defaulted "threads"
     (Json.list (Json.record { thread := { number := 0, id := 0 } } threadFields))
     fun v s => { s with threads := v },
   .defaulted "images"
     (Json.list (Json.record { file := "", start := 0, stop := 0 } imageFields))
     fun v s => { s with images := v },
   .defaulted "mappings" (Json.optional? Json.string) fun v s => { s with mappings := v },
   .defaulted "static_symbols" Json.table fun v s => { s with statics := v },
   .defaulted "evaluations" Json.table fun v s => { s with evaluations := v }]

/-- The session that a text records. -/
def ofText (text : String) : Except Json.Flaw Session :=
  Json.ofText (Json.record {} fields) text

end CrashReport.Session
