import CrashReport.Proofs.Investigation.Loads
import CrashReport.Proofs.Investigation.Reported
import CrashReport.Report.Event
import Mathlib.Data.List.Nodup

/-!
# The threads of an event

The stack of the crashed thread stands in an event twice: among the threads, and with the
exception, which is put there by other code. Which thread it is, whether it crashed in the handler,
and the number of the thread come from different places as well: the place of its stack, the frames
that were visited before any was clipped, and what the debugger lists. The event agrees with
itself nevertheless.

* **`Stack.TracedBy`** — a trace lists the frames of a stack;
* **`Stack.ListedBy`**, **`QmlStack.ListedBy`** — a thread of the event describes a stack;
* **`Investigation.ReadFrom`** — the frames of a stack are recorded ones;
* **`Investigation.threadsJson_reportOf`** — the threads by the records of the session;
* **`Investigation.investigate_threads`** — the threads of an event and its exception.
-/

namespace CrashReport

/-! ### Traces -/

/-- The entry of a trace describes the frame. It has a line if and only if the debugger's is not
below zero, and that line is one more, as far as there is such a number. -/
structure Stack.Frame.DescribedBy (frame : Stack.Frame) (entry : Json) : Prop where
  address : entry.field? "instruction_addr" = some (.text (Hex.address frame.pc))
  placed : (entry.field? "lineno").isSome = true ↔ ∃ line, frame.line = some line ∧ 0 ≤ line
  line : ∀ line, frame.line = some line → 0 ≤ line → line < Int64.maxValue →
    entry.field? "lineno" = some (.number (line.toInt + 1))

/-- The trace has one entry for each frame of the stack, the oldest frame first. -/
def Stack.TracedBy (stack : Stack) (trace : Json) : Prop :=
  ∃ entries, trace.field? "frames" = some (.array entries) ∧
    List.Forall₂ Stack.Frame.DescribedBy stack.frames.reverse entries

theorem Stack.Frame.reportedLine_eq_some_iff {frame : Stack.Frame} {number : Int64} :
    frame.reportedLine = some number ↔
      ∃ line, frame.line = some line ∧ 0 ≤ line ∧ number = line + 1 := by
  unfold reportedLine
  simp only [Option.map_eq_some_iff, Option.filter_eq_some_iff, decide_eq_true_eq]
  constructor
  · rintro ⟨line, ⟨hline, hnonneg⟩, rfl⟩
    exact ⟨line, hline, hnonneg, rfl⟩
  · rintro ⟨line, hline, hnonneg, rfl⟩
    exact ⟨line, ⟨hline, hnonneg⟩, rfl⟩

/-- All lines but the last one of 64 bits have a successor. -/
theorem toInt_add_one {line : Int64} (h : line < Int64.maxValue) :
    (line + 1).toInt = line.toInt + 1 := by
  have hlt : line.toInt < 2 ^ 63 - 1 := Int64.toInt_maxValue ▸ Int64.lt_iff_toInt_lt.1 h
  have hle := line.le_toInt
  rw [Int64.toInt_add]
  show (line.toInt + 1).bmod (2 ^ 64) = _
  exact Int.bmod_eq_of_le_mul_two (by omega) (by omega)

theorem Stack.Frame.lineno_toJson (frame : Stack.Frame) :
    frame.toJson.field? "lineno" = frame.reportedLine.map fun line => .number line.toInt := by
  unfold Stack.Frame.toJson
  rw [Json.field?_append, Json.field?_append, Json.field?_optional, Json.field?_optional]
  cases frame.reportedLine with
  | some line => rfl
  | none =>
      simp only [Json.field?_append, Json.field?_optional]
      rfl

theorem Stack.Frame.describedBy_toJson (frame : Stack.Frame) :
    frame.DescribedBy frame.toJson where
  address := by
    unfold Stack.Frame.toJson
    simp only [Json.field?_append, Json.field?_optional]
    rfl
  placed := by
    rw [frame.lineno_toJson, Option.isSome_map, Option.isSome_iff_exists]
    simp only [Stack.Frame.reportedLine_eq_some_iff]
    constructor
    · rintro ⟨_, line, hline, hnonneg, -⟩
      exact ⟨line, hline, hnonneg⟩
    · rintro ⟨line, hline, hnonneg⟩
      exact ⟨line + 1, line, hline, hnonneg, rfl⟩
  line := by
    intro line hline hnonneg hlt
    rw [frame.lineno_toJson, Stack.Frame.reportedLine_eq_some_iff.2 ⟨line, hline, hnonneg, rfl⟩,
      Option.map_some, toInt_add_one hlt]

theorem Stack.tracedBy_traceJson (stack : Stack) : stack.TracedBy stack.traceJson := by
  refine ⟨stack.frames.reverse.map Stack.Frame.toJson, ?_, ?_⟩
  · unfold Stack.traceJson
    rw [Json.field?_append, Json.field?_optional]
    rfl
  · rw [List.forall₂_map_right_iff, List.forall₂_same]
    exact fun frame _ => frame.describedBy_toJson

/-! ### Threads -/

/-- The thread of an event describes the stack. It is the current one or not, and it crashed if it
is the current one and the crash handler was met. -/
structure Stack.ListedBy (stack : Stack) (isCurrent handled : Bool) (entry : Json) : Prop where
  id : entry.field? "id" = some (.number stack.thread.id.toNat)
  current : entry.field? "current" = some (.bool isCurrent)
  crashed : entry.field? "crashed" = some (.bool (isCurrent && handled))
  trace : ∃ trace, entry.field? "stacktrace" = some trace ∧ stack.TracedBy trace

/-- The fields that every thread of an event has are told by these alone. -/
theorem Stack.field?_toJson (current : Bool) (stack : Stack) {name : String}
    (hstate : "state" ≠ name) (hlocks : "held_locks" ≠ name) :
    (stack.toJson current).field? name = (Json.ofFields
      [("id", .number stack.thread.id.toNat),
        ("name", .ofOption stack.thread.name),
        ("crashed", .bool (current && stack.handled)),
        ("current", .bool current),
        ("main", .bool stack.main),
        ("stacktrace", stack.traceJson)]).field? name := by
  have hblocking : (Json.ofFields (if stack.blocking.toList.isEmpty then []
      else [("held_locks", stack.blocking.toJson)])).field? name = none := by
    split
    · rfl
    · rw [Json.field?_ofFields]
      exact congrArg (Option.map Prod.snd) (List.find?_cons_of_neg (by simpa using hlocks))
  unfold Stack.toJson
  rw [Json.field?_append, Json.field?_append, hblocking, Json.field?_optional, if_neg hstate,
    Option.none_or, Option.none_or]

theorem Stack.trace_toJson (current : Bool) (stack : Stack) :
    (stack.toJson current).field? "stacktrace" = some stack.traceJson := by
  rw [stack.field?_toJson current (by decide) (by decide), Json.field?_ofFields]
  rfl

theorem Stack.listedBy_toJson (current : Bool) (stack : Stack) :
    stack.ListedBy current stack.handled (stack.toJson current) := by
  constructor
  case trace => exact ⟨stack.traceJson, stack.trace_toJson current, stack.tracedBy_traceJson⟩
  all_goals
    rw [stack.field?_toJson current (by decide) (by decide), Json.field?_ofFields]
    rfl

/-- The frame of a QML engine that an entry describes. -/
structure QmlStack.Frame.DescribedBy (frame : QmlStack.Frame) (entry : Json) : Prop where
  file : entry.field? "filename" = frame.file.map .text
  function : entry.field? "function" = frame.function.map .text
  line : entry.field? "lineno" = frame.line.map .number

/-- The thread of an event describes the stack of a QML engine, the oldest frame first. -/
structure QmlStack.ListedBy (stack : QmlStack) (entry : Json) : Prop where
  id : entry.field? "id" = some (.text "QML")
  trace : ∃ trace entries, entry.field? "stacktrace" = some trace ∧
    trace.field? "frames" = some (.array entries) ∧
    List.Forall₂ QmlStack.Frame.DescribedBy stack.frames.reverse entries

theorem QmlStack.Frame.describedBy_toJson (frame : QmlStack.Frame) :
    frame.DescribedBy frame.toJson := by
  constructor
  all_goals
    unfold QmlStack.Frame.toJson
    simp only [Json.field?_append, Json.field?_optional]
  · cases frame.file <;> rfl
  · cases frame.function <;> rfl
  · cases frame.line <;> rfl

theorem QmlStack.listedBy_toJson (stack : QmlStack) : stack.ListedBy stack.toJson where
  id := by
    unfold QmlStack.toJson
    rw [Json.field?_ofFields]
    rfl
  trace := by
    refine ⟨.ofFields [("frames", .array (stack.frames.reverse.map QmlStack.Frame.toJson))],
      stack.frames.reverse.map QmlStack.Frame.toJson, ?_, ?_, ?_⟩
    · unfold QmlStack.toJson
      rw [Json.field?_ofFields]
      rfl
    · rw [Json.field?_ofFields]
      rfl
    · rw [List.forall₂_map_right_iff, List.forall₂_same]
      exact fun frame _ => frame.describedBy_toJson

/-- The thread of an event is marked as the current one. -/
def Json.isCurrent (thread : Json) : Bool :=
  match thread.field? "current" with
  | some (.bool value) => value
  | _ => false

theorem Stack.ListedBy.isCurrent_eq {stack : Stack} {isCurrent handled : Bool} {entry : Json}
    (h : stack.ListedBy isCurrent handled entry) : entry.isCurrent = isCurrent := by
  unfold Json.isCurrent
  rw [h.current]

/-! ### The event -/

theorem Report.threads_toJson (r : Report) (c : Circumstances) :
    (r.toJson c).field? "threads" = some (.array r.threadsJson) := by
  unfold Report.toJson
  rw [Json.field?_append, Json.field?_optional, Json.field?_ofFields]
  rfl

theorem Report.exception_toJson (r : Report) (c : Circumstances) :
    (r.toJson c).field? "exception" =
      some (.ofFields [("values", .array [r.exceptionJson])]) := by
  unfold Report.toJson
  rw [Json.field?_append, Json.field?_optional, Json.field?_ofFields]
  rfl

theorem Report.threadId_exceptionJson (r : Report) :
    r.exceptionJson.field? "thread_id" = some (.number r.crashedThread.toNat) := by
  unfold Report.exceptionJson
  rw [Json.field?_ofFields]
  rfl

theorem Report.trace_exceptionJson (r : Report) :
    r.exceptionJson.field? "stacktrace" = some ((r.crashing.map Stack.traceJson).getD .null) := by
  unfold Report.exceptionJson
  rw [Json.field?_ofFields]
  rfl

namespace Investigation

open Session (ThreadRecord debugger)

variable {o : Options} {s : Session} {crashed : ThreadRecord} {report : Report}

/-- The threads of the event, by the records of which the stacks were read. -/
theorem threadsJson_reportOf :
    (reportOf o s crashed).threadsJson =
      (s.leading.map fun record =>
        (stackFor o s crashed record).toJson (record.number = crashed.number)) ++
      ((reportOf o s crashed).qml.map QmlStack.toJson).toList := by
  unfold Report.threadsJson
  congr 1
  apply List.ext_getElem?
  intro place
  show (((s.leading.map (stackFor o s crashed)).zipIdx.map _)[place]?) = _
  rw [List.getElem?_map, List.getElem?_zipIdx, List.getElem?_map, List.getElem?_map]
  cases hrecord : s.leading[place]? with
  | none => rfl
  | some record =>
      -- the numbers are distinct, so the crashed thread's place is that of its number
      have hplace : (reportOf o s crashed).crashed = some place ↔
          record.number = crashed.number := by
        show (s.leading.findIdx? fun record => record.number = crashed.number) = some place ↔ _
        rw [Sequence.findIdx?_eq_some_iff_of_nodup (Session.nodup_numbers_leading s), hrecord,
          Option.map_some, Option.some.injEq]
      simp only [Option.map_some, Nat.zero_add, decide_eq_decide.2 hplace]

/-- The stack of a thread is read in the session in which the images for it, and for the threads
visited before it, have been loaded. Its frames are recorded frames of the thread, all of them or
the older ones. -/
structure ReadFrom (o : Options) (s : Session) (crashed record : ThreadRecord) (stack : Stack) :
    Prop where
  thread : stack.thread = record.thread
  unwound : (Unwind.unwind debugger (roster debugger o s).1 record.thread
    (unwindOptions o (record.number = crashed.number))
    (s.after (loadsBefore o s crashed record))).1 = .ok stack
  frames : stack.frames.map (fun frame => (frame.pc, frame.line)) <:+
    (record.frames.take frameLimit).map fun frame => (frame.pc, frame.line)

/-- The crash handler is among the frames that are visited before any is clipped. -/
def handlerMet (o : Options) (s : Session) (crashed record : ThreadRecord) : Bool :=
  (Unwind.visited debugger (roster debugger o s).1
    (unwindOptions o (record.number = crashed.number)) record.number
    (s.after (loadsBefore o s crashed record))).any Unwind.inHandler

theorem readFrom_stackFor {record : ThreadRecord} (h : record ∈ s.leading) :
    ReadFrom o s crashed record (stackFor o s crashed record) := by
  obtain ⟨hvalid, hfirst⟩ := Session.mem_leading_iff.1 h
  rw [← Session.thread?_after s (loadsBefore o s crashed record)] at hfirst
  refine ⟨rfl, ?_, ?_⟩
  · rw [Unwind.unwind_eq _ _ hvalid hfirst]
    rfl
  · let visited := Unwind.recordedFrames (roster debugger o s).1
      (unwindOptions o (record.number = crashed.number))
      (s.after (loadsBefore o s crashed record)) record
    have hkept : (stackFor o s crashed record).frames <:+ visited := by
      show (if _ then Unwind.clip visited else visited) <:+ visited
      split
      · exact Unwind.clip_isSuffix visited
      · exact List.suffix_refl _
    have hvisited : visited.map (fun frame => (frame.pc, frame.line)) =
        (record.frames.take frameLimit).map fun frame => (frame.pc, frame.line) := List.map_map
    rw [← hvisited]
    exact hkept.map _

theorem handled_stackFor {record : ThreadRecord} (h : record ∈ s.leading) :
    (stackFor o s crashed record).handled =
      (decide (record.number = crashed.number) && handlerMet o s crashed record) := by
  obtain ⟨hvalid, hfirst⟩ := Session.mem_leading_iff.1 h
  rw [← Session.thread?_after s (loadsBefore o s crashed record)] at hfirst
  unfold handlerMet
  rw [show record.number = record.thread.number from rfl, Unwind.visited_eq _ _ hvalid hfirst]
  rfl

/-- One stack at most is that of the crashed thread. -/
theorem countP_leading (hcrashed : s.thread? crashed.number = some crashed) :
    (s.leading.countP fun record => record.number = crashed.number) =
      if crashed.thread.valid then 1 else 0 := by
  have hcount : (s.leading.countP fun record => record.number = crashed.number) =
      (s.leading.map ThreadRecord.number).count crashed.number := by
    rw [List.count, List.countP_map]
    rfl
  rw [hcount]
  split
  · rename_i hvalid
    have hmem := List.mem_map_of_mem (f := ThreadRecord.number)
      (Session.mem_leading_iff.2 ⟨hvalid, hcrashed⟩)
    exact List.count_eq_one_of_mem (Session.nodup_numbers_leading s) hmem
  · rename_i hinvalid
    rw [List.count_eq_zero]
    intro hmem
    obtain ⟨record, hrecord, hnumber⟩ := List.mem_map.1 hmem
    obtain rfl := eq_of_mem_leading hrecord hcrashed hnumber
    exact hinvalid (Session.mem_leading_iff.1 hrecord).1

/-- The threads of an event and its exception.

The event has one thread for every stack of the report, in the same order, and after them one for
the QML engine's stack, if there is one. Each describes its stack frame by frame, the oldest frame
first. One of them is the current one if the crashed thread is valid, and none otherwise; it alone
may be said to have crashed, and it is if the crash handler is among the frames that were visited.
The exception has the number of the crashed thread, which is the current thread's, and its stack
trace is the current thread's. It has none if no thread is the current one. -/
theorem investigate_threads (c : Circumstances) (h : (investigate debugger o s).1 = .ok report) :
    ∃ crashed native qml exceptions exception,
      s.current? = some crashed ∧
      (report.toJson c).field? "threads" = some (.array (native ++ qml)) ∧
      (report.toJson c).field? "exception" = some exceptions ∧
      exceptions.field? "values" = some (.array [exception]) ∧
      List.Forall₂ (fun stack entry => ∃ record ∈ s.leading,
        ReadFrom o s crashed record stack ∧
        stack.ListedBy (record.number = crashed.number) (handlerMet o s crashed record) entry)
        report.threadStacks native ∧
      List.Forall₂ QmlStack.ListedBy report.qml.toList qml ∧
      native.countP Json.isCurrent = (if crashed.thread.valid then 1 else 0) ∧
      exception.field? "thread_id" = some (.number crashed.thread.id.toNat) ∧
      (∀ entry ∈ native, entry.isCurrent = true →
        entry.field? "id" = exception.field? "thread_id" ∧
        entry.field? "stacktrace" = exception.field? "stacktrace") ∧
      (exception.field? "stacktrace" = some .null ↔
        ∀ entry ∈ native, entry.isCurrent = false) := by
  obtain ⟨crashed, hcurrent, rfl⟩ := eq_reportOf_of_investigate_eq_ok h
  have hfirst := Session.thread?_of_current?_eq_some hcurrent
  let entryOf := fun record : ThreadRecord =>
    (stackFor o s crashed record).toJson (record.number = crashed.number)
  have hlisted : ∀ record ∈ s.leading, (stackFor o s crashed record).ListedBy
      (record.number = crashed.number) (handlerMet o s crashed record) (entryOf record) := by
    intro record hrecord
    have hentry := (stackFor o s crashed record).listedBy_toJson (record.number = crashed.number)
    rw [handled_stackFor hrecord] at hentry
    refine ⟨hentry.id, hentry.current, ?_, hentry.trace⟩
    rw [hentry.crashed, Bool.and_self_left]
  have hcurrentOf : ∀ record, (entryOf record).isCurrent =
      decide (record.number = crashed.number) :=
    fun record => ((stackFor o s crashed record).listedBy_toJson _).isCurrent_eq
  refine ⟨crashed, s.leading.map entryOf, ((reportOf o s crashed).qml.map QmlStack.toJson).toList,
    _, _, hcurrent, ?_, Report.exception_toJson _ c, rfl, ?_, ?_, ?_,
    Report.threadId_exceptionJson _, ?_, ?_⟩
  · rw [Report.threads_toJson, threadsJson_reportOf]
  · show List.Forall₂ _ (s.leading.map (stackFor o s crashed)) _
    rw [List.forall₂_map_left_iff, List.forall₂_map_right_iff, List.forall₂_same]
    exact fun record hrecord => ⟨record, hrecord, readFrom_stackFor hrecord, hlisted record hrecord⟩
  · cases (reportOf o s crashed).qml with
    | none => exact .nil
    | some stack => exact .cons stack.listedBy_toJson .nil
  · rw [List.countP_map, ← countP_leading hfirst]
    exact List.countP_congr fun record _ => by rw [Function.comp_apply, hcurrentOf]
  · intro entry hentry hiscurrent
    obtain ⟨record, hrecord, rfl⟩ := List.mem_map.1 hentry
    rw [hcurrentOf, decide_eq_true_eq] at hiscurrent
    obtain rfl := eq_of_mem_leading hrecord hfirst hiscurrent
    -- the current thread is the crashed one, so the report has its stack as the crashing one
    constructor
    · rw [(hlisted record hrecord).id, Report.threadId_exceptionJson]
      rfl
    · rw [Report.trace_exceptionJson, crashing_reportOf hfirst,
        if_pos (Session.mem_leading_iff.1 hrecord).1]
      exact Stack.trace_toJson _ _
  · rw [Report.trace_exceptionJson, crashing_reportOf hfirst]
    by_cases hvalid : crashed.thread.valid = true
    · have hmem : crashed ∈ s.leading := Session.mem_leading_iff.2 ⟨hvalid, hfirst⟩
      rw [if_pos hvalid]
      constructor
      · -- a trace is an object, however few frames it has
        intro hnull
        cases Option.some.inj hnull
      · intro hnone
        have hcrashed := hnone _ (List.mem_map_of_mem hmem)
        rw [hcurrentOf, decide_eq_false_iff_not] at hcrashed
        exact absurd rfl hcrashed
    · rw [if_neg hvalid]
      refine ⟨fun _ entry hentry => ?_, fun _ => rfl⟩
      obtain ⟨record, hrecord, rfl⟩ := List.mem_map.1 hentry
      rw [hcurrentOf, decide_eq_false_iff_not]
      intro hnumber
      obtain rfl := eq_of_mem_leading hrecord hfirst hnumber
      exact hvalid (Session.mem_leading_iff.1 hrecord).1

theorem investigate_threads_libraries : ∃ report native qml exceptions exception,
    (investigate debugger { tier := .some } libraries).1 = .ok report ∧
    (report.toJson ⟨[], { seconds := 0 }, { arch := "x86_64" }⟩).field? "threads" =
      some (.array (native ++ qml)) ∧
    (report.toJson ⟨[], { seconds := 0 }, { arch := "x86_64" }⟩).field? "exception" =
      some exceptions ∧
    exceptions.field? "values" = some (.array [exception]) ∧
    native.countP Json.isCurrent = 1 ∧
    exception.field? "thread_id" = some (.number 10) ∧
    exception.field? "stacktrace" ≠ some .null := by
  obtain ⟨report, hreport⟩ := exists_report_libraries .some
  obtain ⟨crashed, native, qml, exceptions, exception, hcurrent, hthreads, hexceptions,
    hvalues, -, -, hcount, hid, -, hnull⟩ :=
    investigate_threads ⟨[], { seconds := 0 }, { arch := "x86_64" }⟩ hreport
  obtain rfl : _ = crashed := Option.some.inj hcurrent
  refine ⟨report, native, qml, exceptions, exception, hreport, hthreads, hexceptions, hvalues,
    hcount, hid, ?_⟩
  intro hnone
  have hzero : native.countP Json.isCurrent = 0 := by
    rw [List.countP_eq_zero]
    intro entry hentry hiscurrent
    rw [hnull.1 hnone entry hentry] at hiscurrent
    cases hiscurrent
  rw [hcount] at hzero
  cases hzero

end Investigation

end CrashReport
