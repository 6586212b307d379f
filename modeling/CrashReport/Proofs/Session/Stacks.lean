import CrashReport.Proofs.Session.Unwinding
import CrashReport.Proofs.Text.Scanning
import Mathlib.Data.List.Basic
import Mathlib.Data.List.TakeWhile

/-!
# What a stack says of its thread

The stack of a thread is made of the frames that are visited, of which those of a crashed thread
are clipped. Some of what a stack says is about the frames that were visited and some about those
that are kept; the two differ where a handler has crashed in turn.

* **`LongestTail`** — the longest end of a list without certain elements. Clipping gives that of
  the frames without those that handle a signal (`Unwind.longestTail_clip`);
* **`Unwind.InHandler`**, **`Unwind.RunsMainLoop`** — the frames that tell that a thread has
  crashed, and that it is the main one, by the names of their functions;
* **`Unwind.Shows`** — what a table shows of registers;
* **`Unwind.unwind_stack`** — all that unwinding tells of a thread that can be selected.
-/

namespace CrashReport

/-- The list ends in `tail`, in which no element has the property, and in no longer list of this
kind. -/
structure LongestTail {α : Type} (P : α → Prop) (l tail : List α) : Prop where
  suffix : tail <:+ l
  free : ∀ x ∈ tail, ¬ P x
  longest : ∀ other, other <:+ l → (∀ x ∈ other, ¬ P x) → other <:+ tail

theorem longestTail_takeWhile {α : Type} {P : α → Prop} {p : α → Bool}
    (hp : ∀ x, p x = true ↔ P x) (l : List α) :
    LongestTail P l (l.reverse.takeWhile fun x => !p x).reverse where
  suffix := by
    rw [← List.reverse_prefix, List.reverse_reverse]
    exact List.takeWhile_prefix _
  free := by
    intro x hx
    have hfree := List.mem_takeWhile_imp (List.mem_reverse.1 hx)
    rw [← hp]
    simpa using hfree
  longest := by
    intro other hsuffix hfree
    obtain ⟨before, rfl⟩ := hsuffix
    have hpass : ∀ x ∈ other.reverse, (!p x) = true := by
      intro x hx
      have hx := hfree x (List.mem_reverse.1 hx)
      rw [← hp] at hx
      simpa using hx
    rw [List.reverse_append, List.takeWhile_append_of_pos hpass, List.reverse_append,
      List.reverse_reverse]
    exact List.suffix_append _ _

namespace Unwind

open Session (debugger ThreadRecord)

variable {s : Session}

/-! ### Frames by their functions -/

/-- The name of the function begins with that of the crash handler. -/
def InHandler (frame : Stack.Frame) : Prop :=
  ∃ name, frame.function = some name ∧ "KCrash::defaultCrashHandler".toList <+: name.toList

/-- The function is one that runs a main loop; its arguments may follow in brackets. -/
def RunsMainLoop (frame : Stack.Frame) : Prop :=
  ∃ name, frame.function = some name ∧
    ∃ loop ∈ ["main", "QCoreApplication::exec", "QGuiApplication::exec", "QApplication::exec"],
      name = loop ∨ (loop ++ "(").toList <+: name.toList

theorem inHandler_iff (frame : Stack.Frame) : inHandler frame = true ↔ InHandler frame := by
  unfold inHandler InHandler isHandler crashHandler
  rw [Option.any_eq_true]
  simp only [Text.isSome_after?_iff]

theorem handlesSignal_iff (frame : Stack.Frame) :
    handlesSignal frame = true ↔ InHandler frame ∨ frame.kind = .signalTrampoline := by
  rw [← inHandler_iff]
  simp [handlesSignal]

theorem isMainLoop_iff (function : String) :
    isMainLoop function = true ↔ ∃ loop ∈ mainLoops,
      function = loop ∨ (loop ++ "(").toList <+: function.toList := by
  unfold isMainLoop
  rw [List.any_eq_true]
  refine exists_congr fun loop => and_congr_right fun _ => ?_
  rw [String.toList_append]
  cases hafter : Text.after? loop.toList function.toList with
  | none =>
      have hnot := Text.after?_eq_none_iff.1 hafter
      constructor
      · intro h
        cases h
      · rintro (rfl | ⟨rest, hrest⟩)
        · exact absurd List.prefix_rfl hnot
        · exact absurd ⟨"(".toList ++ rest, by rw [← hrest, List.append_assoc]⟩ hnot
  | some rest =>
      have htext := Text.after?_eq_some.1 hafter
      rw [htext, List.prefix_append_right_inj, ← String.toList_inj, htext,
        List.append_right_eq_self]
      cases rest with
      | nil => simp
      | cons c rest => simp [List.cons_prefix_cons, eq_comm]

theorem runsMainLoop_iff (frame : Stack.Frame) :
    (frame.function.any isMainLoop) = true ↔ RunsMainLoop frame := by
  unfold RunsMainLoop
  rw [Option.any_eq_true]
  simp only [isMainLoop_iff]
  rfl

theorem longestTail_clip (frames : List Stack.Frame) :
    LongestTail (fun frame => InHandler frame ∨ frame.kind = .signalTrampoline) frames
      (clip frames) := by
  rw [clip_eq]
  exact longestTail_takeWhile handlesSignal_iff frames

/-! ### Registers -/

/-- What a table shows of registers. Of several with one name it shows the last, those of vectors
it leaves out, and one that is not available it shows as zero. -/
def Shows (registers : List Register) (table : Table String) : Prop :=
  ∀ name, table.find? name =
    if "ymm".toList <+: name.toList then none
    else (registers.reverse.find? fun r => r.name = name).map fun r =>
      match r.value with
      | some value => Hex.address value
      | none => "0x0"

theorem shows_registerTable (registers : List Register) :
    Shows registers (registerTable registers) := by
  intro name
  have hshown : ∀ r : Register, Hex.address (r.value.getD 0) =
      match r.value with
      | some value => Hex.address value
      | none => "0x0" := by
    intro r
    cases r.value with
    | none => decide +kernel
    | some value => rfl
  unfold registerTable
  rw [Table.find?_ofList, ← List.map_reverse, List.find?_map, Option.map_map, ← List.filter_reverse,
    List.find?_filter]
  simp only [Function.comp_def, hshown, Option.isNone_iff_eq_none, Text.after?_eq_none_iff,
    decide_eq_true_eq]
  split
  · -- a register of a vector is left out, whatever else the debugger says
    rename_i hvector
    rw [Option.map_eq_none_iff, List.find?_eq_none]
    intro r _
    rw [decide_eq_true_eq]
    rintro ⟨hshown, rfl⟩
    exact hshown hvector
  · rename_i hshown
    congr 2
    funext r
    rw [decide_eq_decide, and_iff_right_iff_imp]
    rintro rfl
    exact hshown

/-! ### The stack of a thread -/

/-- What is told of a thread that can be selected, whatever images there are and whatever is asked
for.

The frames that are visited are those of the first thread with the number, no more than 1024 of
them, with the functions that are known at the time. All of them are kept, unless the thread is the
crashed one; then those are kept that stand behind all frames of the crash handler and all signal
trampolines. Whether the crash handler was found, and whether the thread is the main one, is judged
by the frames that were visited. The registers, if they are captured, are those of the newest frame,
even if it is not kept. What counts as captured are the frames that are kept, and those of them that
have variables. -/
theorem unwind_stack (r : Roster) (thread : Thread) (o : Options)
    (hswitch : (debugger.perform (.switchThread thread.number) s).1 = .ok ()) :
    ∃ record visited stack, s.thread? thread.number = some record ∧
      visited = (record.frames.take 1024).map (reported r o s) ∧
      (unwind debugger r thread o s).1 = .ok stack ∧
      stack.thread = thread ∧
      (if o.crashed then
        LongestTail (fun frame => InHandler frame ∨ frame.kind = .signalTrampoline) visited
          stack.frames
      else stack.frames = visited) ∧
      (stack.handled = true ↔ o.crashed = true ∧ ∃ frame ∈ visited, InHandler frame) ∧
      (stack.main = true ↔ ∃ frame ∈ visited, RunsMainLoop frame) ∧
      Option.Rel Shows
        (if o.capture then record.frames.head?.bind Session.Frame.registers else none)
        stack.registers ∧
      captured stack = ⟨stack.frames.length,
        stack.frames.countP fun frame => frame.vars.any fun vars => vars ≠ {}⟩ := by
  rcases Session.switchThread_cases thread.number s with ⟨record, hrecord, hvalid, -⟩ | hrefused
  · rw [unwind_of_thread?_eq_some r o hvalid hrecord]
    refine ⟨record, recordedFrames r o s record, _, hrecord, rfl, rfl, rfl, ?_, ?_, ?_, ?_, ?_⟩
    · -- frames are left out of the crashed thread's stack alone
      cases hcrashed : o.crashed with
      | true =>
          simp only [assemble, hcrashed]
          exact longestTail_clip _
      | false =>
          simp only [assemble, hcrashed]
          rfl
    · simp only [assemble, Bool.and_eq_true, List.any_eq_true, inHandler_iff]
    · simp only [assemble, List.any_eq_true, runsMainLoop_iff]
    · simp only [assemble, recordedRegisters]
      split
      · cases record.frames.head?.bind Session.Frame.registers with
        | none => exact .none
        | some registers => exact .some (shows_registerTable registers)
      · exact .none
    · -- symbols were captured of a frame if its table has an entry
      unfold captured
      congr 2
      funext frame
      unfold Stack.Frame.hasVars
      congr 1
      funext vars
      obtain ⟨entries⟩ := vars
      cases entries <;> rfl
  · rw [hrefused] at hswitch
    cases hswitch

/-- A session whose thread has crashed a second time, in the handler of the first crash. -/
def relapsed : Session where
  selected := some 1
  threads := [
    { thread := { number := 1, id := 10 }
      frames := [
        { pc := 1, function := some "raise",
          registers := some [
            { name := "rip", value := some 1 }, { name := "ymm0", value := some 7 },
            { name := "rsp" }] },
        { pc := 2, function := some "KCrash::defaultCrashHandler(int)" },
        { pc := 3, kind := .signalTrampoline },
        { pc := 4, function := some "QString::fromUtf8" },
        { pc := 5, function := some "KCrash::defaultCrashHandler(int)" },
        { pc := 6, kind := .signalTrampoline },
        { pc := 7, function := some "Widget::paint" },
        { pc := 8, function := some "main", symbols := [
          { name := "argc", kind := .argument, reading := some { text := some "1" } }] }] }]

/-- Both handlers are clipped, and yet they have been found. -/
theorem unwind_stack_relapsed : ∃ visited stack,
    (unwind debugger {} { number := 1, id := 10 } { crashed := true, capture := true }
      relapsed).1 = .ok stack ∧
    LongestTail (fun frame => InHandler frame ∨ frame.kind = .signalTrampoline) visited
      stack.frames ∧
    visited.map Stack.Frame.pc = [1, 2, 3, 4, 5, 6, 7, 8] ∧
    (stack.frames.map Stack.Frame.pc, stack.handled, stack.main, captured stack) =
      ([7, 8], true, true, ⟨2, 1⟩) ∧
    stack.registers = some ⟨[("rip", "0x1"), ("rsp", "0x0")]⟩ := by
  obtain ⟨record, visited, stack, hrecord, hvisited, hstack, -, htail, -⟩ :=
    unwind_stack (s := relapsed) {} { number := 1, id := 10 }
      { crashed := true, capture := true } rfl
  have hrun : (unwind debugger {} { number := 1, id := 10 }
      { crashed := true, capture := true } relapsed).1.toOption.map (fun stack =>
        ((stack.frames.map Stack.Frame.pc, stack.handled, stack.main, captured stack),
          stack.registers)) =
      some (([7, 8], true, true, ⟨2, 1⟩), some ⟨[("rip", "0x1"), ("rsp", "0x0")]⟩) := by
    decide +kernel
  rw [hstack] at hrun
  obtain ⟨hframes, hregisters⟩ := Prod.mk.inj (Option.some.inj hrun)
  cases hrecord
  refine ⟨visited, stack, hstack, htail, ?_, hframes, hregisters⟩
  rw [hvisited]
  rfl

end Unwind

end CrashReport
