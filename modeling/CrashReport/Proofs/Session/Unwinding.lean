import CrashReport.Proofs.Session.Requests
import CrashReport.Unwind
import Mathlib.Data.List.Induction

/-!
# Unwinding on a session

On a recorded session unwinding a thread reads all of its frames within the limit, whatever was
selected before. So the stack of a thread is told by its record, by the names that are known at
the time and by the owners of addresses.

* **`Unwind.reported`** — a recorded frame as it is reported;
* **`Unwind.visited`** — the frames that unwinding visits, which are those of the record
  (`visited_eq`);
* **`Unwind.stackOf`** — the stack that is made of them;
* **`Unwind.unwind_eq`** — unwinding a thread that can be selected gives this stack, and leaves
  the thread selected at its newest frame. So does unwinding one of which something else is
  listed (`unwind_of_thread?_eq_some`).
-/

namespace CrashReport.Unwind

open Session (debugger ThreadRecord)

variable {s t : Session}

/-- A recorded frame as it is reported. -/
def reported (r : Roster) (o : Options) (s : Session) (frame : Session.Frame) : Stack.Frame where
  pc := frame.pc
  kind := frame.kind
  function := s.functionOf frame
  file := frame.file.map (Path.hideHome o.home)
  line := frame.line
  image := (r.locate debugger frame.pc s).map Image.file
  vars := if o.capture then some (varTable frame.symbols) else none

/-- The registers of the newest frame, if they are wanted and were recorded. -/
def recordedRegisters (o : Options) (frames : List Session.Frame) : Option (Table String) :=
  if o.capture then (frames.head?.bind Session.Frame.registers).map registerTable else none

/-- The frames that unwinding a thread visits, before any is clipped. -/
def visited {σ : Type} (d : Debugger σ) (r : Roster) (o : Options) (thread : UInt32) (s : σ) :
    List Stack.Frame :=
  (visit d r o (d.perform (.switchThread thread) s).2).1.2

/-- The frames of a thread within the limit, as they are reported. -/
def recordedFrames (r : Roster) (o : Options) (s : Session) (record : ThreadRecord) :
    List Stack.Frame :=
  (record.frames.take frameLimit).map (reported r o s)

/-- The stack of a recorded thread. -/
def stackOf (r : Roster) (o : Options) (s : Session) (record : ThreadRecord) : Stack :=
  assemble record.thread o (recordedRegisters o record.frames) (recordedFrames r o s record)

theorem file_of_location (frame : Session.Frame) :
    frame.location.bind Location.file = frame.file := by
  unfold Session.Frame.location
  split
  · rename_i hfile _
    exact hfile.symm
  · rfl

theorem line_of_location (frame : Session.Frame) :
    frame.location.bind Location.line = frame.line := by
  unfold Session.Frame.location
  split
  · rename_i hline
    exact hline.symm
  · rfl

theorem readFrame_eq (r : Roster) (o : Options) {frame : Session.Frame}
    (h : s.frame? = some frame) : readFrame debugger r o s = (.ok (reported r o s frame), s) := by
  have hpc : debugger.perform .pc s = (.ok frame.pc, s) := Session.read_of_frame?_eq_some h _
  have hkind : debugger.perform .frameKind s = (.ok frame.kind, s) :=
    Session.read_of_frame?_eq_some h _
  have hsymbols : debugger.perform .symbols s = (.ok frame.symbols, s) :=
    Session.read_of_frame?_eq_some h _
  have hlocation : debugger.location s = frame.location := by
    simp only [debugger, h, Option.bind_some]
  have hfunction : debugger.functionName s = s.functionOf frame := by
    simp only [debugger, h, Option.bind_some]
  unfold readFrame reported
  simp only [hpc, hkind, hsymbols, hlocation, hfunction, file_of_location, line_of_location]
  split <;> rfl

/-- The frames from the selected one on are read, and some frame is selected afterwards. -/
theorem exists_frames_eq (r : Roster) (o : Options) (fuel : Nat) (s : Session) :
    ∃ level, frames debugger r o fuel s =
      (((s.frames.drop s.level).take fuel).map (reported r o s), s.atLevel level) := by
  induction fuel generalizing s with
  | zero => exact ⟨s.level, rfl⟩
  | succ fuel ih =>
      by_cases hlevel : s.level < s.frames.length
      · have hframe : s.frame? = some s.frames[s.level] := List.getElem?_eq_getElem hlevel
        unfold frames
        rw [readFrame_eq r o hframe, List.drop_eq_getElem_cons hlevel, List.take_succ_cons,
          List.map_cons]
        dsimp only
        by_cases hfuel : fuel = 0
        · subst hfuel
          exact ⟨s.level, rfl⟩
        · rw [if_neg hfuel]
          by_cases holder : s.level + 1 < s.frames.length
          · have hselect : debugger.perform .selectOlder s = (.ok (), s.atLevel (s.level + 1)) :=
              Session.perform_selectOlder holder
            obtain ⟨level, hrest⟩ := ih (s.atLevel (s.level + 1))
            refine ⟨level, ?_⟩
            rw [hselect]
            dsimp only
            rw [hrest]
            rfl
          · -- the outermost frame is selected
            have hselect : debugger.perform .selectOlder s = (.error .noOlderFrame, s) :=
              Session.perform_selectOlder_of_le (Nat.le_of_not_lt holder)
            refine ⟨s.level, ?_⟩
            rw [hselect, List.drop_eq_nil_of_le (Nat.le_of_not_lt holder), List.take_nil]
            rfl
      · -- no frame is selected, because the thread has none
        have hpc : debugger.perform .pc s = (.error .noFrame, s) :=
          Session.read_of_length_le (Nat.le_of_not_lt hlevel) _
        refine ⟨s.level, ?_⟩
        unfold frames readFrame
        rw [hpc, List.drop_eq_nil_of_le (Nat.le_of_not_lt hlevel), List.take_nil]
        rfl

theorem readRegisters_eq (o : Options) (s : Session) :
    readRegisters debugger o (s.atLevel 0) = (recordedRegisters o s.frames, s.atLevel 0) := by
  have hregisters : (debugger.perform .registers (s.atLevel 0)).1.toOption =
      s.frames.head?.bind Session.Frame.registers := by
    simp only [debugger, Session.perform, Session.read]
    have hframe : (s.atLevel 0).frame? = s.frames.head? := (List.head?_eq_getElem? ..).symm
    rw [hframe]
    cases s.frames.head? with
    | none => rfl
    | some frame => cases hread : frame.registers <;> simp [hread, Except.toOption]
  unfold readRegisters recordedRegisters
  split
  · rw [← hregisters]
    rfl
  · rfl

theorem atNewestFrame_visit_eq (r : Roster) (o : Options) (s : Session) :
    debugger.atNewestFrame (visit debugger r o) (s.atLevel 0) =
      ((recordedRegisters o s.frames, (s.frames.take frameLimit).map (reported r o s)),
        s.atLevel 0) := by
  unfold Debugger.atNewestFrame Debugger.toNewestFrame visit
  by_cases hframes : s.frames = []
  · have hselect : debugger.perform .selectNewest (s.atLevel 0) = _ :=
      Session.perform_selectNewest_of_nil hframes
    simp only [hselect, hframes]
    unfold recordedRegisters
    cases o.capture <;> rfl
  · have hselect : ∀ level, debugger.perform .selectNewest (s.atLevel level) =
        (.ok (), s.atLevel 0) := fun level => Session.perform_selectNewest hframes
    obtain ⟨level, hvisited⟩ := exists_frames_eq r o frameLimit (s.atLevel 0)
    have hlevel : (s.atLevel 0).atLevel level = s.atLevel level := rfl
    simp only [hselect, readRegisters_eq, hvisited, hlevel]
    rfl

/-- A thread that can be selected is unwound, and it is selected at its newest frame afterwards.
What is listed of the thread need not be what is recorded of it. -/
theorem unwind_of_thread?_eq_some (r : Roster) (o : Options) {record : ThreadRecord}
    {thread : Thread} (hvalid : record.thread.valid = true)
    (hrecord : s.thread? thread.number = some record) :
    unwind debugger r thread o s =
      (.ok (assemble thread o (recordedRegisters o record.frames) (recordedFrames r o s record)),
        s.select thread.number) := by
  let s₁ := s.select thread.number
  have hswitch : debugger.perform (.switchThread thread.number) s = (.ok (), s₁) :=
    Session.perform_switchThread hrecord hvalid
  have hframes : s₁.frames = record.frames := Session.frames_select hrecord
  have hvisit : debugger.atNewestFrame (visit debugger r o) s₁ = _ := atNewestFrame_visit_eq r o s₁
  rw [hframes] at hvisit
  unfold unwind
  rw [hswitch]
  dsimp only
  rw [hvisit]
  rfl

theorem unwind_eq (r : Roster) (o : Options) {record : ThreadRecord}
    (hvalid : record.thread.valid = true)
    (hrecord : s.thread? record.thread.number = some record) :
    unwind debugger r record.thread o s =
      (.ok (stackOf r o s record), s.select record.thread.number) :=
  unwind_of_thread?_eq_some r o hvalid hrecord

theorem visited_eq (r : Roster) (o : Options) {record : ThreadRecord}
    (hvalid : record.thread.valid = true)
    (hrecord : s.thread? record.thread.number = some record) :
    visited debugger r o record.thread.number s = recordedFrames r o s record := by
  let s₁ := s.select record.thread.number
  have hswitch : debugger.perform (.switchThread record.thread.number) s = (.ok (), s₁) :=
    Session.perform_switchThread hrecord hvalid
  have hframes : s₁.frames = record.frames := Session.frames_select hrecord
  have hvisit : (debugger.atNewestFrame (visit debugger r o) s₁).1 = _ :=
    congrArg Prod.fst (atNewestFrame_visit_eq r o s₁)
  rw [Debugger.atNewestFrame_fst, hframes] at hvisit
  unfold visited
  rw [hswitch, hvisit]
  rfl

/-! ### Clipping -/

/-- The frame belongs to the handling of a signal. -/
def handlesSignal (frame : Stack.Frame) : Bool :=
  inHandler frame || frame.kind = .signalTrampoline

theorem lastPlace?_append (test : Stack.Frame → Bool) (frames : List Stack.Frame)
    (frame : Stack.Frame) :
    lastPlace? test (frames ++ [frame]) =
      if test frame then some frames.length else lastPlace? test frames := by
  unfold lastPlace?
  rw [List.zipIdx_append, List.foldl_append, Nat.zero_add]
  rfl

theorem lt_of_lastPlace?_eq_some {test : Stack.Frame → Bool} {frames : List Stack.Frame}
    {place : Nat} (h : lastPlace? test frames = some place) : place < frames.length := by
  induction frames using List.reverseRecOn with
  | nil => cases h
  | append_singleton frames frame ih =>
      rw [lastPlace?_append] at h
      rw [List.length_append, List.length_singleton]
      split at h
      · cases h
        exact Nat.lt_succ_self _
      · exact Nat.lt_succ_of_lt (ih h)

/-- No place among the frames is greater than that of a frame behind them. -/
theorem greater?_lastPlace?_length (test : Stack.Frame → Bool) (frames : List Stack.Frame) :
    greater? (some frames.length) (lastPlace? test frames) = some frames.length ∧
      greater? (lastPlace? test frames) (some frames.length) = some frames.length := by
  cases hplace : lastPlace? test frames with
  | none => exact ⟨rfl, rfl⟩
  | some place =>
      have hle := Nat.le_of_lt (lt_of_lastPlace?_eq_some hplace)
      exact ⟨congrArg some (Nat.max_eq_left hle), congrArg some (Nat.max_eq_right hle)⟩

/-- The greater one of the two places is that of the last frame that handles a signal, in
whichever way. -/
theorem greater?_lastPlace? (frames : List Stack.Frame) :
    greater? (lastPlace? inHandler frames)
        (lastPlace? (fun frame => frame.kind = .signalTrampoline) frames) =
      lastPlace? handlesSignal frames := by
  induction frames using List.reverseRecOn with
  | nil => rfl
  | append_singleton frames frame ih =>
      rw [lastPlace?_append, lastPlace?_append, lastPlace?_append]
      unfold handlesSignal
      cases inHandler frame with
      | true =>
          cases decide (frame.kind = .signalTrampoline) with
          | true => exact congrArg some (Nat.max_self _)
          | false => exact (greater?_lastPlace?_length (·.kind = .signalTrampoline) frames).1
      | false =>
          cases decide (frame.kind = .signalTrampoline) with
          | true => exact (greater?_lastPlace?_length inHandler frames).2
          | false => exact ih

/-- What is left is the longest end of the stack without a frame that handles a signal. -/
theorem clip_eq (frames : List Stack.Frame) :
    clip frames = (frames.reverse.takeWhile (!handlesSignal ·)).reverse := by
  unfold clip
  rw [greater?_lastPlace?]
  induction frames using List.reverseRecOn with
  | nil => rfl
  | append_singleton frames frame ih =>
      rw [lastPlace?_append, List.reverse_concat, List.takeWhile_cons]
      cases hhandles : handlesSignal frame with
      | true => exact List.drop_of_length_le (by simp)
      | false =>
          rw [if_neg Bool.false_ne_true, Bool.not_false, if_pos rfl, List.reverse_cons, ← ih]
          cases hplace : lastPlace? handlesSignal frames with
          | none => rfl
          | some place =>
              exact List.drop_append_of_le_length (lt_of_lastPlace?_eq_some hplace)

/-- The oldest frames are kept. -/
theorem clip_isSuffix (frames : List Stack.Frame) : clip frames <:+ frames := by
  have hprefix := List.takeWhile_prefix (!handlesSignal ·) (l := frames.reverse)
  rw [← List.reverse_suffix, List.reverse_reverse] at hprefix
  rwa [clip_eq]

theorem clip_map {α : Type} (f : α → Stack.Frame) (l : List α) :
    clip (l.map f) = ((l.reverse.takeWhile fun x => !handlesSignal (f x)).reverse).map f := by
  rw [clip_eq, ← List.map_reverse, List.takeWhile_map, List.map_reverse]
  rfl

/-! ### What a stack depends on -/

theorem reported_eq_of_known_eq (r : Roster) (o : Options) (hrecording : s.recording = t.recording)
    (hknown : s.symbolsKnown = t.symbolsKnown) : reported r o s = reported r o t := by
  funext frame
  have hfunction : s.functionOf frame = t.functionOf frame := by
    unfold Session.functionOf
    rw [hknown]
  unfold reported
  rw [Session.locate_eq_of_recording_eq r frame.pc hrecording, hfunction]

theorem stackOf_eq_of_known_eq (r : Roster) (o : Options) (record : ThreadRecord)
    (hrecording : s.recording = t.recording) (hknown : s.symbolsKnown = t.symbolsKnown) :
    stackOf r o s record = stackOf r o t record := by
  unfold stackOf recordedFrames
  rw [reported_eq_of_known_eq r o hrecording hknown]

theorem stackOf_eq_of_aside_eq (r : Roster) (o : Options) (record : ThreadRecord)
    (h : s.aside = t.aside) : stackOf r o s record = stackOf r o t record := by
  have hknown : s.aside.symbolsKnown = t.aside.symbolsKnown := by rw [h]
  exact stackOf_eq_of_known_eq r o record (Session.recording_eq_of_aside_eq h) hknown

end CrashReport.Unwind
