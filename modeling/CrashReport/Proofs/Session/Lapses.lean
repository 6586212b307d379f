import CrashReport.Proofs.Debugger.Following
import CrashReport.Proofs.Session.Unwinding
import CrashReport.Session.Outage

/-!
# Reads that fail

A report can do without symbols, registers, the values of expressions and texts in static
variables. If reading them fails now and then, the stacks lack what could not be read, and nothing
else.

* **`Lapses`** — which of these reads fail, by the thread and the level that are selected;
* **`Session.lapsing`** — the recorded session with these failures, which are those of outages of
  optional reads (`Session.debuggerWith_eq_lapsing`);
* **`Lapses.strip`** — a stack without what could not be read of it;
* **`Unwind.unwind_lapsing`** — the stack of a thread is the one without failures, stripped.
-/

namespace CrashReport

/-- Reads that fail, and why, by the number of the selected thread and the level of the selected
frame. -/
structure Lapses where
  fails : {α : Type} → Request α → Option UInt32 → Nat → Option DebuggerError

namespace Lapses

/-- A read of a thread and a level fails. -/
def misses {α : Type} (l : Lapses) (request : Request α) (number : UInt32) (level : Nat) : Bool :=
  (l.fails request (some number) level).isSome

/-- A frame at a level without its symbols, if these could not be read. -/
def stripFrame (l : Lapses) (number : UInt32) (level : Nat) (frame : Stack.Frame) : Stack.Frame :=
  if l.misses .symbols number level then { frame with vars := none } else frame

/-- The frames from a level on, without the symbols that could not be read. -/
def stripFrames (l : Lapses) (number : UInt32) (level : Nat) (frames : List Stack.Frame) :
    List Stack.Frame :=
  frames.mapIdx fun place => l.stripFrame number (level + place)

/-- The registers of the newest frame, unless they could not be read. -/
def stripRegisters (l : Lapses) (number : UInt32) (registers : Option (Table String)) :
    Option (Table String) :=
  if l.misses .registers number 0 then none else registers

end Lapses

/-- How many frames of a thread are visited. -/
def Session.reach (s : Session) (number : UInt32) : Nat :=
  min frameLimit (((s.thread? number).map fun record => record.frames.length).getD 0)

/-- A stack without what could not be read of it. The level of its first frame is the number of
visited frames that were clipped. -/
def Lapses.strip (l : Lapses) (s : Session) (stack : Stack) : Stack :=
  let clipped := s.reach stack.thread.number - stack.frames.length
  { stack with
    registers := l.stripRegisters stack.thread.number stack.registers
    frames := l.stripFrames stack.thread.number clipped stack.frames }

namespace Session

/-- The recorded session as a debugger, with failures of optional reads, which have no effect. -/
def lapsing (l : Lapses) : Debugger Session :=
  debugger.refusing fun request s =>
    if request.isOptional then l.fails request s.selected s.level else none

variable {l : Lapses} {s t : Session} {number : UInt32}

theorem perform_lapsing {α : Type} (l : Lapses) (request : Request α)
    (h : request.isOptional = false) (s : Session) :
    (lapsing l).perform request s = debugger.perform request s := by
  unfold lapsing Debugger.refusing
  dsimp only
  rw [h]
  rfl

theorem perform_lapsing_of_misses {α : Type} {request : Request α} {reason : DebuggerError}
    (h : request.isOptional = true) (hfails : l.fails request s.selected s.level = some reason) :
    (lapsing l).perform request s = (.error reason, s) := by
  unfold lapsing Debugger.refusing
  dsimp only
  rw [h, if_pos rfl, hfails]

theorem perform_lapsing_of_not_misses {α : Type} {request : Request α}
    (h : l.fails request s.selected s.level = none) :
    (lapsing l).perform request s = debugger.perform request s := by
  unfold lapsing Debugger.refusing
  dsimp only
  rw [h, ite_self]

/-- Optional reads leave the session as it is. -/
theorem perform_snd_of_isOptional {α : Type} {request : Request α}
    (h : request.isOptional = true) (s : Session) : (debugger.perform request s).2 = s := by
  cases request with
  | symbols | registers | staticText => rfl
  | evaluate expression =>
      show (perform (.evaluate expression) s).2 = s
      simp only [perform]
      split <;> rfl
  | _ => cases h

theorem perform_lapsing_snd {α : Type} (l : Lapses) (request : Request α) (s : Session) :
    ((lapsing l).perform request s).2 = (debugger.perform request s).2 := by
  cases h : request.isOptional with
  | false => rw [perform_lapsing l request h]
  | true =>
      cases hfails : l.fails request s.selected s.level with
      | none => rw [perform_lapsing_of_not_misses hfails]
      | some reason =>
          rw [perform_lapsing_of_misses h hfails, perform_snd_of_isOptional h]

theorem lapsing_follows (l : Lapses) : debugger.Follows (lapsing l) id where
  isLive := fun _ => rfl
  coreFile := fun _ => rfl
  programPath := fun _ => rfl
  programBuildId := fun _ => rfl
  selectedThread := fun _ => rfl
  depth := fun _ => rfl
  functionName := fun _ => rfl
  location := fun _ => rfl
  libraryAt := fun _ _ => rfl
  allowDownloads := fun _ _ => rfl
  state := perform_lapsing_snd l
  alike := fun request _ hoptional s => perform_lapsing l request hoptional s

theorem lapsing_alike_switch (l : Lapses) (number : UInt32) :
    debugger.Alike (lapsing l) id (.switchThread number) :=
  perform_lapsing l (.switchThread number) rfl

theorem keeps_aside_lapsing (l : Lapses) (s : Session) :
    (lapsing l).Keeps fun t => t.aside = s.aside := Debugger.Keeps.refusing (keeps_aside s) _

end Session

/-! ### Outages -/

/-- The outage is one of reads that a report can do without. -/
def Outage.OfOptional (outage : Outage) : Prop :=
  ∀ {α : Type} (request : Request α), outage.kindName = request.kindName →
    request.isOptional = true

/-- The failures of outages, which are told by what is selected. -/
def Lapses.ofOutages (outages : List Outage) : Lapses where
  fails := fun request selected level =>
    Outage.refusal outages request { selected := selected, level := level }

theorem Outage.refusal_eq_none_of_not_isOptional {outages : List Outage}
    (h : ∀ outage ∈ outages, outage.OfOptional) {α : Type} {request : Request α}
    (hrequest : request.isOptional = false) (s : Session) :
    refusal outages request s = none := by
  have hnone : ∀ outage ∈ outages, outage.covers request s = false := by
    intro outage hmem
    apply Bool.eq_false_iff.2
    intro hcovers
    unfold covers at hcovers
    simp only [Bool.and_eq_true, decide_eq_true_eq] at hcovers
    have hoptional := h outage hmem request hcovers.1.1
    rw [hrequest] at hoptional
    cases hoptional
  unfold refusal
  rw [List.any_eq_false.2 fun outage hmem => Bool.eq_false_iff.1 (hnone outage hmem)]
  rfl

/-- Optional reads are about what is selected, so outages see no more of a session. -/
theorem Outage.refusal_of_isOptional (outages : List Outage) {α : Type} {request : Request α}
    (hrequest : request.isOptional = true) (s : Session) :
    refusal outages request s =
      refusal outages request { selected := s.selected, level := s.level } := by
  cases request with
  | symbols | registers | evaluate | staticText => rfl
  | _ => cases hrequest

/-- Outages of optional reads are lapses. -/
theorem Session.debuggerWith_eq_lapsing {outages : List Outage}
    (h : ∀ outage ∈ outages, outage.OfOptional) :
    debuggerWith outages = lapsing (.ofOutages outages) := by
  have hrefusal : ∀ {α : Type} (request : Request α) (s : Session),
      Outage.refusal outages request s = if request.isOptional then
        (Lapses.ofOutages outages).fails request s.selected s.level else none := by
    intro α request s
    cases hrequest : request.isOptional with
    | false => exact Outage.refusal_eq_none_of_not_isOptional h hrequest s
    | true => exact Outage.refusal_of_isOptional outages hrequest s
  unfold debuggerWith lapsing Debugger.refusing
  simp only [hrefusal]

namespace Unwind

open Session (debugger lapsing ThreadRecord)

variable {l : Lapses} {s t : Session} {number : UInt32}

/-! ### The frames -/

theorem stripFrames_cons (level : Nat) (frame : Stack.Frame) (frames : List Stack.Frame) :
    l.stripFrames number level (frame :: frames) =
      l.stripFrame number level frame :: l.stripFrames number (level + 1) frames := by
  unfold Lapses.stripFrames
  simp only [List.mapIdx_cons, Nat.add_assoc, Nat.add_comm 1, Nat.add_zero]

theorem length_stripFrames (level : Nat) (frames : List Stack.Frame) :
    (l.stripFrames number level frames).length = frames.length := List.length_mapIdx

theorem drop_stripFrames (level n : Nat) (frames : List Stack.Frame) :
    (l.stripFrames number level frames).drop n =
      l.stripFrames number (level + n) (frames.drop n) := by
  induction frames generalizing level n with
  | nil => simp [Lapses.stripFrames]
  | cons frame rest ih =>
      cases n with
      | zero => rfl
      | succ n =>
          rw [stripFrames_cons, List.drop_succ_cons, List.drop_succ_cons, ih, Nat.add_right_comm,
            Nat.add_assoc]

/-- What does not depend on the symbols is told of the frames as before. -/
theorem map_stripFrames {α : Type} {f : Stack.Frame → α}
    (h : ∀ level frame, f (l.stripFrame number level frame) = f frame) (level : Nat)
    (frames : List Stack.Frame) : (l.stripFrames number level frames).map f = frames.map f := by
  induction frames generalizing level with
  | nil => rfl
  | cons frame rest ih => rw [stripFrames_cons, List.map_cons, List.map_cons, h, ih]

theorem function_stripFrame (level : Nat) (frame : Stack.Frame) :
    (l.stripFrame number level frame).function = frame.function := by
  unfold Lapses.stripFrame
  split <;> rfl

theorem handlesSignal_stripFrame (level : Nat) (frame : Stack.Frame) :
    handlesSignal (l.stripFrame number level frame) = handlesSignal frame := by
  unfold Lapses.stripFrame
  split <;> rfl

theorem filterMap_function_stripFrames (level : Nat) (frames : List Stack.Frame) :
    (l.stripFrames number level frames).filterMap Stack.Frame.function =
      frames.filterMap Stack.Frame.function := by
  have hfunctions : ∀ frames : List Stack.Frame, frames.filterMap Stack.Frame.function =
      (frames.map Stack.Frame.function).filterMap id := by
    intro frames
    rw [List.filterMap_map]
    rfl
  rw [hfunctions, hfunctions, map_stripFrames function_stripFrame]

theorem any_function_stripFrames (p : String → Bool) (level : Nat) (frames : List Stack.Frame) :
    ((l.stripFrames number level frames).any fun frame => frame.function.any p) =
      frames.any fun frame => frame.function.any p := by
  have hfunctions : ∀ frames : List Stack.Frame, (frames.any fun frame => frame.function.any p) =
      (frames.map Stack.Frame.function).any (Option.any p) := by
    intro frames
    rw [List.any_map]
    rfl
  rw [hfunctions, hfunctions, map_stripFrames function_stripFrame]

theorem clip_eq_drop (frames : List Stack.Frame) :
    clip frames = frames.drop (frames.length - (clip frames).length) :=
  List.suffix_iff_eq_drop.1 (clip_isSuffix frames)

/-- What handles a signal decides how many frames are kept. -/
theorem map_handlesSignal_clip (frames : List Stack.Frame) :
    (clip frames).map handlesSignal =
      ((frames.map handlesSignal).reverse.takeWhile (!·)).reverse := by
  rw [clip_eq, ← List.map_reverse, List.takeWhile_map, List.map_reverse]
  rfl

theorem clip_stripFrames (level : Nat) (frames : List Stack.Frame) :
    clip (l.stripFrames number level frames) =
      l.stripFrames number (level + (frames.length - (clip frames).length)) (clip frames) := by
  have hlength : (clip (l.stripFrames number level frames)).length = (clip frames).length := by
    have hmap := congrArg List.length (map_handlesSignal_clip (l.stripFrames number level frames))
    rw [map_stripFrames handlesSignal_stripFrame, ← map_handlesSignal_clip] at hmap
    simpa using hmap
  -- as many frames are kept, so these are the ones in the same places
  rw [clip_eq_drop, hlength, length_stripFrames, drop_stripFrames, ← clip_eq_drop]

/-! ### Visits -/

theorem readVars_lapsing (o : Options) (h : s.selected = some number) :
    readVars (lapsing l) o s =
      Prod.map (fun vars => if l.misses .symbols number s.level then none else vars) id
        (readVars debugger o s) := by
  unfold readVars Lapses.misses
  rw [← h]
  cases hfails : l.fails .symbols s.selected s.level with
  | none =>
      rw [Session.perform_lapsing_of_not_misses hfails]
      rfl
  | some reason =>
      rw [Session.perform_lapsing_of_misses rfl hfails]
      split <;> rfl

theorem readRegisters_lapsing (o : Options) (h : s.selected = some number) (hlevel : s.level = 0) :
    readRegisters (lapsing l) o s =
      Prod.map (l.stripRegisters number) id (readRegisters debugger o s) := by
  unfold readRegisters Lapses.stripRegisters Lapses.misses
  rw [← h, ← hlevel]
  cases hfails : l.fails .registers s.selected s.level with
  | none =>
      rw [Session.perform_lapsing_of_not_misses hfails]
      rfl
  | some reason =>
      rw [Session.perform_lapsing_of_misses rfl hfails]
      split <;> rfl

theorem readAt_lapsing (r : Roster) (o : Options) (pc : UInt64) (h : s.selected = some number) :
    readAt (lapsing l) r o pc s =
      Prod.map (l.stripFrame number s.level) id (readAt debugger r o pc s) := by
  obtain ⟨kind, hkind⟩ : ∃ kind, debugger.perform .frameKind s = (kind, s) := ⟨_, rfl⟩
  unfold readAt Lapses.stripFrame
  rw [Session.perform_lapsing l .frameKind rfl, hkind]
  dsimp only
  rw [readVars_lapsing o h]
  obtain ⟨vars, t⟩ := readVars debugger o s
  dsimp only [Prod.map]
  split <;> rfl

theorem readFrame_lapsing (r : Roster) (o : Options) (h : s.selected = some number) :
    readFrame (lapsing l) r o s =
      Prod.map (Except.map (l.stripFrame number s.level)) id (readFrame debugger r o s) := by
  obtain ⟨answer, hpc⟩ : ∃ answer, debugger.perform .pc s = (answer, s) := ⟨_, rfl⟩
  rw [readFrame_eq_readAt, readFrame_eq_readAt, Session.perform_lapsing l .pc rfl, hpc]
  cases answer with
  | error reason => rfl
  | ok pc =>
      dsimp only
      rw [readAt_lapsing r o pc h]
      rfl

/-- Reading a frame leaves the session as it is. -/
theorem exists_readFrame_eq (r : Roster) (o : Options) (s : Session) :
    ∃ answer, readFrame debugger r o s = (answer, s) := by
  obtain ⟨answer, hpc⟩ : ∃ answer, debugger.perform .pc s = (answer, s) := ⟨_, rfl⟩
  obtain ⟨kind, hkind⟩ : ∃ kind, debugger.perform .frameKind s = (kind, s) := ⟨_, rfl⟩
  obtain ⟨symbols, hsymbols⟩ : ∃ symbols, debugger.perform .symbols s = (symbols, s) := ⟨_, rfl⟩
  unfold readFrame
  rw [hpc]
  cases answer with
  | error reason => exact ⟨_, rfl⟩
  | ok pc =>
      simp only [hkind, hsymbols]
      split <;> exact ⟨_, rfl⟩

theorem exists_readRegisters_eq (o : Options) (s : Session) :
    ∃ registers, readRegisters debugger o s = (registers, s) := by
  unfold readRegisters
  split <;> exact ⟨_, rfl⟩

/-- The same frames are visited, each at a level greater by one than that of the frame before it. -/
theorem frames_lapsing (r : Roster) (o : Options) (fuel : Nat) (h : s.selected = some number) :
    frames (lapsing l) r o fuel s =
      Prod.map (l.stripFrames number s.level) id (frames debugger r o fuel s) := by
  induction fuel generalizing s with
  | zero => rfl
  | succ fuel ih =>
      obtain ⟨answer, hread⟩ := exists_readFrame_eq r o s
      unfold frames
      rw [readFrame_lapsing r o h, hread]
      cases answer with
      | error reason => rfl
      | ok frame =>
          dsimp only [Prod.map, Except.map, id]
          split
          · rfl
          · rw [Session.perform_lapsing l .selectOlder rfl]
            rcases holder : debugger.perform .selectOlder s with ⟨_ | _, older⟩
            · rfl
            · -- the level of the older frame is that of its place
              obtain ⟨hselected, hlevel⟩ := Session.selected_of_selectOlder holder
              dsimp only
              rw [ih (hselected.trans h), hlevel]
              dsimp only [Prod.map]
              rw [stripFrames_cons]
              rfl

theorem visit_lapsing (r : Roster) (o : Options) (h : s.selected = some number) :
    visit (lapsing l) r o s =
      Prod.map (Prod.map (l.stripRegisters number) (l.stripFrames number 0)) id
        (visit debugger r o s) := by
  unfold visit
  rw [Session.perform_lapsing l .selectNewest rfl]
  rcases hnewest : debugger.perform .selectNewest s with ⟨_ | _, newest⟩
  · have hnone : l.stripRegisters number none = none := ite_self none
    dsimp only [Prod.map, id]
    rw [hnone]
    rfl
  · obtain ⟨hselected, hlevel⟩ := Session.selected_of_selectNewest hnewest
    obtain ⟨registers, hread⟩ := exists_readRegisters_eq o newest
    dsimp only
    rw [readRegisters_lapsing o (hselected.trans h) hlevel, hread]
    dsimp only [Prod.map, id]
    rw [frames_lapsing r o frameLimit (hselected.trans h), hlevel]
    rfl

/-! ### The stack -/

/-- Functions decide everything about a stack but its frames and its registers. -/
theorem assemble_strip (thread : Thread) (o : Options) (registers : Option (Table String))
    (visited : List Stack.Frame) (hreach : s.reach thread.number = visited.length) :
    assemble thread o (l.stripRegisters thread.number registers)
        (l.stripFrames thread.number 0 visited) =
      l.strip s (assemble thread o registers visited) := by
  let kept := if o.crashed then clip visited else visited
  have hkept : (if o.crashed then clip (l.stripFrames thread.number 0 visited)
      else l.stripFrames thread.number 0 visited) =
        l.stripFrames thread.number (s.reach thread.number - kept.length) kept := by
    rw [hreach]
    by_cases hcrashed : o.crashed = true
    · simp only [kept, if_pos hcrashed, clip_stripFrames, Nat.zero_add]
    · -- no frame is clipped, so the first one that is kept is the newest
      simp only [kept, if_neg hcrashed, Nat.sub_self]
  have hhandler : (l.stripFrames thread.number 0 visited).any inHandler = visited.any inHandler :=
    any_function_stripFrames isHandler 0 visited
  unfold assemble
  dsimp only
  rw [hkept, hhandler, any_function_stripFrames isMainLoop, filterMap_function_stripFrames]
  rfl

/-- The stack of a thread lacks what could not be read of it, and nothing else. -/
theorem unwind_lapsing (l : Lapses) (r : Roster) (thread : Thread) (o : Options) (s : Session) :
    unwind (lapsing l) r thread o s =
      Prod.map (Except.map (l.strip s)) id (unwind debugger r thread o s) := by
  unfold unwind
  rw [Session.perform_lapsing l _ rfl]
  rcases Session.switchThread_cases thread.number s with ⟨record, hrecord, -, hswitch⟩ | hswitch
  · let s₁ := s.select thread.number
    have hstripped : (lapsing l).atNewestFrame (visit (lapsing l) r o) s₁ =
        Prod.map (Prod.map (l.stripRegisters thread.number) (l.stripFrames thread.number 0)) id
          (debugger.atNewestFrame (visit debugger r o) s₁) := by
      have hselected : s₁.selected = some thread.number := rfl
      unfold Debugger.atNewestFrame Debugger.toNewestFrame
      rw [visit_lapsing r o hselected]
      dsimp only [Prod.map]
      rw [Session.perform_lapsing l .selectNewest rfl]
      rfl
    have hvisit : debugger.atNewestFrame (visit debugger r o) s₁ = _ :=
      atNewestFrame_visit_eq r o s₁
    have hreach : s.reach thread.number =
        ((s₁.frames.take frameLimit).map (reported r o s₁)).length := by
      unfold Session.reach
      rw [List.length_map, List.length_take, Session.frames_select hrecord, hrecord]
      rfl
    -- the visit begins at the newest frame, and levels are counted from there
    rw [hswitch]
    dsimp only
    rw [hstripped, hvisit]
    dsimp only [Prod.map, Except.map]
    rw [assemble_strip _ _ _ _ hreach]
  · rw [hswitch]
    rfl

end Unwind

end CrashReport
