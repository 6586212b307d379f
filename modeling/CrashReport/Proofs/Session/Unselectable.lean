import CrashReport.Proofs.Debugger.Following
import CrashReport.Proofs.Session.Requests
import CrashReport.Session.Outage

/-!
# A thread that cannot be selected

A thread cannot be selected if it is not valid, or if the debugger refuses to select it for a
reason of its own. On a recorded session the two come to the same.

* **`Session.invalidate`** — the session in which the threads of a number are not valid;
* **`Session.debuggerWithout`** — the session as a debugger that refuses the threads of a number,
  as it does under an outage (`Session.debuggerWith_ofThread`);
* **`Session.invalidate_follows`** — a debugger that refuses nothing, in the session in which the
  thread is not valid, follows one that refuses the thread.
-/

namespace CrashReport

namespace Session

variable {s : Session} {number other : UInt32} {reason : Session → DebuggerError}

def ThreadRecord.invalidate (number : UInt32) (record : ThreadRecord) : ThreadRecord :=
  if record.thread.number = number then { record with thread.valid := false } else record

/-- The session in which the threads of a number are not valid. -/
def invalidate (number : UInt32) (s : Session) : Session :=
  { s with threads := s.threads.map (ThreadRecord.invalidate number) }

/-- Threads of a number are refused for a reason that may depend on the session. -/
def unselectable (number : UInt32) (reason : Session → DebuggerError) {α : Type}
    (request : Request α) (s : Session) : Option DebuggerError :=
  match request with
  | .switchThread other => if other = number then some (reason s) else none
  | _ => none

/-- The recorded session, but with the threads of a number refused. -/
def debuggerWithout (number : UInt32) (reason : Session → DebuggerError) : Debugger Session :=
  debugger.refusing (unselectable number reason)

theorem ThreadRecord.number_invalidate (record : ThreadRecord) (number : UInt32) :
    (record.invalidate number).thread.number = record.thread.number := by
  unfold ThreadRecord.invalidate
  split <;> rfl

theorem ThreadRecord.frames_invalidate (number : UInt32) (record : ThreadRecord) :
    (record.invalidate number).frames = record.frames := by
  unfold ThreadRecord.invalidate
  split <;> rfl

theorem thread?_invalidate (s : Session) (number other : UInt32) :
    (s.invalidate number).thread? other =
      (s.thread? other).map (ThreadRecord.invalidate number) := by
  unfold thread? invalidate
  rw [List.find?_map]
  congr 2
  funext record
  rw [Function.comp_apply, ThreadRecord.number_invalidate]

/-- Threads of other numbers are found as they are. -/
theorem thread?_invalidate_of_ne (s : Session) (hne : other ≠ number) :
    (s.invalidate number).thread? other = s.thread? other := by
  rw [thread?_invalidate]
  cases h : s.thread? other with
  | none => rfl
  | some record =>
      have hfound := List.find?_some h
      have hrecord : record.thread.number = other := of_decide_eq_true hfound
      exact congrArg some (if_neg (hrecord ▸ hne))

theorem frames_invalidate (number : UInt32) (s : Session) :
    (s.invalidate number).frames = s.frames := by
  unfold frames current?
  show ((s.selected.bind (s.invalidate number).thread?).map _).getD [] = _
  cases s.selected with
  | none => rfl
  | some selected =>
      rw [Option.bind_some, Option.bind_some, thread?_invalidate, Option.map_map]
      congr 2
      funext record
      exact ThreadRecord.frames_invalidate number record

theorem frame?_invalidate (number : UInt32) (s : Session) :
    (s.invalidate number).frame? = s.frame? := by
  unfold frame?
  rw [frames_invalidate]
  rfl

theorem read_invalidate {α : Type} (number : UInt32) (s : Session)
    (what : Frame → Except DebuggerError α) : (s.invalidate number).read what = s.read what := by
  unfold read
  rw [frame?_invalidate]

/-- Whatever is asked, but for the selection of the thread itself, the answer is the same. -/
theorem perform_invalidate {α : Type} (request : Request α) (hne : request.isSwitch = false)
    (number : UInt32) (s : Session) :
    perform request (s.invalidate number) =
      Prod.map id (invalidate number) (perform request s) := by
  cases request with
  | switchThread => cases hne
  | selectNewest | selectOlder | selectFrame | mappings =>
      simp only [perform, frames_invalidate]
      rw [apply_ite (Prod.map id (invalidate number))]
      rfl
  | pc | frameKind | symbols | registers => exact Prod.ext (read_invalidate number s _) rfl
  | staticText => rfl
  | evaluate | buildIdAt | load =>
      simp only [perform, invalidate]
      split <;> rfl

theorem invalidate_alike {α : Type} (request : Request α) (hne : request.isSwitch = false)
    (number : UInt32) (reason : Session → DebuggerError) :
    (debuggerWithout number reason).Alike debugger (invalidate number) request := by
  intro s
  have hperform : (debuggerWithout number reason).perform request s =
      perform request s := by
    cases request with
    | switchThread => cases hne
    | _ => rfl
  rw [hperform]
  exact perform_invalidate request hne number s

theorem invalidate_alike_switch (reason : Session → DebuggerError) (hne : other ≠ number) :
    (debuggerWithout number reason).Alike debugger (invalidate number)
      (.switchThread other) := by
  intro s
  have hperform : (debuggerWithout number reason).perform
      (.switchThread other) s = perform (.switchThread other) s := by
    unfold debuggerWithout Debugger.refusing unselectable
    dsimp only
    rw [if_neg hne]
    rfl
  rw [hperform]
  show perform (.switchThread other) (s.invalidate number) = _
  simp only [perform, thread?_invalidate_of_ne s hne]
  split
  · rw [apply_ite (Prod.map id (invalidate number))]
    rfl
  · rfl

/-- The selection of the thread is refused in both cases, and nothing comes of it. -/
theorem perform_switchThread_unselectable (number : UInt32) (reason : Session → DebuggerError)
    (s : Session) :
    (debuggerWithout number reason).perform (.switchThread number) s =
      (.error (reason s), s) := by
  unfold debuggerWithout Debugger.refusing unselectable
  dsimp only
  rw [if_pos rfl]

theorem perform_switchThread_invalidate (number : UInt32) (s : Session) :
    perform (.switchThread number) (s.invalidate number) =
      (.error (.invalidThread number), s.invalidate number) := by
  apply perform_switchThread_of_refused
  intro record hrecord
  rw [thread?_invalidate] at hrecord
  obtain ⟨found, hfound, rfl⟩ := Option.map_eq_some_iff.1 hrecord
  have hnumber := List.find?_some hfound
  unfold ThreadRecord.invalidate
  rw [if_pos (of_decide_eq_true hnumber)]

theorem invalidate_follows (number : UInt32) (reason : Session → DebuggerError) :
    (debuggerWithout number reason).Follows debugger (invalidate number) where
  isLive := fun _ => rfl
  coreFile := fun _ => rfl
  programPath := fun _ => rfl
  programBuildId := fun _ => rfl
  selectedThread := fun _ => rfl
  depth := fun s => congrArg List.length (frames_invalidate number s)
  functionName := fun s => congrArg (Option.bind · s.functionOf) (frame?_invalidate number s)
  location := fun s => congrArg (Option.bind · Frame.location) (frame?_invalidate number s)
  libraryAt := fun _ _ => rfl
  allowDownloads := fun _ _ => rfl
  alike := fun request hswitch _ => invalidate_alike request hswitch number reason
  state := by
    intro α request s
    cases hswitch : request.isSwitch with
    | false =>
        rw [invalidate_alike request hswitch number reason]
        rfl
    | true =>
        cases request with
        | switchThread other =>
            by_cases hne : other = number
            · -- the answers may differ in the reason, but neither selects the thread
              subst hne
              rw [perform_switchThread_unselectable]
              exact congrArg Prod.snd (perform_switchThread_invalidate other s)
            · rw [invalidate_alike_switch reason hne]
              rfl
        | _ => cases hswitch

/-- Each thread is listed again, the one that is refused as one that is not valid. -/
theorem counterpart_invalidate (number : UInt32) (reason : Session → DebuggerError)
    (record : ThreadRecord) :
    (debuggerWithout number reason).Counterpart debugger (invalidate number)
      record.thread (record.invalidate number).thread := by
  by_cases hne : record.thread.number = number
  · refine .refused (record.number_invalidate number) ?_ fun s => ⟨reason s, ?_⟩
    · unfold ThreadRecord.invalidate
      rw [if_pos hne]
    · rw [hne, perform_switchThread_unselectable]
  · have hsame : record.invalidate number = record := if_neg hne
    rw [hsame]
    exact .same (invalidate_alike_switch reason hne)

end Session

/-! ### Outages -/

/-- The outage in which the threads of a number are refused. -/
def Outage.ofThread (number : UInt32) : Outage :=
  { kindName := "switch_thread", thread := some number.toNat }

theorem Outage.covers_ofThread_switchThread (number other : UInt32) (s : Session) :
    (ofThread number).covers (.switchThread other) s = true ↔ other = number := by
  rw [← UInt32.toNat_inj]
  simp [ofThread, covers, Request.kindName, Request.subject, eq_comm]

/-- What an outage of a thread refuses is the selection of this thread. -/
theorem Outage.refusal_ofThread (number : UInt32) {α : Type} (request : Request α) (s : Session) :
    refusal [ofThread number] request s =
      Session.unselectable number (fun _ => .command "switch_thread failed") request s := by
  unfold refusal Session.unselectable
  rw [List.any_cons, List.any_nil, Bool.or_false]
  cases request with
  | switchThread other =>
      simp only [covers_ofThread_switchThread]
      rfl
  | _ => rfl

/-- A session under this outage is one without the thread. -/
theorem Session.debuggerWith_ofThread (number : UInt32) :
    debuggerWith [.ofThread number] =
      debuggerWithout number fun _ => .command "switch_thread failed" := by
  unfold debuggerWith debuggerWithout Debugger.refusing
  simp only [Outage.refusal_ofThread]

end CrashReport
