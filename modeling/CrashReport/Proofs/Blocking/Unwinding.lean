import CrashReport.Proofs.Blocking.Records
import CrashReport.Proofs.Session.Unwinding

/-!
# What an unwound thread blocks in

The records of a stack are made of the frames that are kept of it, so the frames of the crash
handler give none. There are no more of them than frames can be visited, and so their numbers are
distinct addresses.

* **`Unwind.length_frames_of_unwind_eq_ok`** — a stack has no more frames than can be visited;
* **`Stack.heldLocks_toJson`** — the thread of an event has the records, unless there are none;
* **`Unwind.unwind_blocking`** — the records of a stack, their entries in a report, and the state of
  the thread.
-/

namespace CrashReport

theorem Stack.heldLocks_toJson (current : Bool) (stack : Stack) :
    (stack.toJson current).field? "held_locks" =
      if stack.blocking.toList = [] then none else some stack.blocking.toJson := by
  unfold Stack.toJson
  rw [Json.field?_append, Json.field?_append, Json.field?_optional,
    if_neg (show ¬ "state" = "held_locks" by decide), Json.field?_ofFields, Json.field?_ofFields]
  cases stack.blocking.toList <;> rfl

namespace Unwind

open Blocking (Kind Records State)

variable {σ : Type} {d : Debugger σ} {r : Roster} {thread : Thread} {o : Options} {s : σ}
  {stack : Stack}

theorem length_frames_le (d : Debugger σ) (r : Roster) (o : Options) (fuel : Nat) (s : σ) :
    (frames d r o fuel s).1.length ≤ fuel := by
  induction fuel generalizing s with
  | zero => simp [frames]
  | succ fuel ih =>
      unfold frames
      split
      · simp
      · split
        · simp
        · split
          · simp
          · simpa using ih _

theorem length_visit_le (d : Debugger σ) (r : Roster) (o : Options) (s : σ) :
    (visit d r o s).1.2.length ≤ frameLimit := by
  unfold visit
  split
  · simp
  · exact length_frames_le d r o frameLimit _

theorem length_frames_of_unwind_eq_ok (h : (unwind d r thread o s).1 = .ok stack) :
    stack.frames.length ≤ frameLimit := by
  unfold unwind at h
  split at h
  · cases h
  · rename_i after _
    have hvisited : (d.atNewestFrame (visit d r o) after).1.2.length ≤ frameLimit :=
      length_visit_le d r o after
    cases h
    unfold assemble
    dsimp only
    split
    · exact Nat.le_trans (clip_isSuffix _).length_le hvisited
    · exact hvisited

/-- The records and the state are made of the frames that are kept. -/
theorem blocking_of_unwind_eq_ok (h : (unwind d r thread o s).1 = .ok stack) :
    stack.blocking = Records.ofFunctions thread.id (stack.frames.filterMap Stack.Frame.function) ∧
      stack.state = Blocking.state? thread.exited stack.blocking := by
  unfold unwind at h
  split at h
  · cases h
  · cases h
    exact ⟨rfl, rfl⟩

/-- What is told of a thread that has been unwound, by whatever debugger.

There is one record for each frame of the stack whose function is known to block, in the order of
the frames, with the thread's number; their addresses are 1, 2, 3 and so on. In a report there is
one entry for each record, under its address in lowercase hexadecimal. The state is that of a thread
that has ended exactly if the thread has. Otherwise it is decided by the newest frame that blocks,
whatever the older frames are, and there is none if no frame blocks. -/
theorem unwind_blocking (h : (unwind d r thread o s).1 = .ok stack) :
    List.Forall₂ (fun frame record =>
        ∃ primitive, frame.BlocksIn primitive ∧ record.TellsOf thread.id primitive)
      (stack.frames.filter fun frame => frame.Blocks) stack.blocking.toList ∧
    stack.blocking.toList.map (fun record => record.address.toNat) =
      List.range' 1 stack.blocking.toList.length ∧
    (∃ fields entries, stack.blocking.toJson = .object fields ∧
      fields.length = stack.blocking.toList.length ∧ (fields.map Prod.fst).Nodup ∧
      fields.Perm entries ∧
      List.Forall₂ (fun record entry => record.WrittenUnder entry.1 entry.2)
        stack.blocking.toList entries) ∧
    (∀ current, (stack.toJson current).field? "held_locks" =
      if stack.blocking.toList = [] then none else some stack.blocking.toJson) ∧
    (stack.state = some .terminated ↔ thread.exited = true) ∧
    (thread.exited = false →
      (∀ newer frame older primitive, stack.frames = newer ++ frame :: older →
        (∀ other ∈ newer, ¬ other.Blocks) → frame.BlocksIn primitive →
          stack.state = match primitive.kind with
            | .sleeping => some .runnable
            | .waiting => some .waiting
            | .blocked => some .blocked
            | .locked => none) ∧
      ((∀ frame ∈ stack.frames, ¬ frame.Blocks) → stack.state = none)) := by
  obtain ⟨hblocking, hstate⟩ := blocking_of_unwind_eq_ok h
  have hlength : stack.frames.length < UInt64.size :=
    Nat.lt_of_le_of_lt (length_frames_of_unwind_eq_ok h) (by decide)
  have haddresses := Blocking.addresses_ofFunctions thread.id hlength
  dsimp only at haddresses
  rw [← hblocking] at haddresses
  -- the addresses count up, so no two records are written under one key
  have hnodup : (stack.blocking.toList.map Blocking.Record.address).Nodup := by
    refine List.Nodup.of_map UInt64.toNat ?_
    rw [List.map_map]
    exact haddresses ▸ List.nodup_range'
  obtain ⟨fields, entries, hfields, hkeys, hperm, hentries⟩ :=
    Blocking.exists_toJson_eq stack.blocking hnodup
  refine ⟨?_, haddresses, ⟨fields, entries, hfields, ?_, hkeys, hperm, hentries⟩,
    fun current => stack.heldLocks_toJson current, ?_, ?_⟩
  · rw [hblocking]
    exact Blocking.forall₂_ofFunctions thread.id stack.frames
  · rw [hperm.length_eq, hentries.length_eq]
  · rw [hstate]
    exact Blocking.state?_eq_terminated_iff thread.exited stack.blocking
  · intro hexited
    rw [hexited, hblocking, Blocking.state?_ofFunctions] at hstate
    constructor
    · -- the newest frame that blocks decides
      intro newer frame older primitive hframes hnewer hframe
      rw [hstate, hframes, List.findSome?_append,
        Stack.Frame.findSome?_primitive?_eq_none_iff.2 hnewer, Option.none_or,
        List.findSome?_cons, Stack.Frame.primitive?_eq_some_iff.2 hframe]
      show primitive.kind.state? = _
      cases primitive.kind <;> rfl
    · intro hframes
      rw [hstate, Stack.Frame.findSome?_primitive?_eq_none_iff.2 hframes]
      rfl

/-- A session whose thread has crashed while it held a lock, in a callback of a thread that waits.
The crash handler waits as well. -/
def holding : Session where
  selected := some 1
  threads := [
    { thread := { number := 1, id := 10 }
      frames := [
        { pc := 1, function := some "__GI___poll" },
        { pc := 2, function := some "KCrash::defaultCrashHandler(int)" },
        { pc := 3, kind := .signalTrampoline },
        { pc := 4, function := some "__lll_lock_wait_private" },
        { pc := 5, function := some "poll_events" },
        { pc := 6 },
        { pc := 7, function := some "pthread_cond_wait" },
        { pc := 8, function := some "main" }] }]

/-- The handler's frames give no record, and the newest of the others implies no state. -/
theorem unwind_blocking_holding : ∃ stack,
    (unwind Session.debugger {} { number := 1, id := 10 } { crashed := true }
      holding).1 = .ok stack ∧
    (stack.frames.filter fun frame => frame.Blocks).map Stack.Frame.pc = [4, 7] ∧
    stack.blocking.toList.map (fun record => record.address.toNat) = [1, 2] ∧
    (∃ fields, stack.blocking.toJson = .object fields ∧ fields.length = 2) ∧
    stack.state = none := by
  obtain ⟨stack, hstack⟩ : ∃ stack, (unwind Session.debugger {}
      { number := 1, id := 10 } { crashed := true } holding).1 = .ok stack := ⟨_, rfl⟩
  have hrun : (unwind Session.debugger {} { number := 1, id := 10 }
      { crashed := true } holding).1.toOption.map Stack.frames = some [
        { pc := 4, function := some "__lll_lock_wait_private" },
        { pc := 5, function := some "poll_events" },
        { pc := 6 },
        { pc := 7, function := some "pthread_cond_wait" },
        { pc := 8, function := some "main" }] := by
    decide +kernel
  rw [hstack] at hrun
  have hframes : stack.frames = _ := Option.some.inj hrun
  obtain ⟨hrecords, haddresses, ⟨fields, -, hfields, hcount, -⟩, -, -, hstate⟩ :=
    unwind_blocking hstack
  have hblock : (stack.frames.filter fun frame => frame.Blocks).map Stack.Frame.pc = [4, 7] := by
    rw [hframes]
    decide +kernel
  have hlength : stack.blocking.toList.length = 2 := by
    have hcounted := congrArg List.length hblock
    rwa [List.length_map, hrecords.length_eq] at hcounted
  rw [hlength] at haddresses hcount
  refine ⟨stack, hstack, hblock, haddresses, ⟨fields, hfields, hcount⟩, ?_⟩
  refine (hstate rfl).1 [] _ _ ⟨.starting "__lll_lock_wait", .locked, "lll_lock"⟩ hframes ?_ ?_
  · simp
  · exact Stack.Frame.primitive?_eq_some_iff.1 (by decide +kernel)

end Unwind

end CrashReport
