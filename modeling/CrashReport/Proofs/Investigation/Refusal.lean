import CrashReport.Proofs.Investigation.Again
import CrashReport.Proofs.Investigation.Following
import CrashReport.Proofs.Session.Unselectable

/-!
# Threads that are refused

A debugger may refuse to select a thread, when its images are to be loaded, when its stack is to
be read, or in the search for a QML engine. That costs nothing but the stack of the thread, as if
the thread were not valid, unless it is the one that has crashed. A failure of the debugger ends an
investigation only if the crashed thread is listed as valid, and is refused.

* **`investigate_invalidate`** — a thread that is refused besides the crashed one;
* **`investigate_eq_debugger_iff`** — when an investigation ends in a refusal;
* **`investigate_refused`** — both.
-/

namespace CrashReport

open Session (ThreadRecord debugger debuggerWithout)

namespace Investigation

section Sessions

variable {o : Options} {r : Roster} {number : UInt32} {reason : Session → DebuggerError}

theorem reads_invalidate (o : Options) (r : Roster) (number : UInt32)
    (reason : Session → DebuggerError) :
    Reads (debuggerWithout number reason) debugger (Session.invalidate number) id (fun _ => True)
      o r := by
  intro thread hswitch isCrashed s _
  have hmap : (Except.map id : Except DebuggerError Stack → _) = id := Except.map_id
  rw [Unwind.unwind_follows (Session.invalidate_follows number reason)
    (Session.invalidate_alike .symbols rfl number reason)
    (Session.invalidate_alike .registers rfl number reason) r hswitch, hmap]

theorem lands_unselectable (o : Options) (r : Roster) (number : UInt32)
    (reason : Session → DebuggerError) : Lands (debuggerWithout number reason) o r := by
  intro thread isCrashed s stack t h
  by_cases hne : thread.number = number
  · -- the thread that is refused has no stack
    unfold Unwind.unwind at h
    rw [hne, Session.perform_switchThread_unselectable] at h
    cases h
  · have hread := reads_invalidate o r number reason thread
      (Session.invalidate_alike_switch reason hne) isCrashed s trivial
    rw [h] at hread
    have hselected := lands_debugger o r thread isCrashed _ _ _ hread
    exact hselected

/-- Stacks are put in order by the numbers of the threads. -/
theorem inOrder_eq_of_numbers_eq {threads others : List Thread}
    (h : threads.map Thread.number = others.map Thread.number) (traced : List (UInt32 × Stack)) :
    inOrder threads traced = inOrder others traced := by
  induction threads generalizing others traced with
  | nil =>
      obtain rfl := List.map_eq_nil_iff.1 h.symm
      rfl
  | cons thread rest ih =>
      obtain ⟨other, tail, rfl, hhead, htail⟩ := List.map_eq_cons_iff.1 h.symm
      unfold inOrder
      rw [hhead]
      split <;> simp only [ih htail.symm]

theorem counterparts_invalidate (number : UInt32) (reason : Session → DebuggerError)
    (s : Session) :
    List.Forall₂ ((debuggerWithout number reason).Counterpart debugger (Session.invalidate number))
      (debugger.threads s) (debugger.threads (s.invalidate number)) := by
  show List.Forall₂ _ (s.threads.map _) ((s.threads.map _).map _)
  rw [List.map_map, List.forall₂_map_left_iff, List.forall₂_map_right_iff, List.forall₂_same]
  exact fun record _ => Session.counterpart_invalidate number reason record

theorem numbers_invalidate (number : UInt32) (s : Session) :
    (debugger.threads (s.invalidate number)).map Thread.number =
      (debugger.threads s).map Thread.number := by
  show ((s.threads.map _).map _).map _ = (s.threads.map _).map _
  rw [List.map_map, List.map_map, List.map_map]
  exact List.map_congr_left fun record _ => record.number_invalidate number

theorem qmlStack_invalidate (o : Options) (number : UInt32) (reason : Session → DebuggerError)
    (s t : Session) :
    qmlStack debugger o (debugger.threads (s.invalidate number)) (t.invalidate number) =
      Prod.map id (Session.invalidate number)
        (qmlStack (debuggerWithout number reason) o (debugger.threads s) t) := by
  have h := Session.invalidate_follows number reason
  unfold qmlStack
  rw [h.isLive]
  split
  · exact QmlStack.search_follows h (Session.invalidate_alike .symbols rfl number reason)
      (fun _ => Session.invalidate_alike _ rfl number reason)
      (counterparts_invalidate number reason s) o.home t
  · rfl

theorem investigateThread_invalidate {thread : Thread} (hne : thread.number ≠ number)
    (o : Options) (s : Session) (reason : Session → DebuggerError) :
    investigateThread debugger o thread (s.invalidate number) =
      Prod.map id (Session.invalidate number)
        (investigateThread (debuggerWithout number reason) o thread s) := by
  have h := Session.invalidate_follows number reason
  have hd : (debuggerWithout number reason).KeepsAll fun _ => True :=
    ⟨fun _ _ h => h, fun _ _ h => h⟩
  have hmessage : (handlerMessage debugger (s.invalidate number)).1 =
      (handlerMessage (debuggerWithout number reason) s).1 := rfl
  rw [investigateThread_eq_opening, investigateThread_eq_opening, opening_follows h, hmessage]
  obtain ⟨r, t⟩ := opening (debuggerWithout number reason) o s
  -- the stacks are the same, and what was captured is decided by them
  have htrace := (traceAll_abreast h hd (reads_invalidate o r number reason)
    (Session.invalidate_alike_switch reason hne) (counterparts_invalidate number reason s) trivial
    (abreast_start _ id { tier := o.tier } t)).eq_of_counted
      (counted_traceAll (lands_unselectable o r number reason) thread _ (counted_start _ _))
      (counted_traceAll (lands_debugger o r) thread _ (counted_start _ _))
  have hlisted : (debuggerWithout number reason).threads s = debugger.threads s := rfl
  dsimp only [Prod.map, id]
  rw [hlisted, htrace]
  obtain ⟨failure | answer, p, u⟩ := traceAll (debuggerWithout number reason) o r thread
    (debugger.threads s) { loader := { tier := o.tier } } t
  · rfl
  · dsimp only [Prod.map, id]
    rw [qmlStack_invalidate o number reason s u]
    obtain ⟨qml, v⟩ := qmlStack (debuggerWithout number reason) o (debugger.threads s) u
    dsimp only [Prod.map, id]
    cases missingBuildId? r.images with
    | some failure => rfl
    | none =>
        -- the threads are listed with other flags, but under the same numbers
        unfold report
        rw [inOrder_eq_of_numbers_eq (numbers_invalidate number s)]
        rfl

theorem crashedThread?_invalidate {s : Session} (hne : s.selected ≠ some number) :
    crashedThread? debugger (s.invalidate number) = crashedThread? debugger s := by
  rw [crashedThread?_eq, crashedThread?_eq]
  unfold Session.current?
  show (s.selected.bind (s.invalidate number).thread?).map _ = _
  cases hselected : s.selected with
  | none => rfl
  | some selected =>
      rw [Option.bind_some, Option.bind_some, Session.thread?_invalidate_of_ne]
      rintro rfl
      exact hne hselected

theorem number_of_crashedThread?_eq_some {σ : Type} {d : Debugger σ} {s : σ} {thread : Thread}
    (h : crashedThread? d s = some thread) : d.selectedThread s = some thread.number := by
  obtain ⟨number, hselected, hfound⟩ := Option.bind_eq_some_iff.1 h
  have hnumber := List.find?_some hfound
  rw [hselected, of_decide_eq_true hnumber]

/-- If the debugger refuses a thread besides the crashed one, all comes as if that thread were
not valid. -/
theorem investigate_invalidate {s : Session} (hne : s.selected ≠ some number) (o : Options)
    (reason : Session → DebuggerError) :
    investigate debugger o (s.invalidate number) =
      Prod.map id (Session.invalidate number)
        (investigate (debuggerWithout number reason) o s) := by
  have hcrashed : crashedThread? (debuggerWithout number reason) s =
      crashedThread? debugger s := rfl
  unfold investigate
  apply (Session.invalidate_follows number reason).keepingThread
  rw [crashedThread?_invalidate hne, hcrashed]
  split
  · rfl
  · rename_i thread hthread
    apply investigateThread_invalidate
    rintro rfl
    exact hne (number_of_crashedThread?_eq_some hthread)

end Sessions

end Investigation

/-! ### Any debugger -/

section AnyDebugger

variable {σ : Type} {d : Debugger σ} {s : σ} {reason : DebuggerError}

namespace Loader

theorem loadImage_ne_debugger (l : Loader) (image : Image) (s : σ) (reason : DebuggerError) :
    (l.loadImage d image s).1 ≠ .error (.debugger reason) := by
  unfold loadImage
  split
  · rintro ⟨⟩
  · dsimp only
    split
    · rintro ⟨⟩
    · split <;> rintro ⟨⟩

/-- A frame that cannot be read ends the loads for a thread, and that is no failure. -/
theorem loadFrames_ne_debugger (roster : Roster) (fuel level : Nat) (l : Loader) (s : σ)
    (reason : DebuggerError) :
    (loadFrames d roster fuel level l s).1 ≠ .error (.debugger reason) := by
  induction fuel generalizing level l s with
  | zero => rintro ⟨⟩
  | succ fuel ih =>
      unfold loadFrames
      split
      · rintro ⟨⟩
      · split
        · rintro ⟨⟩
        · rename_i t _
          split
          · exact ih (level + 1) l t
          · rename_i image _
            have himage := loadImage_ne_debugger (d := d) l image t reason
            split
            · rename_i heq
              rw [heq] at himage
              rintro ⟨⟩
              exact himage rfl
            · rename_i l' t' _
              have hrest := ih (level + 1) l' t'
              generalize loadFrames d roster fuel (level + 1) l' t' = run at hrest ⊢
              obtain ⟨failure | count, l'', t''⟩ := run
              · exact hrest
              · rintro ⟨⟩

theorem loadThread_eq_debugger_iff {l : Loader} {roster : Roster} {thread : Thread}
    {crashed : Bool} :
    (l.loadThread d roster thread crashed s).1 = .error (.debugger reason) ↔
      l.tier.loads crashed = true ∧
        (d.perform (.switchThread thread.number) s).1 = .error reason := by
  unfold loadThread
  split
  · rename_i hloads
    obtain ⟨refusal | _, t⟩ := d.perform (.switchThread thread.number) s
    · simp [hloads]
    · have hframes := loadFrames_ne_debugger (d := d) roster frameLimit 0 l t reason
      exact ⟨fun h => absurd h hframes, fun h => nomatch h.2⟩
  · rename_i hloads
    simp [hloads]

end Loader

theorem Unwind.unwind_eq_error_iff {roster : Roster} {thread : Thread} {o : Unwind.Options} :
    (unwind d roster thread o s).1 = .error reason ↔
      (d.perform (.switchThread thread.number) s).1 = .error reason := by
  unfold unwind
  obtain ⟨refusal | _, t⟩ := d.perform (.switchThread thread.number) s
  · simp only [Except.error.injEq]
  · exact ⟨fun h => (nomatch h), fun h => nomatch h⟩

namespace Investigation

variable {o : Options} {r : Roster} {p : Progress} {thread : Thread}

/-- A thread is refused when its images are to be loaded, or when its stack is to be read after
they have been loaded. -/
def Refused (d : Debugger σ) (r : Roster) (l : Loader) (thread : Thread) (s : σ)
    (reason : DebuggerError) : Prop :=
  (l.tier.loads true = true ∧ (d.perform (.switchThread thread.number) s).1 = .error reason) ∨
  ∃ count l' t, l.loadThread d r thread true s = (.ok count, l', t) ∧
    (d.perform (.switchThread thread.number) t).1 = .error reason

theorem trace_eq_debugger_iff (hnone : p.traced = []) :
    (p.trace d o r thread.number thread s).1 = .error (.debugger reason) ↔
      Refused d r p.loader thread s reason := by
  have hload : (p.loader.loadThread d r thread true s).1 = .error (.debugger reason) ↔ _ :=
    Loader.loadThread_eq_debugger_iff
  unfold Progress.trace Refused
  rw [if_neg (by simp [hnone]), ← hload]
  dsimp only
  rw [decide_eq_true rfl]
  generalize p.loader.loadThread d r thread true s = run
  obtain ⟨failure | count, l, t⟩ := run
  · simp
  · have hunwind : (Unwind.unwind d r thread (unwindOptions o true) t).1 = .error reason ↔ _ :=
      Unwind.unwind_eq_error_iff
    dsimp only
    generalize Unwind.unwind d r thread (unwindOptions o true) t = unwound at hunwind ⊢
    obtain ⟨refusal | stack, u⟩ := unwound
    · simpa using hunwind
    · simpa using hunwind

/-- The refusal of a thread besides the crashed one ends nothing. -/
theorem traceOthers_ne_debugger (crashed : UInt32) (threads : List Thread) (p : Progress) (s : σ)
    (reason : DebuggerError) :
    (traceOthers d o r crashed threads p s).1 ≠ .error (.debugger reason) := by
  induction threads generalizing p s with
  | nil => rintro ⟨⟩
  | cons thread rest ih =>
      unfold traceOthers
      split
      · exact ih p s
      · obtain ⟨failure | answer, p', t⟩ := p.trace d o r crashed thread s
        · cases failure with
          | debugger => exact ih p' t
          | unexpectedImage | noBuildId | noCrashedThread => rintro ⟨⟩
        · exact ih p' t

theorem traceAll_eq_debugger_iff (hnone : p.traced = []) (threads : List Thread) :
    (traceAll d o r thread threads p s).1 = .error (.debugger reason) ↔
      thread.valid = true ∧ Refused d r p.loader thread s reason := by
  rw [← trace_eq_debugger_iff (o := o) hnone]
  unfold traceAll
  split
  · rename_i hvalid
    obtain ⟨failure | answer, p', t⟩ := p.trace d o r thread.number thread s
    · simp [hvalid]
    · have hothers := traceOthers_ne_debugger (d := d) (o := o) (r := r) thread.number threads p' t
        reason
      exact ⟨fun h => absurd h hothers, fun h => nomatch h.2⟩
  · rename_i hvalid
    have hothers := traceOthers_ne_debugger (d := d) (o := o) (r := r) thread.number threads p s
      reason
    exact ⟨fun h => absurd h hothers, fun h => absurd h.1 hvalid⟩

theorem missingBuildId?_ne_debugger (images : ImageList) (reason : DebuggerError) :
    missingBuildId? images ≠ some (.debugger reason) := by
  intro h
  obtain ⟨image, -, heq⟩ := Option.map_eq_some_iff.1 h
  cases heq

theorem investigateThread_eq_debugger_iff (d : Debugger σ) (o : Options) (thread : Thread) (s : σ)
    (reason : DebuggerError) :
    (investigateThread d o thread s).1 = .error (.debugger reason) ↔
      thread.valid = true ∧ Refused d (opening d o s).1 { tier := o.tier } thread
        (opening d o s).2 reason := by
  have htrace : (traceAll d o (opening d o s).1 thread (d.threads s)
      { loader := { tier := o.tier } } (opening d o s).2).1 = .error (.debugger reason) ↔ _ :=
    traceAll_eq_debugger_iff rfl _
  rw [investigateThread_eq_opening, ← htrace]
  obtain ⟨failure | answer, p, t⟩ := traceAll d o (opening d o s).1 thread (d.threads s)
    { loader := { tier := o.tier } } (opening d o s).2
  · simp
  · -- the debugger is asked for an engine after this, but nothing comes of its refusals
    dsimp only
    have himages := missingBuildId?_ne_debugger (opening d o s).1.images reason
    cases hmissing : missingBuildId? (opening d o s).1.images with
    | none => simp
    | some failure =>
        rw [hmissing] at himages
        simpa using himages

/-- An investigation ends in a refusal if the crashed thread is listed as valid, and is refused. -/
theorem investigate_eq_debugger_iff (d : Debugger σ) (o : Options) (s : σ)
    (reason : DebuggerError) :
    (investigate d o s).1 = .error (.debugger reason) ↔
      ∃ crashed, crashedThread? d s = some crashed ∧ crashed.valid = true ∧
        Refused d (opening d o s).1 { tier := o.tier } crashed (opening d o s).2 reason := by
  unfold investigate
  rw [Debugger.keepingThread_fst]
  cases hcrashed : crashedThread? d s with
  | none => simp
  | some crashed =>
      dsimp only
      rw [investigateThread_eq_debugger_iff]
      simp

end Investigation

end AnyDebugger

namespace Investigation

/-- What becomes of an investigation if threads are refused.

A refusal of threads besides the crashed one, for whatever reason and in whichever place, has the
same result as if they were not valid: the same answer, the same loads and the same selection,
and the sessions are then the same but for these threads being valid or not.

On any debugger, whatever it refuses, an investigation ends in a refusal only if the selected
thread is listed, the first entry of its number is valid, and the debugger has refused to select
this thread for that reason. -/
theorem investigate_refused :
    (∀ (o : Options) (s : Session) (number : UInt32) (reason : Session → DebuggerError),
      s.selected ≠ some number →
      (investigate (debuggerWithout number reason) o s).1 =
        (investigate debugger o (s.invalidate number)).1 ∧
      (investigate (debuggerWithout number reason) o s).2.loads =
        (investigate debugger o (s.invalidate number)).2.loads ∧
      (investigate (debuggerWithout number reason) o s).2.selected =
        (investigate debugger o (s.invalidate number)).2.selected ∧
      (investigate (debuggerWithout number reason) o s).2.level =
        (investigate debugger o (s.invalidate number)).2.level ∧
      (investigate (debuggerWithout number reason) o s).2.invalidate number =
        (investigate debugger o (s.invalidate number)).2) ∧
    ∀ {σ : Type} (d : Debugger σ) (o : Options) (s : σ) (reason : DebuggerError),
      (investigate d o s).1 = .error (.debugger reason) ↔
        ∃ crashed, crashedThread? d s = some crashed ∧ crashed.valid = true ∧
          Refused d (opening d o s).1 { tier := o.tier } crashed (opening d o s).2 reason := by
  refine ⟨fun o s number reason hne => ?_, investigate_eq_debugger_iff⟩
  rw [investigate_invalidate hne o reason]
  exact ⟨rfl, rfl, rfl, rfl, rfl⟩

/-- A thread that is refused has no stack in the report, unless it is the crashed one, of which the
refusal is the answer. -/
theorem investigate_refused_twins :
    twins.selected ≠ some 3 ∧
    (∃ report, (investigate (debuggerWithout 3 fun _ => .noFrame) {} twins).1 = .ok report ∧
      report.threadStacks.map (fun stack => stack.thread.id) = [10]) ∧
    (investigate (debuggerWithout 1 fun _ => .noFrame) {} twins).1 =
      .error (.debugger .noFrame) := by
  obtain ⟨hother, hcrashed⟩ := investigate_refused
  have hselected : twins.selected ≠ some 3 := by decide
  obtain ⟨hanswer, -⟩ := hother {} twins 3 (fun _ => .noFrame) hselected
  refine ⟨hselected, ?_, ?_⟩
  · rw [hanswer]
    exact ⟨_, rfl, rfl⟩
  · rw [hcrashed]
    -- nothing is loaded in this tier, so the thread is first asked for when it is unwound
    exact ⟨_, rfl, rfl, .inr ⟨0, _, _, rfl, rfl⟩⟩

end Investigation

end CrashReport
