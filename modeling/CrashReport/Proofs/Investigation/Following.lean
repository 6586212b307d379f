import CrashReport.Proofs.Debugger.Following
import CrashReport.Proofs.Investigation.Keeping
import CrashReport.Proofs.Investigation.Tracing

/-!
# Investigations side by side

One debugger follows another, and both investigate. Then the threads are traced side by side: the
same loads are made, and the same threads are traced, with stacks that may differ in what can
be told of the difference between the debuggers.

* **`Abreast`** — two tracings have come to the same;
* **`trace_abreast`**, **`traceOthers_abreast`**, **`traceAll_abreast`** — they stay side by side;
* **`opening_follows`** — they begin side by side;
* **`counted_traceAll`** — what was captured is counted for the crashed thread, if unwinding
  leaves a thread selected.
-/

namespace CrashReport.Investigation

variable {σ τ : Type} {d : Debugger σ} {e : Debugger τ} {f : σ → τ} {g : Stack → Stack}
  {I : σ → Prop} {o : Options} {r : Roster} {crashed : UInt32} {p : Progress} {p' : Progress}
  {s : σ} {s' : τ}

theorem roster_follows (h : d.Follows e f) (o : Options) (s : σ) :
    roster e o (f s) = Prod.map id f (roster d o s) := by
  unfold roster coreFile
  rw [h.isLive, h.coreFile]
  split
  · exact Roster.ofProcess_follows h _ s
  · split <;> rfl

theorem opening_follows (h : d.Follows e f) (o : Options) (s : σ) :
    opening e o (f s) = Prod.map id f (opening d o s) := by
  have hmessage : (handlerMessage e (f s)).2 = f (handlerMessage d s).2 :=
    h.state (.staticText messageVariable) s
  unfold opening
  rw [hmessage, roster_follows h]
  dsimp only [Prod.map]
  rw [Loader.start_follows h]
  rfl

/-- The answers, the loads and the numbers of the traced threads are the same in two runs, and
the stacks of the second one are those of the first, changed by `g`. -/
structure Abreast (f : σ → τ) (g : Stack → Stack) (run : Except Failure Unit × Progress × σ)
    (run' : Except Failure Unit × Progress × τ) : Prop where
  answer : run'.1 = run.1
  loader : run'.2.1.loader = run.2.1.loader
  traced : run'.2.1.traced = run.2.1.traced.map (Prod.map id g)
  state : run'.2.2 = f run.2.2

theorem abreast_start (f : σ → τ) (g : Stack → Stack) (l : Loader) (s : σ) :
    Abreast f g (.ok (), { loader := l }, s) (.ok (), { loader := l }, f s) := ⟨rfl, rfl, rfl, rfl⟩

/-- The second debugger reads the stacks of the first one, changed by `g`, where the first one is
in a state with a property. -/
def Reads (d : Debugger σ) (e : Debugger τ) (f : σ → τ) (g : Stack → Stack) (I : σ → Prop)
    (o : Options) (r : Roster) : Prop :=
  ∀ thread, d.Alike e f (.switchThread thread.number) → ∀ isCrashed s, I s →
    Unwind.unwind e r thread (unwindOptions o isCrashed) (f s) =
      Prod.map (Except.map g) f (Unwind.unwind d r thread (unwindOptions o isCrashed) s)

theorem trace_abreast (h : d.Follows e f) (hd : d.KeepsAll I) (hreads : Reads d e f g I o r)
    {thread : Thread} (hswitch : d.Alike e f (.switchThread thread.number)) (hs : I s)
    (hp : Abreast f g (.ok (), p, s) (.ok (), p', s')) :
    Abreast f g (p.trace d o r crashed thread s) (p'.trace e o r crashed thread s') := by
  obtain ⟨-, hloader, htraced, hstate⟩ := hp
  dsimp only at hloader htraced hstate
  subst hstate
  have hany : (p'.traced.any fun entry => entry.1 = thread.number) =
      p.traced.any fun entry => entry.1 = thread.number := by
    rw [htraced, List.any_map]
    rfl
  unfold Progress.trace
  rw [hany, hloader]
  split
  · exact ⟨rfl, hloader, htraced, rfl⟩
  · -- first the images are loaded, then the stack is read in what the loads have left
    have hkept := Loader.keeps_loadThread hd p.loader r thread (thread.number = crashed) hs
    dsimp only
    rw [Loader.loadThread_follows h p.loader r hswitch]
    generalize p.loader.loadThread d r thread _ s = load at hkept ⊢
    obtain ⟨failure | count, l, t⟩ := load
    · exact ⟨rfl, rfl, htraced, rfl⟩
    · dsimp only [Prod.map, id]
      rw [hreads thread hswitch _ t hkept]
      obtain ⟨reason | stack, u⟩ :=
        Unwind.unwind d r thread (unwindOptions o (thread.number = crashed)) t
      · exact ⟨rfl, rfl, htraced, rfl⟩
      · refine ⟨rfl, rfl, ?_, rfl⟩
        show (thread.number, g stack) :: p'.traced = _
        rw [htraced]
        rfl

/-- A thread that is refused is not traced, and nothing comes of it. -/
theorem trace_of_switch_refused {thread : Thread} {reason : DebuggerError}
    (hrefused : d.perform (.switchThread thread.number) s = (.error reason, s)) :
    p.trace d o r crashed thread s = (.ok (), p, s) ∨
      p.trace d o r crashed thread s = (.error (.debugger reason), p, s) := by
  unfold Progress.trace
  split
  · exact .inl rfl
  · right
    dsimp only
    unfold Loader.loadThread
    cases p.loader.tier.loads (thread.number = crashed) with
    | true =>
        rw [if_pos rfl, hrefused]
    | false =>
        rw [if_neg Bool.false_ne_true]
        dsimp only
        unfold Unwind.unwind
        rw [hrefused]

theorem traceOthers_abreast (h : d.Follows e f) (hd : d.KeepsAll I)
    (hreads : Reads d e f g I o r) {threads others : List Thread}
    (hthreads : List.Forall₂ (d.Counterpart e f) threads others) (hs : I s)
    (hp : Abreast f g (.ok (), p, s) (.ok (), p', s')) :
    Abreast f g (traceOthers d o r crashed threads p s)
      (traceOthers e o r crashed others p' s') := by
  induction hthreads generalizing p s p' s' with
  | nil => exact hp
  | @cons thread other _ _ hthread _ ih =>
      unfold traceOthers
      cases hthread with
      | refused hnumber hvalid hrefused =>
          -- the second debugger passes over the thread, and the first one is refused it
          rw [if_pos (show (other.number = crashed || !other.valid) = true by simp [hvalid])]
          split
          · exact ih hs hp
          · obtain ⟨reason, hswitch⟩ := hrefused s
            have htrace : p.trace d o r crashed thread s = _ ∨ p.trace d o r crashed thread s = _ :=
              trace_of_switch_refused hswitch
            rcases htrace with heq | heq
            · rw [heq]
              exact ih hs hp
            · rw [heq]
              exact ih hs hp
      | same hswitch =>
          split
          · exact ih hs hp
          · have htrace : Abreast f g (p.trace d o r crashed thread s)
                (p'.trace e o r crashed thread s') := trace_abreast h hd hreads hswitch hs hp
            have hkept : I (p.trace d o r crashed thread s).2.2 := keeps_trace hd p thread hs
            generalize p.trace d o r crashed thread s = run at htrace hkept ⊢
            generalize p'.trace e o r crashed thread s' = run' at htrace ⊢
            obtain ⟨answer, q, t⟩ := run
            obtain ⟨answer', q', t'⟩ := run'
            obtain ⟨hanswer, hloader, htraced, hstate⟩ := htrace
            cases hanswer
            cases answer with
            | ok => exact ih hkept ⟨rfl, hloader, htraced, hstate⟩
            | error failure =>
                -- both go on after a refusal, and both end at an unexpected image
                cases failure with
                | debugger => exact ih hkept ⟨rfl, hloader, htraced, hstate⟩
                | unexpectedImage | noBuildId | noCrashedThread =>
                    exact ⟨rfl, hloader, htraced, hstate⟩

theorem traceAll_abreast (h : d.Follows e f) (hd : d.KeepsAll I) (hreads : Reads d e f g I o r)
    {thread : Thread} (hswitch : d.Alike e f (.switchThread thread.number))
    {threads others : List Thread} (hthreads : List.Forall₂ (d.Counterpart e f) threads others)
    (hs : I s) (hp : Abreast f g (.ok (), p, s) (.ok (), p', s')) :
    Abreast f g (traceAll d o r thread threads p s) (traceAll e o r thread others p' s') := by
  unfold traceAll
  split
  · have htrace : Abreast f g (p.trace d o r thread.number thread s)
        (p'.trace e o r thread.number thread s') := trace_abreast h hd hreads hswitch hs hp
    have hkept : I (p.trace d o r thread.number thread s).2.2 := keeps_trace hd p thread hs
    generalize p.trace d o r thread.number thread s = run at htrace hkept ⊢
    generalize p'.trace e o r thread.number thread s' = run' at htrace ⊢
    obtain ⟨answer, q, t⟩ := run
    obtain ⟨answer', q', t'⟩ := run'
    obtain ⟨hanswer, hloader, htraced, hstate⟩ := htrace
    cases hanswer
    cases answer with
    | ok => exact traceOthers_abreast h hd hreads hthreads hkept ⟨rfl, hloader, htraced, hstate⟩
    | error => exact ⟨rfl, hloader, htraced, hstate⟩
  · exact traceOthers_abreast h hd hreads hthreads hs hp

/-! ### What was captured -/

/-- The thread whose stack has been read is selected. -/
def Lands (d : Debugger σ) (o : Options) (r : Roster) : Prop :=
  ∀ thread isCrashed s stack t,
    Unwind.unwind d r thread (unwindOptions o isCrashed) s = (.ok stack, t) →
      d.selectedThread t = some thread.number

/-- What was captured is what there is in the stacks of the crashed thread. -/
def Progress.Counted (p : Progress) (crashed : UInt32) : Prop :=
  p.captured = tally crashed {} p.traced.reverse

/-- Where the stacks are the same, so is what was captured of them. -/
theorem Abreast.eq_of_counted {run : Except Failure Unit × Progress × σ}
    {run' : Except Failure Unit × Progress × τ} (h : Abreast f id run run')
    (hrun : run.2.1.Counted crashed) (hrun' : run'.2.1.Counted crashed) :
    run' = Prod.map id (Prod.map id f) run := by
  obtain ⟨answer, ⟨loader, traced, captured⟩, t⟩ := run
  obtain ⟨answer', ⟨loader', traced', captured'⟩, t'⟩ := run'
  obtain ⟨hanswer, hloader, htraced, hstate⟩ := h
  dsimp only at hanswer hloader htraced hstate
  rw [Prod.map_id, List.map_id] at htraced
  unfold Progress.Counted at hrun hrun'
  dsimp only at hrun hrun'
  rw [hanswer, hloader, hstate, htraced, hrun', htraced, ← hrun]
  rfl

theorem counted_start (l : Loader) (crashed : UInt32) :
    ({ loader := l } : Progress).Counted crashed := rfl

theorem counted_trace (hlands : Lands d o r) (thread : Thread) (hp : p.Counted crashed) :
    (p.trace d o r crashed thread s).2.1.Counted crashed := by
  unfold Progress.trace
  split
  · exact hp
  · dsimp only
    split
    · exact hp
    · split
      · exact hp
      · rename_i stack t hunwind
        unfold Progress.Counted
        dsimp only
        rw [hlands thread _ _ stack t hunwind, List.reverse_cons, tally_append, ← hp]
        unfold tally
        rw [List.filter_singleton]
        -- a stack is counted by the selected thread, which is the one it belongs to
        by_cases hcrashed : thread.number = crashed
        · rw [if_pos (congrArg some hcrashed), decide_eq_true hcrashed]
          rfl
        · rw [if_neg (mt Option.some.inj hcrashed), decide_eq_false hcrashed]
          rfl

theorem counted_traceOthers (hlands : Lands d o r) (threads : List Thread)
    (hp : p.Counted crashed) : (traceOthers d o r crashed threads p s).2.1.Counted crashed := by
  induction threads generalizing p s with
  | nil => exact hp
  | cons thread rest ih =>
      unfold traceOthers
      split
      · exact ih hp
      · have htrace : (p.trace d o r crashed thread s).2.1.Counted crashed :=
          counted_trace hlands thread hp
        split
        · rename_i heq
          rw [heq] at htrace
          exact ih htrace
        · rename_i heq
          rw [heq] at htrace
          exact ih htrace
        · rename_i heq
          rwa [heq] at htrace

theorem counted_traceAll (hlands : Lands d o r) (thread : Thread) (threads : List Thread)
    (hp : p.Counted thread.number) :
    (traceAll d o r thread threads p s).2.1.Counted thread.number := by
  unfold traceAll
  split
  · have htrace : (p.trace d o r thread.number thread s).2.1.Counted thread.number :=
      counted_trace hlands thread hp
    split
    · rename_i heq
      rw [heq] at htrace
      exact counted_traceOthers hlands threads htrace
    · rename_i heq
      rwa [heq] at htrace
  · exact counted_traceOthers hlands threads hp

open Session (debugger) in
theorem lands_debugger (o : Options) (r : Roster) : Lands debugger o r := by
  intro thread isCrashed s stack t h
  unfold Unwind.unwind at h
  rcases Session.switchThread_cases thread.number s with ⟨record, -, -, hswitch⟩ | hswitch
  · have hvisit : debugger.atNewestFrame _ (s.select thread.number) = _ :=
      Unwind.atNewestFrame_visit_eq r (unwindOptions o isCrashed) (s.select thread.number)
    rw [hswitch] at h
    dsimp only at h
    rw [hvisit] at h
    cases h
    rfl
  · rw [hswitch] at h
    cases h

end CrashReport.Investigation
