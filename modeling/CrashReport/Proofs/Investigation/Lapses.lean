import CrashReport.Proofs.Investigation.Following
import CrashReport.Proofs.Investigation.Selection
import CrashReport.Proofs.Session.Lapses
import CrashReport.Proofs.Session.Reachable

/-!
# Investigations with reads that fail

A report can do without what is read of symbols, registers, expressions and static variables. So
if such reads fail, wherever they do, an investigation takes the same course: it ends in the same
failure, or in the report that lacks what could not be read.

* **`Report.without`** — a report without what could not be read;
* **`investigate_lapsing`** — the answer and the session that is left, with such failures.
-/

namespace CrashReport

open Session (ThreadRecord debugger lapsing)

/-- The report of a session without what could not be read, and with whatever a QML engine has
said. What was captured is counted in what is left. -/
def Report.without (report : Report) (l : Lapses) (s : Session) (qml : Option QmlStack) : Report :=
  { report with
    threadStacks := report.threadStacks.map (l.strip s)
    qml := qml
    captured := (report.crashing.map fun stack => Unwind.captured (l.strip s stack)).getD {}
    handlerMessage :=
      if (l.fails (.staticText Investigation.messageVariable) s.selected s.level).isSome then none
      else report.handlerMessage }

namespace Investigation

variable {o : Options} {r : Roster} {l : Lapses} {s t : Session} {crashed : ThreadRecord}

theorem strip_eq_of_recording_eq (l : Lapses) (h : s.recording = t.recording) :
    l.strip s = l.strip t := by
  funext stack
  unfold Lapses.strip Session.reach
  rw [Session.thread?_eq_of_recording_eq h]

theorem reads_lapsing (l : Lapses) (o : Options) (r : Roster) (s : Session) :
    Reads debugger (lapsing l) id (l.strip s) (fun t => t.recording = s.recording) o r := by
  intro thread _ isCrashed t ht
  rw [← strip_eq_of_recording_eq l ht]
  exact Unwind.unwind_lapsing l r thread (unwindOptions o isCrashed) t

theorem lands_lapsing (l : Lapses) (o : Options) (r : Roster) : Lands (lapsing l) o r := by
  intro thread isCrashed s stack t h
  rw [Unwind.unwind_lapsing] at h
  rcases hread : Unwind.unwind debugger r thread (unwindOptions o isCrashed) s with ⟨_ | read, u⟩
  · rw [hread] at h
    cases h
  · rw [hread] at h
    cases h
    exact lands_debugger o r thread isCrashed s read u hread

/-- Both debuggers list the same threads, and both select them. -/
theorem counterparts_lapsing (l : Lapses) (threads : List Thread) :
    List.Forall₂ (debugger.Counterpart (lapsing l) id) threads threads :=
  List.forall₂_same.2 fun thread _ => .same (Session.lapsing_alike_switch l thread.number)

theorem handlerMessage_lapsing (l : Lapses) (s : Session) :
    (handlerMessage (lapsing l) s).1 =
      if (l.fails (.staticText messageVariable) s.selected s.level).isSome then none
      else (handlerMessage debugger s).1 := by
  unfold handlerMessage
  cases hfails : l.fails (.staticText messageVariable) s.selected s.level with
  | none =>
      rw [Session.perform_lapsing_of_not_misses hfails]
      rfl
  | some reason =>
      rw [Session.perform_lapsing_of_misses rfl hfails]
      rfl

/-- Stacks that are changed one by one stay where they are. -/
theorem inOrder_map (g : Stack → Stack) (threads : List Thread) (traced : List (UInt32 × Stack)) :
    inOrder threads (traced.map (Prod.map id g)) =
      (inOrder threads traced).map (Prod.map id g) := by
  induction threads generalizing traced with
  | nil => rfl
  | cons thread rest ih =>
      have hfind : (traced.map (Prod.map id g)).find? (fun entry => entry.1 = thread.number) =
          (traced.find? fun entry => entry.1 = thread.number).map (Prod.map id g) :=
        List.find?_map
      have hfilter : (traced.map (Prod.map id g)).filter (fun other => other.1 ≠ thread.number) =
          (traced.filter fun other => other.1 ≠ thread.number).map (Prod.map id g) :=
        List.filter_map
      unfold inOrder
      rw [hfind]
      cases traced.find? fun entry => entry.1 = thread.number with
      | none => exact ih traced
      | some entry =>
          rw [Option.map_some]
          dsimp only
          rw [hfilter, ih]
          rfl

/-- The stack of the crashed thread in the report of what was traced. -/
theorem crashing_report {p : Progress} (path buildId : Option String) (images : ImageList)
    (message : Option String) (qml : Option QmlStack)
    (htraced : p.traced = ((visits s crashed.number).map fun record =>
      (record.number, stackFor o s crashed record)).reverse) :
    (report o path buildId crashed.thread (s.threads.map ThreadRecord.thread) images message qml
      p).crashing = (reportOf o s crashed).crashing := by
  unfold Report.crashing report reportOf
  rw [htraced, inOrder_visits]
  dsimp only
  rw [List.findIdx?_map, List.map_map]
  rfl

theorem report_without {p p' : Progress} (path buildId : Option String) (thread : Thread)
    (threads : List Thread) (images : ImageList) {message message' : Option String}
    (qml qml' : Option QmlStack)
    (hmessage : message' =
      if (l.fails (.staticText messageVariable) s.selected s.level).isSome then none else message)
    (htraced : p'.traced = p.traced.map (Prod.map id (l.strip s)))
    (hcaptured : p'.captured = ((report o path buildId thread threads images message qml
      p).crashing.map fun stack => Unwind.captured (l.strip s stack)).getD {}) :
    report o path buildId thread threads images message' qml' p' =
      (report o path buildId thread threads images message qml p).without l s qml' := by
  unfold Report.without
  rw [← hcaptured]
  unfold report
  rw [htraced, inOrder_map, hmessage]
  dsimp only
  rw [List.findIdx?_map, List.map_map, List.map_map]
  rfl

theorem aside_qmlStack_lapsing (l : Lapses) (o : Options) (threads : List Thread) (s : Session) :
    (qmlStack (lapsing l) o threads s).2.aside = s.aside := by
  unfold qmlStack
  split
  · exact QmlStack.keeps_search (Session.keeps_aside_lapsing l s) threads o.home rfl
  · rfl

/-- The threads are traced as they are without failures, and their stacks are stripped. Of the
crashed thread there is one stack at most, and it is counted as it is reported. -/
theorem traceAll_lapsing (l : Lapses) (o : Options)
    (hcrashed : s.thread? crashed.number = some crashed)
    {run run' : Except Failure Unit × Progress × Session}
    (hrun : traceAll debugger o (roster debugger o s).1 crashed.thread (debugger.threads s)
      { loader := { tier := o.tier } } (started o s) = run)
    (hrun' : traceAll (lapsing l) o (roster debugger o s).1 crashed.thread (debugger.threads s)
      { loader := { tier := o.tier } } (started o s) = run') :
    Abreast id (l.strip s) run run' ∧ (run.1 = .ok () →
      run.2.1.traced = ((visits s crashed.number).map fun record =>
        (record.number, stackFor o s crashed record)).reverse ∧
      run'.2.1.captured =
        if crashed.thread.valid then Unwind.captured (l.strip s (stackFor o s crashed crashed))
        else {}) := by
  have habreast := traceAll_abreast (Session.lapsing_follows l) (Session.keepsAll_recording s)
    (reads_lapsing l o (roster debugger o s).1 s)
    (Session.lapsing_alike_switch l crashed.thread.number)
    (counterparts_lapsing l (debugger.threads s)) (s := started o s) rfl
    (abreast_start id (l.strip s) { tier := o.tier } (started o s))
  have hcounted := counted_traceAll (lands_lapsing l o (roster debugger o s).1) crashed.thread
    (debugger.threads s) (s := started o s) (counted_start { tier := o.tier } _)
  have hvisit : Visit o (roster debugger o s).1 s crashed.number (visits s crashed.number)
      { loader := { tier := o.tier } } (started o s) (traceAll debugger o (roster debugger o s).1
        crashed.thread (debugger.threads s) { loader := { tier := o.tier } } (started o s)) :=
    traceAll_visit (roster debugger o s).1 rfl rfl rfl hcrashed
  dsimp only [id] at habreast
  rw [hrun, hrun'] at habreast
  rw [hrun'] at hcounted
  rw [hrun] at hvisit
  refine ⟨habreast, fun hok => ?_⟩
  -- the first run is known in full, and with it the stacks of the second one
  have hstacks := hvisit.traced hok
  rw [stacksOf_visits, List.append_nil] at hstacks
  refine ⟨hstacks, ?_⟩
  have htally := tally_visits (fun record => l.strip s (stackFor o s crashed record)) hcrashed
  rw [← htally]
  refine hcounted.trans ?_
  rw [habreast.traced, hstacks, List.map_reverse, List.reverse_reverse, List.map_map]
  rfl

/-- After the crashed thread is known, the investigation with failures ends like the one without. -/
theorem exists_investigateThread_lapsing (l : Lapses) (o : Options)
    (hcrashed : s.thread? crashed.number = some crashed) :
    ∃ qml, (investigateThread (lapsing l) o crashed.thread s).1 =
        (investigateThread debugger o crashed.thread s).1.map (·.without l s qml) ∧
      (investigateThread (lapsing l) o crashed.thread s).2.aside =
        (investigateThread debugger o crashed.thread s).2.aside := by
  have hopening : opening (lapsing l) o s = ((roster debugger o s).1, started o s) := by
    rw [← opening_eq]
    exact opening_follows (Session.lapsing_follows l) o s
  have hlisted : (lapsing l).threads s = debugger.threads s := rfl
  rw [investigateThread_eq_opening, investigateThread_eq_opening, hopening, opening_eq, hlisted,
    handlerMessage_lapsing]
  dsimp only
  generalize hrun : traceAll debugger o (roster debugger o s).1 crashed.thread (debugger.threads s)
    { loader := { tier := o.tier } } (started o s) = run
  generalize hrun' : traceAll (lapsing l) o (roster debugger o s).1 crashed.thread
    (debugger.threads s) { loader := { tier := o.tier } } (started o s) = run'
  obtain ⟨habreast, hok⟩ := traceAll_lapsing l o hcrashed hrun hrun'
  obtain ⟨answer, p, t⟩ := run
  obtain ⟨answer', p', t'⟩ := run'
  obtain ⟨hanswer, -, htraced, hstate⟩ := habreast
  cases hanswer
  cases hstate
  cases answer with
  | error failure => exact ⟨none, rfl, rfl⟩
  | ok answer =>
      obtain ⟨hstacks, hcaptured⟩ := hok rfl
      -- the searches may end at different engines, but all they change is the selection
      have haside := aside_qmlStack o (debugger.threads s) t
      have haside' := aside_qmlStack_lapsing l o (debugger.threads s) t
      dsimp only
      generalize qmlStack debugger o (debugger.threads s) t = search at haside ⊢
      generalize qmlStack (lapsing l) o (debugger.threads s) t = search' at haside' ⊢
      obtain ⟨qml, u⟩ := search
      obtain ⟨qml', u'⟩ := search'
      have hsame : u'.aside = u.aside := haside'.trans haside.symm
      have hpath : (lapsing l).programPath u' = debugger.programPath u :=
        (congrArg Session.programPath hsame :)
      have hbuildId : (lapsing l).programBuildId u' = debugger.programBuildId u :=
        (congrArg Session.programBuildId hsame :)
      cases missingBuildId? (roster debugger o s).1.images with
      | some failure => exact ⟨none, rfl, hsame⟩
      | none =>
          refine ⟨qml', congrArg Except.ok ?_, hsame⟩
          rw [hpath, hbuildId]
          refine report_without _ _ _ _ _ qml qml' rfl htraced ?_
          have hcrashing : (report o (debugger.programPath u) (debugger.programBuildId u)
              crashed.thread (debugger.threads s) (roster debugger o s).1.images
              (handlerMessage debugger s).1 qml p).crashing = _ :=
            crashing_report _ _ _ _ _ hstacks
          rw [hcaptured, hcrashing, crashing_reportOf hcrashed]
          split <;> rfl

theorem aside_keepingThread {α : Type} {d : Debugger Session}
    (hd : ∀ t : Session, d.Keeps fun u => u.aside = t.aside) (work : Session → α × Session)
    (s : Session) : (d.keepingThread work s).2.aside = (work s).2.aside :=
  Debugger.Keeps.keepingThread (hd (work s).2) rfl

/-- An investigation in which optional reads fail, for every session and all options, whichever
reads of symbols, registers, expressions and static variables fail on whichever threads and
frames.

It ends in the same failure, or in the same report but for what follows. The variables are missing
from the frames whose symbols could not be read, and the registers from the stacks whose newest
frame they could not be read of. What was captured is counted in what is left, the crash handler
says nothing if its message could not be read, and a QML engine may have said something else. The
same images are loaded, and the session that is left differs in nothing but the selection. -/
theorem investigate_lapsing (l : Lapses) (o : Options) (s : Session) :
    (∃ qml, (investigate (lapsing l) o s).1 =
      (investigate debugger o s).1.map (·.without l s qml)) ∧
    (investigate (lapsing l) o s).2.aside = (investigate debugger o s).2.aside := by
  have hlisted : crashedThread? (lapsing l) s = crashedThread? debugger s := rfl
  unfold investigate
  rw [Debugger.keepingThread_fst, Debugger.keepingThread_fst,
    aside_keepingThread (Session.keeps_aside_lapsing l), aside_keepingThread Session.keeps_aside,
    hlisted, crashedThread?_eq]
  cases hcurrent : s.current? with
  | none => exact ⟨⟨none, rfl⟩, rfl⟩
  | some crashed =>
      obtain ⟨qml, hanswer, haside⟩ :=
        exists_investigateThread_lapsing l o (Session.thread?_of_current?_eq_some hcurrent)
      exact ⟨⟨qml, hanswer⟩, haside⟩

end Investigation

end CrashReport
