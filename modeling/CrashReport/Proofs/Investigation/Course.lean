import CrashReport.Proofs.Investigation.Tracing
import CrashReport.Proofs.Session.Images
import CrashReport.Proofs.Session.Search

/-!
# The course of an investigation

An investigation of a recorded session is decided by three things: whether the crashed thread
is listed, what comes of visiting the threads, and whether every image has a debug id. What it
reads besides, such as the images and the stack of a QML engine, is told by the recording.

* **`started`** — the session in which the threads are visited;
* **`exists_course`** — the answer of an investigation and the session that it leaves;
* **`exists_visit`** — the answer alone.
-/

namespace CrashReport.Investigation

open Session (ThreadRecord debugger)

variable {s t : Session}

theorem roster_of_live (o : Options) (h : s.live = true) :
    roster debugger o s =
      ({ images := .ofList ((Region.ofReport (s.mappings.getD "")).filterMap fun region =>
          Roster.imageOf? s.programPath region (s.buildIdAt? region.start))
         live := true
         canonical := o.canonical }, s) := by
  unfold roster
  rw [if_pos (show debugger.isLive s = true from h), Roster.ofProcess_eq _ h]

theorem roster_of_core (o : Options) (h : s.live = false) :
    roster debugger o s =
      (match ((o.coreFile.or s.coreFile).filter fun core => canPass (coreArgument core)).bind
          o.listing with
        | some text => .ofListing o.canonical text
        | none => { canonical := o.canonical }, s) := by
  have hcore : ¬ debugger.isLive s = true := Bool.eq_false_iff.1 h
  unfold roster coreFile
  rw [if_neg hcore, if_neg hcore]
  simp only [debugger]
  cases ((o.coreFile.or s.coreFile).filter fun core => canPass (coreArgument core)).bind
    o.listing <;> rfl

theorem roster_snd (o : Options) (s : Session) : (roster debugger o s).2 = s := by
  cases hlive : s.live with
  | true => rw [roster_of_live o hlive]
  | false => rw [roster_of_core o hlive]

/-- The images are a matter of the recording. -/
theorem roster_eq_of_recording_eq (o : Options) (h : s.recording = t.recording) :
    (roster debugger o s).1 = (roster debugger o t).1 := by
  have hlive : s.live = t.live := Session.eq_of_recording_eq (fun _ => rfl) h
  cases hs : s.live with
  | true =>
      have hmappings : s.mappings = t.mappings := Session.eq_of_recording_eq (fun _ => rfl) h
      have hprogram : s.programPath = t.programPath := Session.eq_of_recording_eq (fun _ => rfl) h
      rw [roster_of_live o hs, roster_of_live o (hlive.symm.trans hs), hmappings, hprogram,
        Session.buildIdAt?_eq_of_recording_eq h]
  | false =>
      have hcore : s.coreFile = t.coreFile := Session.eq_of_recording_eq (fun _ => rfl) h
      rw [roster_of_core o hs, roster_of_core o (hlive.symm.trans hs), hcore]

theorem handlerMessage_eq_of_recording_eq (h : s.recording = t.recording) :
    (handlerMessage debugger s).1 = (handlerMessage debugger t).1 :=
  Session.eq_of_recording_eq (f := fun u => (handlerMessage debugger u).1) (fun _ => rfl) h

theorem qmlStack_eq_of_recording_eq (o : Options) (threads : List Thread)
    (h : s.recording = t.recording) :
    (qmlStack debugger o threads s).1 = (qmlStack debugger o threads t).1 := by
  have hlive : debugger.isLive s = debugger.isLive t :=
    Session.eq_of_recording_eq (f := Session.live) (fun _ => rfl) h
  unfold qmlStack
  rw [hlive]
  split
  · exact QmlStack.search_eq_of_recording_eq threads o.home h
  · rfl

theorem aside_qmlStack (o : Options) (threads : List Thread) (s : Session) :
    (qmlStack debugger o threads s).2.aside = s.aside := by
  unfold qmlStack
  split
  · exact QmlStack.keeps_search (Session.keeps_aside s) threads o.home rfl
  · rfl

/-- The session in which the threads are visited: the network may be used if it might be used
before, and if the tier does not forbid it. -/
def started (o : Options) (s : Session) : Session :=
  { s with downloads := s.downloads && o.tier.downloads }

theorem start_eq (o : Options) (s : Session) :
    Loader.start o.tier debugger s = ({ tier := o.tier }, started o s) := by
  unfold Loader.start started
  cases o.tier.downloads with
  | true =>
      rw [Bool.and_true]
      rfl
  | false =>
      rw [Bool.and_false]
      rfl

theorem crashedThread?_eq (s : Session) :
    crashedThread? debugger s = s.current?.map ThreadRecord.thread := by
  show s.selected.bind (thread? (s.threads.map ThreadRecord.thread)) = _
  unfold Session.current?
  cases s.selected with
  | none => rfl
  | some number => exact List.find?_map

theorem investigate_of_current?_eq_none (o : Options) {s : Session} (h : s.current? = none) :
    (investigate debugger o s).1 = .error .noCrashedThread := by
  unfold investigate
  rw [Debugger.keepingThread_fst, crashedThread?_eq, h]
  rfl

/-- Without a crashed thread nothing is done but what puts the selection back. -/
theorem investigate_snd_of_current?_eq_none (o : Options) {s : Session} (h : s.current? = none) :
    (investigate debugger o s).2 = debugger.toThread s.selected s := by
  unfold investigate Debugger.keepingThread
  dsimp only
  rw [crashedThread?_eq, h]
  rfl

theorem investigate_of_current?_eq_some (o : Options) {s : Session} {record : ThreadRecord}
    (h : s.current? = some record) :
    investigate debugger o s =
      debugger.keepingThread (investigateThread debugger o record.thread) s := by
  unfold investigate Debugger.keepingThread
  dsimp only
  rw [crashedThread?_eq, h]
  rfl

/-- A failure of the visits is the answer, and otherwise the images decide. -/
theorem investigateThread_eq (o : Options) {s : Session} (crashed : Thread)
    {run : Except Failure Unit × Progress × Session}
    (hrun : traceAll debugger o (roster debugger o s).1 crashed
      (s.threads.map ThreadRecord.thread) { loader := { tier := o.tier } } (started o s) = run)
    (hrecording : run.2.2.recording = s.recording) :
    (investigateThread debugger o crashed s).1 =
        (match run.1, missingBuildId? (roster debugger o s).1.images with
        | .error failure, _ => .error failure
        | .ok _, some failure => .error failure
        | .ok _, none => .ok (report o s.programPath s.programBuildId crashed
            (s.threads.map ThreadRecord.thread) (roster debugger o s).1.images
            (handlerMessage debugger s).1
            (qmlStack debugger o (s.threads.map ThreadRecord.thread) s).1 run.2.1)) ∧
      (investigateThread debugger o crashed s).2.aside = run.2.2.aside := by
  have hmessage : handlerMessage debugger s = ((handlerMessage debugger s).1, s) := rfl
  have hroster : roster debugger o s = ((roster debugger o s).1, s) :=
    Prod.ext rfl (roster_snd o s)
  have hthreads : debugger.threads s = s.threads.map ThreadRecord.thread := rfl
  unfold investigateThread
  rw [hmessage, hthreads]
  dsimp only
  rw [hroster]
  dsimp only
  rw [start_eq]
  dsimp only
  rw [hrun]
  obtain ⟨_ | _, p, s'⟩ := run
  · exact ⟨rfl, rfl⟩
  · -- the engine is looked for in the session that the visits leave
    have hqml := qmlStack_eq_of_recording_eq o (s.threads.map ThreadRecord.thread) hrecording
    have haside := aside_qmlStack o (s.threads.map ThreadRecord.thread) s'
    have hafter := (Session.recording_eq_of_aside_eq haside).trans hrecording
    dsimp only
    generalize qmlStack debugger o (s.threads.map ThreadRecord.thread) s' = search
      at hqml haside hafter ⊢
    obtain ⟨qml, t⟩ := search
    have hpath : debugger.programPath t = s.programPath :=
      Session.eq_of_recording_eq (f := Session.programPath) (fun _ => rfl) hafter
    have hbuildId : debugger.programBuildId t = s.programBuildId :=
      Session.eq_of_recording_eq (f := Session.programBuildId) (fun _ => rfl) hafter
    dsimp only at hqml ⊢
    rw [hpath, hbuildId, hqml]
    cases missingBuildId? (roster debugger o s).1.images with
    | none => exact ⟨rfl, haside⟩
    | some failure => exact ⟨rfl, haside⟩

/-- Once the crashed thread is known the threads are visited, and what comes of that decides the
answer. The session is afterwards what the visits leave, apart from the selection. -/
theorem exists_course (o : Options) {s : Session} {record : ThreadRecord}
    (hrecord : s.current? = some record) :
    ∃ run, Visit o (roster debugger o s).1 s record.number (visits s record.number)
        { loader := { tier := o.tier } } (started o s) run ∧
      (investigate debugger o s).1 =
        (match run.1, missingBuildId? (roster debugger o s).1.images with
        | .error failure, _ => .error failure
        | .ok _, some failure => .error failure
        | .ok _, none => .ok (report o s.programPath s.programBuildId record.thread
            (s.threads.map ThreadRecord.thread) (roster debugger o s).1.images
            (handlerMessage debugger s).1
            (qmlStack debugger o (s.threads.map ThreadRecord.thread) s).1 run.2.1)) ∧
      (investigate debugger o s).2.aside = run.2.2.aside := by
  have hvisit : Visit o (roster debugger o s).1 s record.number (visits s record.number)
      { loader := { tier := o.tier } } (started o s) _ :=
    traceAll_visit (roster debugger o s).1 rfl rfl rfl (Session.thread?_of_current?_eq_some hrecord)
  obtain ⟨hanswer, haside⟩ :=
    investigateThread_eq o record.thread rfl hvisit.loading.recording
  refine ⟨_, hvisit, ?_⟩
  rw [investigate_of_current?_eq_some o hrecord]
  exact ⟨hanswer, Debugger.Keeps.keepingThread (Session.keeps_aside _) haside⟩

/-- The answer alone, where it does not count what was read besides. -/
theorem exists_visit (o : Options) {s : Session} {record : ThreadRecord}
    (hrecord : s.current? = some record) :
    ∃ t run path buildId message qml, t.recording = s.recording ∧
      Visit o (roster debugger o s).1 s record.number (visits s record.number)
        { loader := { tier := o.tier } } t run ∧
      (investigate debugger o s).1 =
        match run.1, missingBuildId? (roster debugger o s).1.images with
        | .error failure, _ => .error failure
        | .ok _, some failure => .error failure
        | .ok _, none => .ok (report o path buildId record.thread
            (s.threads.map ThreadRecord.thread) (roster debugger o s).1.images message qml
            run.2.1) := by
  obtain ⟨run, hvisit, hanswer, -⟩ := exists_course o hrecord
  exact ⟨started o s, run, _, _, _, _, rfl, hvisit, hanswer⟩

end CrashReport.Investigation
