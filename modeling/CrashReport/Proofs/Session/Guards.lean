import CrashReport.Proofs.Session.Loading
import CrashReport.Proofs.Session.Reachable
import CrashReport.Proofs.Session.Unwinding
import CrashReport.QmlStack

/-!
# What guards put back

Work that moves the selection runs under a guard, and may run further work under guards of its
own. However it goes on, and wherever it ends, the outermost guard decides what is selected
afterwards.

* **`Errand`** — work on a debugger: requests, whose answers decide what is done next, and work
  under guards;
* **`Session.AtNewest`** — a thread is selected at its newest frame;
* **`Session.atNewestFrame_eq`**, **`Session.keepingThread_eq`** — the state that a guard leaves;
* **`selection_put_back`** — where the selection stands after the images of a thread have been
  loaded, after its stack has been read, after the search for a QML engine, and after any work
  under a guard.
-/

namespace CrashReport

/-- What is put back when work ends: the newest frame, or also the thread that was selected. -/
inductive Guard where
  | frame
  | thread
  deriving DecidableEq, Repr

/-- Work on a debugger that ends with an answer. It may end at any point, so early ends and
failures are errands like all others. -/
inductive Errand (α : Type) : Type 1 where
  | done (answer : α)
  | ask {β : Type} (request : Request β) (next : Except DebuggerError β → Errand α)
  | guarded (guard : Guard) (body : Errand α) (next : α → Errand α)

variable {σ α : Type} {d : Debugger σ}

namespace Debugger

def guarding (d : Debugger σ) (guard : Guard) (work : σ → α × σ) : σ → α × σ :=
  match guard with
  | .frame => d.atNewestFrame work
  | .thread => d.keepingThread work

def runErrand (d : Debugger σ) : Errand α → σ → α × σ
  | .done answer, s => (answer, s)
  | .ask request next, s =>
    let (answer, s) := d.perform request s
    d.runErrand (next answer) s
  | .guarded guard body next, s =>
    let (answer, s) := d.guarding guard (d.runErrand body) s
    d.runErrand (next answer) s

theorem KeepsAll.guarding {I : σ → Prop} (hd : d.KeepsAll I) (guard : Guard)
    {work : σ → α × σ} {s : σ} (hwork : I (work s).2) : I (d.guarding guard work s).2 := by
  cases guard with
  | frame => exact Keeps.atNewestFrame hd.keeps hwork
  | thread => exact Keeps.keepingThread hd.keeps hwork

theorem KeepsAll.runErrand {I : σ → Prop} (hd : d.KeepsAll I) (errand : Errand α) {s : σ}
    (hs : I s) : I (d.runErrand errand s).2 := by
  induction errand generalizing s with
  | done => exact hs
  | ask request next ih => exact ih _ (hd.perform request s hs)
  | guarded guard body next ihbody ihnext => exact ihnext _ (hd.guarding guard (ihbody hs))

end Debugger

namespace Session

variable {s t : Session} {number : UInt32} {record : ThreadRecord}

/-- The thread is selected at its newest frame. -/
structure AtNewest (number : UInt32) (s : Session) : Prop where
  selected : s.selected = some number
  level : s.level = 0

theorem atNewestFrame_eq {work : Session → α × Session} (h : (work s).2.Placed) :
    (debugger.atNewestFrame work s).2 = (work s).2.atLevel 0 := toNewestFrame_eq h

theorem keepingThread_eq {work : Session → α × Session} (hselected : s.selected = some number)
    (hrecord : s.thread? number = some record) (hvalid : record.thread.valid = true)
    (hwork : (work s).2.recording = s.recording) :
    (debugger.keepingThread work s).2 = (work s).2.select number := by
  have hfound : (work s).2.thread? number = some record :=
    (thread?_eq_of_recording_eq hwork number).trans hrecord
  show debugger.toThread s.selected (work s).2 = _
  rw [hselected, toThread_eq hfound hvalid]

/-- Requests that stay with the selected thread leave it selected, and the selection placed. -/
theorem keepsWithin_selected (number : UInt32) :
    debugger.KeepsWithin fun t => t.selected = some number ∧ t.Placed := by
  intro β request t hwithin ⟨hselected, hplaced⟩
  refine ⟨?_, placed_perform request hplaced⟩
  cases request with
  | switchThread => cases hwithin
  | selectNewest | selectOlder | selectFrame =>
      simp only [debugger, perform]
      split <;> exact hselected
  | evaluate | mappings | buildIdAt | load =>
      simp only [debugger, perform]
      split <;> exact hselected
  | pc | frameKind | symbols | registers | staticText => exact hselected

end Session

open Session (debugger)

variable {s : Session}

namespace Loader

/-- The selection of a thread whose images are to be loaded may be refused. -/
theorem loadThread_of_switch_refused (l : Loader) (r : Roster) {thread : Thread} {crashed : Bool}
    {reason : DebuggerError} (hloads : l.tier.loads crashed = true)
    (hswitch : debugger.perform (.switchThread thread.number) s = (.error reason, s)) :
    l.loadThread debugger r thread crashed s = (.error (.debugger reason), l, s) := by
  unfold loadThread
  rw [if_pos hloads, hswitch]

theorem atNewest_loadThread (l : Loader) (r : Roster) {thread : Thread} {crashed : Bool}
    (hloads : l.tier.loads crashed = true)
    (hswitch : debugger.perform (.switchThread thread.number) s =
      (.ok (), s.select thread.number)) :
    (l.loadThread debugger r thread crashed s).2.2.AtNewest thread.number := by
  let t := (loadFrames debugger r frameLimit 0 l (s.select thread.number)).2.2
  obtain ⟨hselected, hplaced⟩ : t.selected = some thread.number ∧ t.Placed :=
    keeps_loadFrames (Session.keepsWithin_selected thread.number) r frameLimit 0 l ⟨rfl, .inl rfl⟩
  have hrun : (l.loadThread debugger r thread crashed s).2.2 = debugger.toNewestFrame t := by
    unfold loadThread
    rw [if_pos hloads, hswitch]
    rfl
  rw [hrun, Session.toNewestFrame_eq hplaced]
  exact ⟨hselected, rfl⟩

/-- Once the thread is selected, only an image that is not the expected one makes loading fail. -/
theorem loadThread_answer (l : Loader) (r : Roster) {thread : Thread} (crashed : Bool)
    {record : Session.ThreadRecord} (hvalid : record.thread.valid = true)
    (hrecord : s.thread? thread.number = some record) :
    (∃ count, (l.loadThread debugger r thread crashed s).1 = .ok count) ∨
      ∃ file expected found, (l.loadThread debugger r thread crashed s).1 =
        .error (.unexpectedImage file expected found) := by
  have houtcome := loadThread_outcome l r crashed hvalid hrecord
  cases hanswer : (l.loadThread debugger r thread crashed s).1 with
  | ok count => exact .inl ⟨count, rfl⟩
  | error failure =>
      obtain ⟨-, image, -, -, -, expected, found, -, rfl⟩ :=
        Session.objection_eq_some_iff.1 (houtcome.objection_eq_some hanswer)
      exact .inr ⟨image.file, expected, found, rfl⟩

end Loader

/-- The thread that was selected is selected again after the search for a QML engine. -/
theorem QmlStack.atNewest_search (threads : List Thread) (home : Option String)
    {number : UInt32} {record : Session.ThreadRecord} (hselected : s.selected = some number)
    (hrecord : s.thread? number = some record) (hvalid : record.thread.valid = true) :
    (search debugger threads home s).2.AtNewest number := by
  have hkept : (askThreads debugger threads s).2.recording = s.recording :=
    keeps_askThreads (Session.keepsAll_recording s).keeps threads rfl
  unfold search
  rw [Session.keepingThread_eq hselected hrecord hvalid ?_]
  · exact ⟨rfl, rfl⟩
  · exact hkept

/-- In every reachable state of a session, the selection is put back.

Loading the images of a thread, where the tier asks for it, and reading its stack fail if the
thread cannot be selected, and nothing has happened then. Otherwise they end with the thread
selected at its newest frame, even if an image is not the expected one. Where the selected thread
can be selected at all, it is selected again at its newest frame after the search for a QML engine,
and after any work under a guard that puts the thread back. Under a guard of the frame alone, work
ends at the newest frame of the thread that it has left selected. -/
theorem selection_put_back (hs : s.Reachable) :
    (∀ (l : Loader) (r : Roster) (thread : Thread) (crashed : Bool),
      l.tier.loads crashed = true →
      (∃ reason, (debugger.perform (.switchThread thread.number) s).1 = .error reason ∧
        l.loadThread debugger r thread crashed s = (.error (.debugger reason), l, s)) ∨
      ((∃ count, (l.loadThread debugger r thread crashed s).1 = .ok count) ∨
        ∃ file expected found, (l.loadThread debugger r thread crashed s).1 =
          .error (.unexpectedImage file expected found)) ∧
        (l.loadThread debugger r thread crashed s).2.2.AtNewest thread.number) ∧
    (∀ (r : Roster) (thread : Thread) (o : Unwind.Options),
      (∃ reason, (debugger.perform (.switchThread thread.number) s).1 = .error reason ∧
        Unwind.unwind debugger r thread o s = (.error reason, s)) ∨
      (∃ stack, (Unwind.unwind debugger r thread o s).1 = .ok stack) ∧
        (Unwind.unwind debugger r thread o s).2.AtNewest thread.number) ∧
    (∀ number record, s.selected = some number → s.thread? number = some record →
      record.thread.valid = true →
      (∀ threads home, (QmlStack.search debugger threads home s).2.AtNewest number) ∧
      ∀ (α : Type) (errand : Errand α),
        (debugger.keepingThread (debugger.runErrand errand) s).2.AtNewest number) ∧
    ∀ (α : Type) (errand : Errand α),
      (debugger.atNewestFrame (debugger.runErrand errand) s).2.level = 0 ∧
        (debugger.atNewestFrame (debugger.runErrand errand) s).2.selected =
          (debugger.runErrand errand s).2.selected := by
  refine ⟨?_, ?_, ?_, ?_⟩
  · -- loading: either the thread cannot be selected, or it stays selected at its newest frame
    intro l r thread crashed hloads
    rcases Session.switchThread_cases thread.number s with
      ⟨record, hrecord, hvalid, hswitch⟩ | hswitch
    · exact .inr ⟨l.loadThread_answer r crashed hvalid hrecord,
        l.atNewest_loadThread r hloads hswitch⟩
    · exact .inl ⟨_, congrArg Prod.fst hswitch, l.loadThread_of_switch_refused r hloads hswitch⟩
  · -- unwinding, in the same way
    intro r thread o
    rcases Session.switchThread_cases thread.number s with
      ⟨record, hrecord, hvalid, -⟩ | hswitch
    · rw [Unwind.unwind_of_thread?_eq_some r o hvalid hrecord]
      exact .inr ⟨⟨_, rfl⟩, rfl, rfl⟩
    · refine .inl ⟨_, congrArg Prod.fst hswitch, ?_⟩
      unfold Unwind.unwind
      rw [hswitch]
  · -- a guard that keeps the thread: the work cannot make the thread unfit to be selected again
    intro number record hselected hrecord hvalid
    refine ⟨fun threads home => QmlStack.atNewest_search threads home hselected hrecord hvalid, ?_⟩
    intro α errand
    have hkept : (debugger.runErrand errand s).2.recording = s.recording :=
      (Session.keepsAll_recording s).runErrand errand rfl
    rw [Session.keepingThread_eq hselected hrecord hvalid hkept]
    exact ⟨rfl, rfl⟩
  · -- a guard that keeps the frame: whichever thread the work has selected, its newest frame is
    intro α errand
    have hplaced := (Session.keepsAll_reachable.runErrand errand hs).placed
    rw [Session.atNewestFrame_eq hplaced]
    exact ⟨rfl, rfl⟩

/-- A session in which the outer of two frames is selected, and another thread has no frames. -/
def outermost : Session where
  selected := some 1
  level := 1
  threads := [
    { thread := { number := 1, id := 10 }, frames := [{ pc := 16 }, { pc := 32 }] },
    { thread := { number := 2, id := 20 } }]

/-- Goes to the other thread, whose newest frame cannot be selected, and from there to the first
one and back under a guard, which ends when the frame is refused. -/
def detour : Errand Bool :=
  .ask (.switchThread 2) fun _ =>
    .guarded .thread
      (.ask (.switchThread 1) fun _ => .ask (.selectFrame 1) fun _ =>
        .guarded .frame (.ask .selectOlder fun answer => .done answer.isOk) .done)
      fun found => if found then .ask .selectOlder fun _ => .done true else .done false

theorem selection_put_back_detour : outermost.Reachable ∧
    (debugger.runErrand detour outermost).2.selected = some 2 ∧
    (debugger.keepingThread (debugger.runErrand detour) outermost).2.AtNewest 1 ∧
    (debugger.atNewestFrame (debugger.runErrand detour) outermost).2.AtNewest 2 := by
  have hs : outermost.Reachable :=
    (Session.Reachable.begin (s := outermost.select 1) rfl).perform (.selectFrame 1)
  obtain ⟨-, -, hthread, hframe⟩ := selection_put_back hs
  obtain ⟨-, hback⟩ := hthread 1 _ rfl rfl rfl
  obtain ⟨hlevel, hselected⟩ := hframe Bool detour
  exact ⟨hs, rfl, hback Bool detour, hselected, hlevel⟩

end CrashReport
