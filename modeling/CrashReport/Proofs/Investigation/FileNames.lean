import CrashReport.Proofs.Investigation.Reported
import CrashReport.Proofs.Path
import CrashReport.Proofs.Session.Search

/-!
# The file names of a report

The home directory is hidden in the file names of a report, those of the native frames and those
of the QML engine's. Nothing else of a report depends on it, so a report is one in which it is
not hidden, with each name rewritten. Which names still have it is then a matter of their text.

* **`Report.hideHome`** — the home directory hidden in all file names of a report;
* **`Investigation.investigate_eq_hideHome`** — an investigation that hides it does only that;
* **`Investigation.investigate_reveals_iff`** — the reports in which some file name still has it.
-/

namespace CrashReport

variable {home : Option String}

namespace Stack

def Frame.hideHome (home : Option String) (frame : Frame) : Frame :=
  { frame with file := frame.file.map (Path.hideHome home) }

def hideHome (home : Option String) (stack : Stack) : Stack :=
  { stack with frames := stack.frames.map (Frame.hideHome home) }

def fileNames (stack : Stack) : List String := stack.frames.filterMap Frame.file

theorem fileNames_hideHome (stack : Stack) :
    (stack.hideHome home).fileNames = stack.fileNames.map (Path.hideHome home) := by
  unfold fileNames hideHome
  rw [List.filterMap_map, List.map_filterMap]
  rfl

end Stack

namespace QmlStack

def Frame.hideHome (home : Option String) (frame : Frame) : Frame :=
  { frame with file := frame.file.map (Path.hideHome home) }

def hideHome (home : Option String) (stack : QmlStack) : QmlStack :=
  { stack with frames := stack.frames.map (Frame.hideHome home) }

def fileNames (stack : QmlStack) : List String := stack.frames.filterMap Frame.file

theorem fileNames_hideHome (stack : QmlStack) :
    (stack.hideHome home).fileNames = stack.fileNames.map (Path.hideHome home) := by
  unfold fileNames hideHome
  rw [List.filterMap_map, List.map_filterMap]
  rfl

end QmlStack

namespace Report

/-- The report with the home directory hidden in all file names. -/
def hideHome (home : Option String) (r : Report) : Report :=
  { r with
    threadStacks := r.threadStacks.map (Stack.hideHome home)
    qml := r.qml.map (QmlStack.hideHome home) }

/-- The file names of a report: those of the native frames, and those of the QML engine's. -/
def fileNames (r : Report) : List String :=
  r.threadStacks.flatMap Stack.fileNames ++ r.qml.toList.flatMap QmlStack.fileNames

theorem fileNames_hideHome (r : Report) :
    (r.hideHome home).fileNames = r.fileNames.map (Path.hideHome home) := by
  unfold fileNames hideHome
  rw [List.map_append, List.flatMap_map, List.map_flatMap, List.map_flatMap, Option.toList_map,
    List.flatMap_map]
  simp only [Stack.fileNames_hideHome, QmlStack.fileNames_hideHome]

end Report

/-! ### Stacks -/

namespace Unwind

theorem reported_eq_hideHome (r : Roster) (o : Options) (s : Session) (frame : Session.Frame) :
    reported r o s frame = (reported r { o with home := none } s frame).hideHome o.home := by
  unfold reported Stack.Frame.hideHome
  dsimp only
  rw [Option.map_map]
  rfl

/-- Which frames are left out does not depend on their file names. -/
theorem clip_map_hideHome (frames : List Stack.Frame) :
    clip (frames.map (Stack.Frame.hideHome home)) =
      (clip frames).map (Stack.Frame.hideHome home) := by
  rw [clip_map, clip_eq]
  rfl

theorem assemble_hideHome (thread : Thread) (o : Options) (registers : Option (Table String))
    (visited : List Stack.Frame) :
    assemble thread o registers (visited.map (Stack.Frame.hideHome home)) =
      (assemble thread o registers visited).hideHome home := by
  have hkept : (if o.crashed then clip (visited.map (Stack.Frame.hideHome home))
      else visited.map (Stack.Frame.hideHome home)) =
        (if o.crashed then clip visited else visited).map (Stack.Frame.hideHome home) := by
    rw [clip_map_hideHome]
    split <;> rfl
  -- the handler and the main loop are found by their functions
  have hany : ∀ p : Stack.Frame → Bool, (∀ frame, p (frame.hideHome home) = p frame) →
      (visited.map (Stack.Frame.hideHome home)).any p = visited.any p := by
    intro p hp
    rw [List.any_map]
    exact congrArg visited.any (funext hp)
  unfold assemble Stack.hideHome
  dsimp only
  rw [hkept, List.filterMap_map, hany _ fun _ => rfl, hany _ fun _ => rfl]
  rfl

theorem stackOf_eq_hideHome (r : Roster) (o : Options) (s : Session)
    (record : Session.ThreadRecord) :
    stackOf r o s record = (stackOf r { o with home := none } s record).hideHome o.home := by
  have hframes : recordedFrames r o s record =
      (recordedFrames r { o with home := none } s record).map (Stack.Frame.hideHome o.home) := by
    unfold recordedFrames
    rw [List.map_map]
    exact List.map_congr_left fun frame _ => reported_eq_hideHome r o s frame
  unfold stackOf
  rw [hframes, ← assemble_hideHome]
  rfl

theorem captured_hideHome (stack : Stack) : captured (stack.hideHome home) = captured stack := by
  unfold captured Stack.hideHome
  dsimp only
  rw [List.length_map, List.countP_map]
  rfl

end Unwind

namespace QmlStack

theorem frameOf?_eq_hideHome (result : MachineInterface.Result) :
    frameOf? home result = (frameOf? none result).map (Frame.hideHome home) := by
  unfold frameOf?
  split
  · unfold Frame.hideHome
    rw [Option.map_some]
    dsimp only
    rw [Option.map_map]
    rfl
  · rfl

theorem ofPayload?_eq_hideHome (payload : String) :
    ofPayload? home payload = (ofPayload? none payload).map (hideHome home) := by
  unfold ofPayload?
  cases MachineInterface.read payload with
  | error _ => rfl
  | ok results =>
      dsimp only
      have hframes : results.filterMap (frameOf? home) =
          (results.filterMap (frameOf? none)).map (Frame.hideHome home) := by
        rw [List.map_filterMap]
        exact congrArg (List.filterMap · results) (funext frameOf?_eq_hideHome)
      rw [hframes]
      cases results.filterMap (frameOf? none) <;> rfl

theorem search_eq_hideHome (threads : List Thread) (home : Option String) (s : Session) :
    (search Session.debugger threads home s).1 =
      (search Session.debugger threads none s).1.map (hideHome home) := by
  rw [search_eq, search_eq, Option.map_bind]
  exact congrArg _ (funext ofPayload?_eq_hideHome)

end QmlStack

/-! ### Reports -/

namespace Investigation

open Session (ThreadRecord debugger)

variable {o : Options} {s : Session} {crashed : ThreadRecord} {report : Report}

theorem reportOf_eq_hideHome (o : Options) (s : Session) (crashed : ThreadRecord) :
    reportOf o s crashed = (reportOf { o with home := none } s crashed).hideHome o.home := by
  have hstack : stackFor o s crashed = fun record =>
      (stackFor { o with home := none } s crashed record).hideHome o.home :=
    funext fun record => Unwind.stackOf_eq_hideHome _ _ _ record
  have hqml : ∀ threads, (qmlStack debugger o threads s).1 =
      (qmlStack debugger { o with home := none } threads s).1.map (QmlStack.hideHome o.home) := by
    intro threads
    unfold qmlStack
    split
    · exact QmlStack.search_eq_hideHome threads o.home s
    · rfl
  unfold reportOf Report.hideHome
  dsimp only
  rw [hstack, hqml, List.map_map, Unwind.captured_hideHome]
  rfl

/-- Hiding the home directory changes file names, and nothing else. -/
theorem investigate_eq_hideHome (o : Options) (s : Session) :
    (investigate debugger o s).1 =
      (investigate debugger { o with home := none } s).1.map (Report.hideHome o.home) := by
  cases hcurrent : s.current? with
  | none =>
      rw [investigate_of_current?_eq_none o hcurrent, investigate_of_current?_eq_none _ hcurrent]
      rfl
  | some crashed =>
      -- whether there is a report is decided by images and loads alone
      have hfailure : failure? { o with home := none } s = failure? o s := rfl
      rw [investigate_eq o hcurrent, investigate_eq _ hcurrent, hfailure]
      cases failure? o s with
      | some failure => rfl
      | none => exact congrArg Except.ok (reportOf_eq_hideHome o s crashed)

/-- The reports in which a file name has the home directory, for every session and all options
with a home directory that is an absolute path.

There is a report exactly if there is one without hiding it, and its file names are the names of
that one, each with the home directory hidden. Some name still has it if and only if some name
reveals it: where the home directory has no dollar sign, one in which it stands twice. -/
theorem investigate_reveals_iff {home : String} {tail : List Char} (hhome : o.home = some home)
    (hslash : home.toList = '/' :: tail) (h : (investigate debugger o s).1 = .ok report) :
    ∃ plain, (investigate debugger { o with home := none } s).1 = .ok plain ∧
      report.fileNames = plain.fileNames.map (Path.hideHome (some home)) ∧
      ((∃ name ∈ report.fileNames, home.toList <:+: name.toList) ↔
        ∃ name ∈ plain.fileNames, Path.Reveals home.toList name.toList) ∧
      ('$' ∉ home.toList → ((∃ name ∈ report.fileNames, home.toList <:+: name.toList) ↔
        ∃ name ∈ plain.fileNames, ∃ a b c,
          name.toList = a ++ home.toList ++ b ++ home.toList ++ c)) := by
  have hplain := investigate_eq_hideHome o s
  rw [h] at hplain
  cases hanswer : (investigate debugger { o with home := none } s).1 with
  | error failure =>
      rw [hanswer] at hplain
      cases hplain
  | ok plain =>
      rw [hanswer] at hplain
      obtain rfl : report = plain.hideHome o.home := Except.ok.inj hplain
      have hnames : (plain.hideHome o.home).fileNames =
          plain.fileNames.map (Path.hideHome (some home)) := by
        rw [Report.fileNames_hideHome, hhome]
      have hreveals : (∃ name ∈ (plain.hideHome o.home).fileNames,
          home.toList <:+: name.toList) ↔
            ∃ name ∈ plain.fileNames, Path.Reveals home.toList name.toList := by
        simp only [hnames, List.mem_map, exists_exists_and_eq_and,
          Path.infix_hideHome_iff hslash]
      refine ⟨plain, rfl, hnames, hreveals, fun hdollar => ?_⟩
      rw [hreveals]
      simp only [Path.reveals_iff_of_no_dollar hdollar]

/-- A session in which the newest frame is in a source file below a copy of the whole tree. -/
def nested : Session where
  selected := some 1
  threads := [
    { thread := { number := 1, id := 10 }
      frames := [
        { pc := 4096, file := some "/home/alice/build/home/alice/a.cpp" },
        { pc := 8192, file := some "/home/alice/main.cpp" }] }]

/-- The home directory is replaced once in each name, and in the first one it stands twice. -/
theorem revealed_nested : ∃ report,
    (investigate debugger { home := some "/home/alice" } nested).1 = .ok report ∧
    report.fileNames = ["$HOME/build/home/alice/a.cpp", "$HOME/main.cpp"] ∧
    ∃ name ∈ report.fileNames, "/home/alice".toList <:+: name.toList := by
  refine ⟨_, rfl, ?_, "$HOME/build/home/alice/a.cpp", ?_, "$HOME/build".toList, "/a.cpp".toList, ?_⟩
  · decide +kernel
  · decide +kernel
  · decide

theorem investigate_reveals_nested : ∃ report plain,
    (investigate debugger { home := some "/home/alice" } nested).1 = .ok report ∧
    (investigate debugger {} nested).1 = .ok plain ∧
    ((∃ name ∈ report.fileNames, "/home/alice".toList <:+: name.toList) ↔
      ∃ name ∈ plain.fileNames, ∃ a b c,
        name.toList = a ++ "/home/alice".toList ++ b ++ "/home/alice".toList ++ c) := by
  obtain ⟨report, hreport⟩ : ∃ report,
      (investigate debugger { home := some "/home/alice" } nested).1 = .ok report := ⟨_, rfl⟩
  obtain ⟨plain, hplain, -, -, hiff⟩ :=
    investigate_reveals_iff rfl (show "/home/alice".toList = '/' :: "home/alice".toList from rfl)
      hreport
  exact ⟨report, plain, hreport, hplain, hiff (by decide)⟩

end Investigation

end CrashReport
