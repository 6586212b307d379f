import CrashReport.Proofs.Investigation.Order
import CrashReport.Proofs.Investigation.Tiers

/-!
# How much of the crashed thread was captured

The stacks of all threads are read in one course, and what is captured of each is at hand when the
rate of a report is computed. Only the crashed thread's stack counts: the first stack that is
read, and read when no images have been loaded but those for it. So the other threads of a session
play no part, whatever they are called and whatever is recorded of them.

* **`Unwind.captured_eq`** — what counts as captured of a stack;
* **`stackFor_crashed_withThreads`** — the stack of the crashed thread does not depend on the
  others;
* **`investigate_captured`** — what the rate of a report is computed from.
-/

namespace CrashReport

open Session (ThreadRecord debugger)

namespace Unwind

/-- All frames of a stack count, and those of them that have variables. -/
theorem captured_eq (stack : Stack) :
    captured stack = ⟨stack.frames.length,
      stack.frames.countP fun frame => frame.vars.any fun vars => vars ≠ {}⟩ := by
  have hempty : (fun vars : Table String => !vars.isEmpty) = fun vars => decide (vars ≠ {}) := by
    funext vars
    obtain ⟨entries⟩ := vars
    cases entries <;> rfl
  unfold captured Stack.Frame.hasVars
  rw [hempty]

theorem withVars_le_frames (stack : Stack) :
    (captured stack).withVars ≤ (captured stack).frames := List.countP_le_length

/-- Where nothing is to be captured, no frame that is kept has variables. -/
theorem withVars_stackOf (r : Roster) {o : Options} (h : o.capture = false) (s : Session)
    (record : ThreadRecord) : (captured (stackOf r o s record)).withVars = 0 := by
  have hkept : (stackOf r o s record).frames <:+ recordedFrames r o s record := by
    unfold stackOf assemble
    dsimp only
    split
    · exact clip_isSuffix _
    · exact List.suffix_rfl
  show (stackOf r o s record).frames.countP Stack.Frame.hasVars = 0
  rw [List.countP_eq_zero]
  intro frame hframe
  obtain ⟨recorded, -, rfl⟩ := List.mem_map.1 (hkept.subset hframe)
  unfold Stack.Frame.hasVars reported
  rw [if_neg (ne_true_of_eq_false h)]
  exact Bool.false_ne_true

end Unwind

namespace Investigation

variable {o : Options} {s : Session} {crashed : ThreadRecord} {threads : List ThreadRecord}

/-- When the stack of the crashed thread is read, images have been loaded for no other. -/
theorem loadsBefore_crashed (o : Options) (hcrashed : s.thread? crashed.number = some crashed)
    (hvalid : crashed.thread.valid = true) :
    loadsBefore o s crashed crashed = ({ tier := o.tier } : Loader).requests
      (need o (roster debugger o s).1 s crashed.number [crashed]) := by
  unfold loadsBefore
  rw [through_visits_crashed hcrashed hvalid]

/-- Another session that finds the crashed thread tells the same of it, in every tier. -/
theorem stackFor_crashed_withThreads (o : Options)
    (hcrashed : s.thread? crashed.number = some crashed)
    (hsame : (s.withThreads threads).thread? crashed.number = some crashed)
    (hvalid : crashed.thread.valid = true) :
    stackFor o (s.withThreads threads) crashed crashed = stackFor o s crashed crashed := by
  unfold stackFor
  rw [loadsBefore_crashed o hsame hvalid, loadsBefore_crashed o hcrashed hvalid,
    roster_withThreads, Session.after_withThreads]
  rfl

theorem captured_reportOf_withThreads (o : Options)
    (hcrashed : s.thread? crashed.number = some crashed)
    (hsame : (s.withThreads threads).thread? crashed.number = some crashed) :
    (reportOf o (s.withThreads threads) crashed).captured = (reportOf o s crashed).captured := by
  unfold reportOf
  dsimp only
  split
  · rename_i hvalid
    rw [stackFor_crashed_withThreads o hcrashed hsame hvalid]
  · rfl

/-- What was captured is what there is in the stack of the crashed thread, if it has one. -/
theorem captured_reportOf (o : Options) (hcrashed : s.thread? crashed.number = some crashed) :
    (reportOf o s crashed).captured =
      match (reportOf o s crashed).crashing with
      | some stack => Unwind.captured stack
      | none => {} := by
  rw [crashing_reportOf hcrashed]
  unfold reportOf
  dsimp only
  split <;> rfl

/-- What the rate of a report is computed from, for every session and all options for which there
is a report.

The frames are those of the crashed thread's stack, and those with variables are the ones among
them that have a variable at least; without such a stack there are none of either. So there are
never more with variables than there are frames, and there are none in the tiers that do not
capture any. Without frames the rate is zero. A session with any other threads in which the same
record is the crashed thread's, if there is a report of it, has the same counts and the same
rate. -/
theorem investigate_captured {report : Report} (h : (investigate debugger o s).1 = .ok report) :
    (∀ stack, report.crashing = some stack →
      report.captured.frames = stack.frames.length ∧
      report.captured.withVars =
        stack.frames.countP fun frame => frame.vars.any fun vars => vars ≠ {}) ∧
    (report.crashing = none → report.captured.frames = 0 ∧ report.captured.withVars = 0) ∧
    report.captured.withVars ≤ report.captured.frames ∧
    (o.tier = .little ∨ o.tier = .cramped → report.captured.withVars = 0) ∧
    report.varsRate = Rate.hundredths report.captured.withVars report.captured.frames ∧
    (report.captured.frames = 0 → report.varsRate = 0) ∧
    ∀ threads report', (s.withThreads threads).current? = s.current? →
      (investigate debugger o (s.withThreads threads)).1 = .ok report' →
        report'.captured = report.captured ∧ report'.varsRate = report.varsRate := by
  obtain ⟨crashed, hcrashed, rfl⟩ := eq_reportOf_of_investigate_eq_ok h
  have hfirst := Session.thread?_of_current?_eq_some hcrashed
  have hcaptured := captured_reportOf o hfirst
  refine ⟨?_, ?_, ?_, ?_, rfl, ?_, ?_⟩
  · intro stack hstack
    rw [hcaptured, hstack]
    dsimp only
    rw [Unwind.captured_eq]
    exact ⟨rfl, rfl⟩
  · intro hnone
    rw [hcaptured, hnone]
    exact ⟨rfl, rfl⟩
  · rw [hcaptured]
    split
    · exact Unwind.withVars_le_frames _
    · exact Nat.le_refl 0
  · -- only the stack of the crashed thread counts, and no frame of it has variables
    intro htier
    have hcapture : o.tier.captures = false := by
      rcases htier with htier | htier <;> rw [htier] <;> rfl
    show (if crashed.thread.valid then Unwind.captured (stackFor o s crashed crashed)
      else {}).withVars = 0
    split
    · exact Unwind.withVars_stackOf _ hcapture _ crashed
    · rfl
  · intro hframes
    unfold Report.varsRate
    rw [hframes]
    rfl
  · -- both sessions find one record for the crashed thread, and its stack is read first in both
    intro threads report' hcurrent hreport'
    obtain ⟨crashed', hcrashed', rfl⟩ := eq_reportOf_of_investigate_eq_ok hreport'
    obtain rfl := Option.some.inj (hcrashed.symm.trans (hcurrent.symm.trans hcrashed'))
    have hsame := captured_reportOf_withThreads o hfirst
      (Session.thread?_of_current?_eq_some hcrashed')
    refine ⟨hsame, ?_⟩
    unfold Report.varsRate
    rw [hsame]

/-- A symbol with a value. -/
def counter : FrameSymbol :=
  { name := "counter", kind := .localVariable, reading := some { text := some "1" } }

/-- A session in which the crashed thread shares its number with one thread and its kernel's number
with another, and every frame of these two has a variable. -/
def crowd : Session where
  selected := some 1
  threads := [
    { thread := { number := 2, id := 10 }
      frames := [{ pc := 1, symbols := [counter] }, { pc := 2, symbols := [counter] }] },
    { thread := { number := 1, id := 10 }
      frames := [{ pc := 3, symbols := [counter] }, { pc := 4 }] },
    { thread := { number := 1, id := 11 }
      frames := [{ pc := 5, symbols := [counter] }] }]

/-- Half of the crashed thread's frames have variables, whether there are other threads or not. -/
theorem investigate_captured_crowd : ∃ report report',
    (investigate debugger {} crowd).1 = .ok report ∧
    (investigate debugger {} (crowd.withThreads crowd.current?.toList)).1 = .ok report' ∧
    report.captured = ⟨2, 1⟩ ∧ report.varsRate = 50 ∧
    report'.captured = ⟨2, 1⟩ ∧ report'.varsRate = 50 := by
  obtain ⟨report, hreport⟩ : ∃ report, (investigate debugger {} crowd).1 = .ok report :=
    ⟨_, rfl⟩
  obtain ⟨report', hreport'⟩ : ∃ report', (investigate debugger {}
      (crowd.withThreads crowd.current?.toList)).1 = .ok report' := ⟨_, rfl⟩
  have hrun : ((investigate debugger {} crowd).1.toOption.bind Report.crashing).map (fun stack =>
      (stack.frames.length, stack.frames.countP fun frame =>
        frame.vars.any fun vars => vars ≠ {})) = some (2, 1) := by
    decide +kernel
  rw [hreport] at hrun
  obtain ⟨stack, hstack, hcounts⟩ := Option.map_eq_some_iff.1 hrun
  obtain ⟨hlength, hvars⟩ := Prod.mk.inj hcounts
  obtain ⟨hcrashing, -, -, -, hrate, -, hsame⟩ := investigate_captured hreport
  obtain ⟨hframes, hwithVars⟩ := hcrashing stack hstack
  rw [hlength] at hframes
  rw [hvars] at hwithVars
  have hcaptured : report.captured = ⟨2, 1⟩ := congrArg₂ Unwind.Captured.mk hframes hwithVars
  have hfifty : report.varsRate = 50 := by
    rw [hrate, hcaptured]
    decide
  obtain ⟨hcaptured', hrate'⟩ := hsame crowd.current?.toList report' rfl hreport'
  exact ⟨report, report', hreport, hreport', hcaptured, hfifty, hcaptured'.trans hcaptured,
    hrate'.trans hfifty⟩

end Investigation

end CrashReport
