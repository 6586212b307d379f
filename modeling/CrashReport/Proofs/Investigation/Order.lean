import CrashReport.Proofs.Investigation.Again
import Mathlib.Data.List.Find
import Mathlib.Data.List.Nodup

/-!
# The order of the threads

A debugger lists threads in whatever order it has met them. If their numbers are distinct, a
thread is the same one wherever it is listed, and unless images are loaded for every thread, all
loads are made for the crashed one. So the order decides nothing but the order of the stacks, and
which QML engine is asked first.

* **`Session.withThreads`** — the session with other threads, or the same ones in another order;
* **`stackFor_withThreads`** — the stack of a thread does not depend on the order;
* **`investigate_withThreads`** — the answers and the loads of two orders.
-/

namespace CrashReport

open Session (ThreadRecord debugger)

namespace Session

variable {s : Session} {threads : List ThreadRecord}

def withThreads (s : Session) (threads : List ThreadRecord) : Session :=
  { s with threads := threads }

theorem after_withThreads (s : Session) (threads : List ThreadRecord) (loads : List Load) :
    (s.withThreads threads).after loads = (s.after loads).withThreads threads := by
  induction loads generalizing s with
  | nil => rfl
  | cons load rest ih => exact ih (s.load load)

/-- A number belongs to one thread at most, which is found in any order. -/
theorem thread?_withThreads (hperm : threads.Perm s.threads)
    (hnodup : (s.threads.map ThreadRecord.number).Nodup) :
    (s.withThreads threads).thread? = s.thread? := by
  funext number
  apply List.find?_eq_find?_of_perm hperm
  rintro record ⟨hrecord, hnumber⟩ other ⟨hother, hsame⟩
  apply List.inj_on_of_nodup_map hnodup (hperm.subset hrecord) (hperm.subset hother)
  exact (of_decide_eq_true hnumber).trans (of_decide_eq_true hsame).symm

theorem current?_withThreads (hperm : threads.Perm s.threads)
    (hnodup : (s.threads.map ThreadRecord.number).Nodup) :
    (s.withThreads threads).current? = s.current? := by
  unfold current?
  rw [thread?_withThreads hperm hnodup]
  rfl

/-- Where numbers are distinct, the valid threads are those that can be selected. -/
theorem leading_of_nodup (hnodup : (s.threads.map ThreadRecord.number).Nodup) :
    s.leading = s.threads.filter fun record => record.thread.valid := by
  unfold leading
  rw [Sequence.firsts_eq_self hnodup fun _ _ => List.not_mem_nil]

end Session

namespace Investigation

variable {o : Options} {s : Session} {threads : List ThreadRecord}

theorem roster_withThreads (o : Options) (s : Session) (threads : List ThreadRecord) :
    (roster debugger o (s.withThreads threads)).1 = (roster debugger o s).1 := by
  cases hlive : s.live with
  | true =>
      rw [roster_of_live o hlive, roster_of_live o (s := s.withThreads threads) hlive]
      rfl
  | false =>
      rw [roster_of_core o hlive, roster_of_core o (s := s.withThreads threads) hlive]
      rfl

/-- Unless images are loaded for every thread, the crashed thread alone calls for loads. -/
theorem loadOrder_of_ne_some (htier : o.tier ≠ .some) (s : Session) (crashed : ThreadRecord) :
    loadOrder o s crashed =
      if crashed.thread.valid && o.tier.loads true then crashed.frames.take frameLimit else [] := by
  unfold loadOrder
  rw [if_neg htier, List.append_nil]

/-- The images that are called for are the same, since addresses belong to the same images. -/
theorem owners_withThreads (htier : o.tier ≠ .some) (s : Session) (threads : List ThreadRecord)
    (crashed : ThreadRecord) :
    (roster debugger o (s.withThreads threads)).1.owners (s.withThreads threads)
        (loadOrder o (s.withThreads threads) crashed) =
      (roster debugger o s).1.owners s (loadOrder o s crashed) := by
  rw [roster_withThreads, loadOrder_of_ne_some htier, loadOrder_of_ne_some htier]
  rfl

theorem failure?_withThreads (htier : o.tier ≠ .some) (hperm : threads.Perm s.threads)
    (hnodup : (s.threads.map ThreadRecord.number).Nodup) :
    failure? o (s.withThreads threads) = failure? o s := by
  unfold failure?
  rw [Session.current?_withThreads hperm hnodup]
  cases s.current? with
  | none => rfl
  | some crashed =>
      dsimp only
      rw [owners_withThreads htier, roster_withThreads]
      rfl

/-- All loads come before the first stack is read, so it does not matter which one that is. -/
theorem loadsBefore_of_ne_some (htier : o.tier ≠ .some) {crashed : ThreadRecord}
    (hcrashed : s.thread? crashed.number = some crashed) (record : ThreadRecord) :
    loadsBefore o s crashed record = ({ tier := o.tier } : Loader).requests
      ((roster debugger o s).1.owners s (loadOrder o s crashed)) := by
  unfold loadsBefore
  rw [need_through htier, need_visits o _ s hcrashed]

theorem stackFor_withThreads (htier : o.tier ≠ .some) (hperm : threads.Perm s.threads)
    (hnodup : (s.threads.map ThreadRecord.number).Nodup) {crashed : ThreadRecord}
    (hcrashed : s.thread? crashed.number = some crashed) :
    stackFor o (s.withThreads threads) crashed = stackFor o s crashed := by
  have hsame : (s.withThreads threads).thread? crashed.number = some crashed := by
    rw [Session.thread?_withThreads hperm hnodup, hcrashed]
  funext record
  unfold stackFor
  rw [loadsBefore_of_ne_some htier hcrashed, loadsBefore_of_ne_some htier hsame,
    owners_withThreads htier, roster_withThreads, Session.after_withThreads]
  rfl

theorem loads_withThreads (htier : o.tier ≠ .some) (hperm : threads.Perm s.threads)
    (hnodup : (s.threads.map ThreadRecord.number).Nodup) :
    (investigate debugger o (s.withThreads threads)).2.loads =
      (investigate debugger o s).2.loads := by
  have hcurrent := Session.current?_withThreads hperm hnodup
  cases hcrashed : s.current? with
  | none =>
      rw [hcrashed] at hcurrent
      rw [loads_investigate_of_current?_eq_none hcrashed,
        loads_investigate_of_current?_eq_none hcurrent]
      rfl
  | some crashed =>
      rw [hcrashed] at hcurrent
      rw [loads_investigate hcrashed, loads_investigate hcurrent, owners_withThreads htier]
      rfl

/-- The answers for one session with its threads in two orders, if their numbers are distinct and
images are not loaded for every thread.

A failure is the same. A report has one stack for each valid thread, in the order of the threads,
and the stack of a thread is the same in both reports. So is that of the crashed thread, which may
have another place, and all else but the stack of a QML engine. The same loads are asked for. -/
theorem investigate_withThreads (htier : o.tier ≠ .some) (hperm : threads.Perm s.threads)
    (hnodup : (s.threads.map ThreadRecord.number).Nodup) :
    (∀ failure, (investigate debugger o (s.withThreads threads)).1 = .error failure ↔
      (investigate debugger o s).1 = .error failure) ∧
    (∀ report, (investigate debugger o s).1 = .ok report → ∃ report' stackOf,
      (investigate debugger o (s.withThreads threads)).1 = .ok report' ∧
      (∀ record, (stackOf record).thread = record.thread) ∧
      report.threadStacks = (s.threads.filter fun record => record.thread.valid).map stackOf ∧
      report'.threadStacks = (threads.filter fun record => record.thread.valid).map stackOf ∧
      report'.crashing = report.crashing ∧
      report' = { report with
        threadStacks := report'.threadStacks
        crashed := report'.crashed
        qml := report'.qml }) ∧
    (investigate debugger o (s.withThreads threads)).2.loads =
      (investigate debugger o s).2.loads := by
  have hfailure := failure?_withThreads htier hperm hnodup
  refine ⟨?_, ?_, loads_withThreads htier hperm hnodup⟩
  · intro failure
    rw [investigate_eq_error_iff, investigate_eq_error_iff, hfailure]
  · -- both reports are put together from the stacks of the same records, each in its own order
    intro report hreport
    obtain ⟨crashed, hcrashed, rfl⟩ := eq_reportOf_of_investigate_eq_ok hreport
    have hfirst := Session.thread?_of_current?_eq_some hcrashed
    have hcurrent := (Session.current?_withThreads hperm hnodup).trans hcrashed
    have hsame := Session.thread?_of_current?_eq_some hcurrent
    have hstack := stackFor_withThreads htier hperm hnodup hfirst
    have hnone := (exists_investigate_eq_ok_iff o s).1 ⟨_, hreport⟩
    refine ⟨reportOf o (s.withThreads threads) crashed, stackFor o s crashed, ?_, fun _ => rfl,
      ?_, ?_, ?_, ?_⟩
    · rw [investigate_eq o hcurrent, hfailure, hnone]
    · rw [← Session.leading_of_nodup hnodup]
      rfl
    · have hnodup' : ((s.withThreads threads).threads.map ThreadRecord.number).Nodup :=
        (hperm.map ThreadRecord.number).nodup_iff.2 hnodup
      rw [← hstack]
      exact congrArg _ (Session.leading_of_nodup hnodup')
    · rw [crashing_reportOf hsame, crashing_reportOf hfirst, hstack]
    · unfold reportOf
      rw [roster_withThreads, hstack]
      rfl

/-- The two threads of a session change places, and so do their stacks. -/
theorem investigate_withThreads_libraries :
    libraries.threads.reverse.Perm libraries.threads ∧
    (libraries.threads.map ThreadRecord.number).Nodup ∧ ∃ report report',
      (investigate debugger { tier := .little } libraries).1 = .ok report ∧
      (investigate debugger { tier := .little }
        (libraries.withThreads libraries.threads.reverse)).1 = .ok report' ∧
      report.threadStacks.map (fun stack => stack.thread.id) = [20, 10] ∧
      report'.threadStacks.map (fun stack => stack.thread.id) = [10, 20] ∧
      report'.crashing = report.crashing := by
  have hperm : libraries.threads.reverse.Perm libraries.threads := List.reverse_perm _
  have hnodup : (libraries.threads.map ThreadRecord.number).Nodup := by decide
  obtain ⟨report, hreport⟩ := exists_report_libraries .little
  obtain ⟨-, hreports, -⟩ :=
    investigate_withThreads (o := { tier := .little }) (by decide) hperm hnodup
  obtain ⟨report', stackOf, hreport', hthread, hstacks, hstacks', hcrashing, -⟩ :=
    hreports report hreport
  have hids : ∀ records : List ThreadRecord,
      (records.map stackOf).map (fun stack => stack.thread.id) =
        records.map fun record => record.thread.id := by
    intro records
    simp only [List.map_map, Function.comp_def, hthread]
  refine ⟨hperm, hnodup, report, report', hreport, hreport', ?_, ?_, hcrashing⟩
  · rw [hstacks, hids]
    rfl
  · rw [hstacks', hids]
    rfl

end Investigation

end CrashReport
