import CrashReport.Proofs.Investigation.Outcome
import CrashReport.Proofs.Investigation.Stacks
import CrashReport.Proofs.Session.Symbols

/-!
# What an investigation reports

A report can be told without following the investigation. Its stacks are those of the threads
that can be selected, and the stack of each is made of its record and of the names that are known
once the images for it, and for the threads visited before it, have been loaded.

* **`loadsBefore`** — the loads that come before the stack of a thread is read;
* **`stackFor`** — the stack that is reported of a thread;
* **`reportOf`** — the report of a session;
* **`investigate_eq`** — an investigation gives this report, or the failure in which it ends.
-/

namespace CrashReport.Investigation

open Sequence (through)
open Session (ThreadRecord debugger)

/-- The loads that come before the stack of a thread is read. -/
def loadsBefore (o : Options) (s : Session) (crashed record : ThreadRecord) :
    List Session.Load :=
  ({ tier := o.tier } : Loader).requests <|
    need o (roster debugger o s).1 s crashed.number <|
      through (fun visited => visited.number = record.number) (visits s crashed.number)

/-- The stack that is reported of a thread. -/
def stackFor (o : Options) (s : Session) (crashed record : ThreadRecord) : Stack :=
  Unwind.stackOf (roster debugger o s).1 (unwindOptions o (record.number = crashed.number))
    (s.after (loadsBefore o s crashed record)) record

/-- The report of a session in which a listed thread has crashed. -/
def reportOf (o : Options) (s : Session) (crashed : ThreadRecord) : Report where
  program := programName o s.programPath
  programBuildId := s.programBuildId
  makerVersion := o.makerVersion
  programVersion := o.programVersion
  signal := o.signal
  crashedThread := crashed.thread.id
  crashed := s.leading.findIdx? fun record => record.number = crashed.number
  threadStacks := s.leading.map (stackFor o s crashed)
  qml := (qmlStack debugger o (s.threads.map ThreadRecord.thread) s).1
  images := (roster debugger o s).1.images
  captured := if crashed.thread.valid then Unwind.captured (stackFor o s crashed crashed) else {}
  handlerMessage := (handlerMessage debugger s).1

/-! ### The stacks in the order of the visits -/

section Visits

variable {o : Options} {roster : Roster} {s₀ s : Session} {number : UInt32}

/-- Each stack is read when the images for the visits up to this one have been attempted. -/
theorem stacksOf_eq_map (l : Loader) (before : List Image) {records : List ThreadRecord}
    (hnodup : (records.map ThreadRecord.number).Nodup) :
    stacksOf o roster s₀ number l s before records = records.map fun record =>
      (record.number, Unwind.stackOf roster (unwindOptions o (record.number = number))
        (s.after (l.requests (before ++ need o roster s₀ number
          (through (fun visited => visited.number = record.number) records)))) record) := by
  induction records generalizing before with
  | nil => rfl
  | cons record rest ih =>
      rw [List.map_cons, List.nodup_cons] at hnodup
      have hhere : through (fun visited => visited.number = record.number) (record :: rest) =
          [record] := Sequence.through_cons_of_pos rest (decide_eq_true rfl)
      -- the numbers are distinct, so the visits up to a later one begin with this one
      have hlater : ∀ other ∈ rest,
          through (fun visited => visited.number = other.number) (record :: rest) =
            record :: through (fun visited => visited.number = other.number) rest := by
        intro other hother
        apply Sequence.through_cons_of_neg
        apply decide_eq_false
        intro hnumber
        rw [hnumber] at hnodup
        exact hnodup.1 (List.mem_map_of_mem hother)
      rw [List.map_cons, hhere, stacksOf_cons l before record rest rfl, ih _ hnodup.2, need_cons]
      congr 1
      · unfold need
        rw [List.flatMap_nil, List.append_nil]
      · apply List.map_congr_left
        intro other hother
        rw [hlater other hother, need_cons, List.append_assoc]

theorem number_ne_of_mem_others {crashed : UInt32} {ahead : List ThreadRecord}
    {record : ThreadRecord} (h : record ∈ others crashed [] ahead) : record.number ≠ crashed := by
  have hkept := (List.mem_filter.1 h).2
  rw [Bool.and_eq_true] at hkept
  exact of_decide_eq_true hkept.2

theorem nodup_numbers_visits (s : Session) (crashed : UInt32) :
    ((visits s crashed).map ThreadRecord.number).Nodup := by
  unfold visits
  rw [List.map_append, List.nodup_append]
  refine ⟨?_, ?_, ?_⟩
  · cases s.thread? crashed with
    | none => exact List.Pairwise.nil
    | some record =>
        exact (List.pairwise_singleton _ record.number).sublist
          (List.filter_sublist.map ThreadRecord.number)
  · exact (Sequence.nodup_keys_firsts [] s.threads).sublist
      (List.filter_sublist.map ThreadRecord.number)
  · intro first hfirst other hother heq
    obtain ⟨record, hrecord, rfl⟩ := List.mem_map.1 hfirst
    obtain ⟨visited, hvisited, rfl⟩ := List.mem_map.1 hother
    have hnumber := Session.number_of_thread?_eq_some
      (Option.mem_toList.1 (List.mem_filter.1 hrecord).1)
    exact number_ne_of_mem_others hvisited (heq.symm.trans hnumber)

end Visits

variable {o : Options} {s : Session} {crashed : ThreadRecord}

/-- Whether the network may be used plays no part in what is known. -/
theorem symbolsKnown_after_started (o : Options) (s : Session) (loads : List Session.Load) :
    ((started o s).after loads).symbolsKnown = (s.after loads).symbolsKnown := by
  funext frame
  rw [Session.symbolsKnown_after, Session.symbolsKnown_after]
  rfl

theorem stacksOf_visits (o : Options) (s : Session) (crashed : ThreadRecord) :
    stacksOf o (roster debugger o s).1 s crashed.number { tier := o.tier } (started o s) []
        (visits s crashed.number) =
      (visits s crashed.number).map fun record => (record.number, stackFor o s crashed record) := by
  rw [stacksOf_eq_map _ _ (nodup_numbers_visits s crashed.number)]
  apply List.map_congr_left
  intro record _
  unfold stackFor loadsBefore
  rw [Unwind.stackOf_eq_of_known_eq _ _ _ ?_ (symbolsKnown_after_started o s _)]
  · rfl
  · rw [Session.recording_after, Session.recording_after]
    rfl

/-- Of the visits, one at most is that of the crashed thread. -/
theorem visits_of_number (hcrashed : s.thread? crashed.number = some crashed) :
    ((visits s crashed.number).filter fun record => record.number = crashed.number) =
      if crashed.thread.valid then [crashed] else [] := by
  have hothers : ((others crashed.number [] s.threads).filter fun record =>
      record.number = crashed.number) = [] := by
    rw [List.filter_eq_nil_iff]
    intro record hrecord
    simpa using number_ne_of_mem_others hrecord
  unfold visits
  rw [List.filter_append, hothers, List.append_nil, hcrashed, Option.toList_some,
    List.filter_cons]
  split
  · exact List.filter_cons_of_pos (decide_eq_true rfl)
  · rfl

/-- What was captured counts once, for the stack of the crashed thread. -/
theorem tally_visits (f : ThreadRecord → Stack)
    (hcrashed : s.thread? crashed.number = some crashed) :
    tally crashed.number {}
        ((visits s crashed.number).map fun record => (record.number, f record)) =
      if crashed.thread.valid then Unwind.captured (f crashed) else {} := by
  have hfilter : ((visits s crashed.number).map fun record => (record.number, f record)).filter
      (fun entry => entry.1 = crashed.number) =
        ((visits s crashed.number).filter fun record => record.number = crashed.number).map
          fun record => (record.number, f record) := List.filter_map
  unfold tally
  rw [hfilter, visits_of_number hcrashed]
  split
  · show addCaptured {} (Unwind.captured (f crashed)) = _
    unfold addCaptured
    rw [Nat.zero_add, Nat.zero_add]
  · rfl

/-- The stacks of the visits, put in the order of the session. -/
theorem inOrder_visits (f : ThreadRecord → Stack) (s : Session) (crashed : UInt32) :
    inOrder (s.threads.map ThreadRecord.thread)
        ((visits s crashed).map fun record => (record.number, f record)).reverse =
      s.leading.map fun record => (record.number, f record) := by
  have hvisits : List.Forall₂ (fun entry record => entry.1 = record.number ∧ entry.2 = f record)
      ((visits s crashed).map fun record => (record.number, f record)) (visits s crashed) := by
    rw [List.forall₂_map_left_iff]
    exact List.forall₂_same.2 fun _ _ => ⟨rfl, rfl⟩
  have hinOrder := forall₂_inOrder (Q := fun record stack => stack = f record) hvisits
  have hmap := map_eq_map_of_forall₂ (f := id)
    (g := fun record : ThreadRecord => (record.number, f record))
    hinOrder fun _ _ h => Prod.ext h.1 h.2
  rwa [List.map_id] at hmap

/-- The answer of an investigation. -/
theorem investigate_eq (o : Options) (hcrashed : s.current? = some crashed) :
    (investigate debugger o s).1 =
      match failure? o s with
      | some failure => .error failure
      | none => .ok (reportOf o s crashed) := by
  have hfailure := investigate_failure? o s
  cases hnone : failure? o s with
  | some failure =>
      rw [hnone] at hfailure
      exact hfailure
  | none =>
      rw [hnone] at hfailure
      obtain ⟨found, hfound⟩ := hfailure
      obtain ⟨run, hvisit, hanswer, -⟩ := exists_course o hcrashed
      rw [hfound] at hanswer ⊢
      split at hanswer
      · cases hanswer
      · cases hanswer
      · -- the stacks come in the order of the visits, and are put in that of the session
        rename_i hok _
        have htraced := hvisit.traced hok
        have hcaptured := hvisit.captured hok
        rw [stacksOf_visits] at htraced hcaptured
        rw [List.append_nil] at htraced
        rw [tally_visits _ (Session.thread?_of_current?_eq_some hcrashed)] at hcaptured
        rw [hanswer]
        unfold report reportOf
        rw [htraced, hcaptured, inOrder_visits]
        dsimp only
        rw [List.findIdx?_map, List.map_map]
        rfl

theorem eq_reportOf_of_investigate_eq_ok {report : Report}
    (h : (investigate debugger o s).1 = .ok report) :
    ∃ crashed, s.current? = some crashed ∧ report = reportOf o s crashed := by
  cases hcurrent : s.current? with
  | none =>
      rw [investigate_of_current?_eq_none o hcurrent] at h
      cases h
  | some crashed =>
      rw [investigate_eq o hcurrent] at h
      split at h
      · cases h
      · exact ⟨crashed, rfl, (Except.ok.inj h).symm⟩

/-- The stack of the crashed thread is reported as such if the thread is valid. -/
theorem crashing_reportOf (hcrashed : s.thread? crashed.number = some crashed) :
    (reportOf o s crashed).crashing =
      if crashed.thread.valid then some (stackFor o s crashed crashed) else none := by
  unfold Report.crashing
  show (s.leading.findIdx? fun record => record.number = crashed.number).bind
    (fun place => (s.leading.map (stackFor o s crashed))[place]?) = _
  cases hplace : s.leading.findIdx? fun record => record.number = crashed.number with
  | none =>
      rw [List.findIdx?_eq_none_iff] at hplace
      split
      · rename_i hvalid
        have hne := hplace crashed (Session.mem_leading_iff.2 ⟨hvalid, hcrashed⟩)
        exact absurd rfl (of_decide_eq_false hne)
      · rfl
  | some place =>
      rw [Sequence.findIdx?_eq_some_iff_of_nodup (Session.nodup_numbers_leading s)] at hplace
      obtain ⟨record, hrecord, hnumber⟩ := Option.map_eq_some_iff.1 hplace
      have hmem := List.mem_of_getElem? hrecord
      obtain rfl := eq_of_mem_leading hmem hcrashed hnumber
      rw [if_pos (Session.mem_leading_iff.1 hmem).1, Option.bind_some, List.getElem?_map, hrecord]
      rfl

/-- A thread whose place is not the crashed one's has another number. -/
theorem number_ne_of_crashed_ne {record : ThreadRecord} {place : Nat}
    (hrecord : s.leading[place]? = some record)
    (hplace : (reportOf o s crashed).crashed ≠ some place) : record.number ≠ crashed.number := by
  intro hnumber
  apply hplace
  show (s.leading.findIdx? fun record => record.number = crashed.number) = some place
  rw [Sequence.findIdx?_eq_some_iff_of_nodup (Session.nodup_numbers_leading s), hrecord,
    Option.map_some, hnumber]

end CrashReport.Investigation
