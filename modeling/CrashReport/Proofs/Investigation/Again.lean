import CrashReport.Proofs.Investigation.Loads
import CrashReport.Proofs.Investigation.Reported

/-!
# A second investigation

An investigation puts the selection back and leaves nothing else behind but its loads. Unless
images are loaded for every thread, a second one asks for the same files before each stack as the
first one has asked for in all. So it finds the same names known, and gives the same answer.

* **`investigate_snd_eq`** — the session that an investigation leaves;
* **`need_through`** — before each stack all images of the investigation have been attempted,
  unless they are loaded for every thread;
* **`investigate_again`** — the answer of a second investigation is that of the first.
-/

namespace CrashReport.Investigation

open Sequence (through)
open Session (ThreadRecord debugger)

variable {o : Options} {s t : Session} {crashed : ThreadRecord}

/-! ### The session that is left -/

theorem select_eq_of_aside_eq (h : t.aside = s.aside) (number : UInt32) :
    t.select number = s.select number := by
  have hselect : t.aside.select number = s.aside.select number := by rw [h]
  exact hselect

/-- The crashed thread is selected again at its newest frame, whatever the answer was. -/
theorem investigate_snd_eq (o : Options) (hcrashed : s.current? = some crashed)
    (hvalid : crashed.thread.valid = true) :
    (investigate debugger o s).2 =
      ((started o s).after (({ tier := o.tier } : Loader).issued s
        ((roster debugger o s).1.owners s (loadOrder o s crashed)))).select crashed.number := by
  let u := (investigateThread debugger o crashed.thread s).2
  have hback : (investigate debugger o s).2 = debugger.toThread s.selected u :=
    congrArg Prod.snd (investigate_of_current?_eq_some o hcrashed)
  have hkept : (debugger.toThread s.selected u).aside = u.aside :=
    Debugger.Keeps.toThread (Session.keeps_aside u) s.selected rfl
  have haside := aside_investigate (o := o) hcrashed
  rw [hback, hkept, ← Session.aside_after] at haside
  have hrecording : u.recording = s.recording :=
    (Session.recording_eq_of_aside_eq haside).trans (Session.recording_after _ _)
  obtain ⟨number, hselected, hfirst⟩ := Option.bind_eq_some_iff.1 hcrashed
  obtain rfl := Session.number_of_thread?_eq_some hfirst
  rw [← Session.thread?_eq_of_recording_eq hrecording] at hfirst
  rw [hback, hselected, Session.toThread_eq hfirst hvalid]
  exact select_eq_of_aside_eq haside _

/-! ### What is known the second time -/

/-- Unless images are loaded for every thread, none are needed for the other ones. -/
theorem need_eq_nil (htier : o.tier ≠ .some) (r : Roster) {number : UInt32}
    {records : List ThreadRecord} (h : ∀ record ∈ records, record.number ≠ number) :
    need o r s number records = [] := by
  unfold need
  rw [List.flatMap_eq_nil_iff]
  intro record hrecord
  unfold Loader.needs
  rw [decide_eq_false (h record hrecord)]
  cases htier' : o.tier with
  | some => exact absurd htier' htier
  | spacious | little | cramped => rfl

/-- So all images have been attempted before the first stack is read. -/
theorem need_through (htier : o.tier ≠ .some) (r : Roster) (p : ThreadRecord → Bool)
    (number : UInt32) :
    need o r s number (through p (visits s number)) = need o r s number (visits s number) := by
  have hothers : ∀ records, records.Sublist (others number [] s.threads) →
      need o r s number records = [] := fun records h =>
    need_eq_nil htier r fun record hrecord => number_ne_of_mem_others (h.subset hrecord)
  have hthrough := hothers _ (Sequence.through_sublist p _)
  have hall := hothers _ (.refl _)
  -- the visits begin with the crashed thread, if it can be selected
  have hfirst : ((s.thread? number).toList.filter fun record => record.thread.valid) = [] ∨
      ∃ first, ((s.thread? number).toList.filter fun record => record.thread.valid) = [first] := by
    cases s.thread? number with
    | none => exact .inl rfl
    | some first =>
        rw [Option.toList_some, List.filter_cons]
        split
        · exact .inr ⟨first, rfl⟩
        · exact .inl rfl
  unfold visits
  rcases hfirst with hnone | ⟨first, hone⟩
  · rw [hnone, List.nil_append, hthrough, hall]
  · rw [hone, List.singleton_append, need_cons, hall]
    cases hp : p first with
    | true =>
        rw [Sequence.through_cons_of_pos _ hp, need_cons]
        rfl
    | false => rw [Sequence.through_cons_of_neg _ hp, need_cons, hthrough]

/-! ### The answer -/

theorem failure?_eq_of_recording_eq (o : Options) (hrecording : t.recording = s.recording)
    (hcurrent : t.current? = s.current?) : failure? o t = failure? o s := by
  have horder : loadOrder o t = loadOrder o s := by
    funext crashed
    unfold loadOrder
    rw [Session.leading_eq_of_recording_eq hrecording]
  unfold failure?
  rw [hcurrent, roster_eq_of_recording_eq o hrecording]
  cases s.current? with
  | none => rfl
  | some crashed =>
      dsimp only
      rw [horder, Session.owners_eq_of_recording_eq _ hrecording,
        Session.objection_eq_of_recording_eq hrecording]

theorem loadsBefore_eq_of_recording_eq (o : Options) (hrecording : t.recording = s.recording)
    (crashed : ThreadRecord) : loadsBefore o t crashed = loadsBefore o s crashed := by
  have hvisits : visits t crashed.number = visits s crashed.number := by
    unfold visits
    rw [Session.thread?_eq_of_recording_eq hrecording,
      Session.threads_eq_of_recording_eq hrecording]
  funext record
  unfold loadsBefore need
  simp only [roster_eq_of_recording_eq o hrecording, hvisits,
    Loader.needs_eq_of_recording_eq hrecording]

/-- Two sessions of one recording are reported alike if the same names are known in them when
each stack is read. -/
theorem reportOf_eq_of_known_eq (o : Options) (hrecording : t.recording = s.recording)
    (hknown : ∀ record, (t.after (loadsBefore o s crashed record)).symbolsKnown =
      (s.after (loadsBefore o s crashed record)).symbolsKnown) :
    reportOf o t crashed = reportOf o s crashed := by
  have hstack : stackFor o t crashed = stackFor o s crashed := by
    funext record
    unfold stackFor
    rw [loadsBefore_eq_of_recording_eq o hrecording, roster_eq_of_recording_eq o hrecording]
    apply Unwind.stackOf_eq_of_known_eq
    · rw [Session.recording_after, Session.recording_after, hrecording]
    · exact hknown record
  have hpath : t.programPath = s.programPath := Session.eq_of_recording_eq (fun _ => rfl) hrecording
  have hbuildId : t.programBuildId = s.programBuildId :=
    Session.eq_of_recording_eq (fun _ => rfl) hrecording
  unfold reportOf
  rw [hstack, hpath, hbuildId, Session.threads_eq_of_recording_eq hrecording,
    Session.leading_eq_of_recording_eq hrecording, roster_eq_of_recording_eq o hrecording,
    handlerMessage_eq_of_recording_eq hrecording, qmlStack_eq_of_recording_eq o _ hrecording]

/-- What has been loaded by a first investigation would be loaded before each stack anyway. -/
theorem symbolsKnown_again (htier : o.tier ≠ .some)
    (hfirst : s.thread? crashed.number = some crashed) {issued : List Session.Load}
    (hissued : issued = ({ tier := o.tier } : Loader).requests
      ((roster debugger o s).1.owners s (loadOrder o s crashed)))
    (ht : t.aside = ((started o s).after issued).aside) (record : ThreadRecord) :
    (t.after (loadsBefore o s crashed record)).symbolsKnown =
      (s.after (loadsBefore o s crashed record)).symbolsKnown := by
  have hsame : issued = loadsBefore o s crashed record := by
    unfold loadsBefore
    rw [need_through htier, need_visits o _ s hfirst, hissued]
  have haside : (t.after (loadsBefore o s crashed record)).aside =
      (((started o s).after issued).after (loadsBefore o s crashed record)).aside := by
    rw [Session.aside_after, Session.aside_after, ht]
  have hknown := congrArg Session.symbolsKnown haside
  calc (t.after (loadsBefore o s crashed record)).symbolsKnown
      = (((started o s).after issued).after (loadsBefore o s crashed record)).symbolsKnown := hknown
    _ = ((started o s).after (loadsBefore o s crashed record)).symbolsKnown :=
        Session.symbolsKnown_after_after fun file h => hsame ▸ h
    _ = (s.after (loadsBefore o s crashed record)).symbolsKnown := symbolsKnown_after_started _ _ _

/-- An investigation that is made a second time gives the same answer, unless images are loaded
for every thread. -/
theorem investigate_again (hcrashed : s.current? = some crashed)
    (hvalid : crashed.thread.valid = true) (htier : o.tier ≠ .some) :
    (investigate debugger o (investigate debugger o s).2).1 = (investigate debugger o s).1 := by
  have hfirst := Session.thread?_of_current?_eq_some hcrashed
  have hleft := investigate_snd_eq o hcrashed hvalid
  generalize (investigate debugger o s).2 = t at hleft
  have haside := congrArg Session.aside hleft
  have hrecording : t.recording = s.recording :=
    (Session.recording_eq_of_aside_eq haside).trans (Session.recording_after (started o s) _)
  have hcurrent : t.current? = some crashed := by
    have hselected : t.selected = some crashed.number := congrArg Session.selected hleft
    unfold Session.current?
    rw [hselected, Option.bind_some, Session.thread?_eq_of_recording_eq hrecording, hfirst]
  rw [investigate_eq o hcurrent, investigate_eq o hcrashed,
    failure?_eq_of_recording_eq o hrecording (hcurrent.trans hcrashed.symm)]
  cases hfailure : failure? o s with
  | some failure => rfl
  | none =>
      -- no load has ended the first run, so it has asked for all files
      have hobjection := ((failure?_eq_none_iff hcrashed).1 hfailure).1
      have hknown := symbolsKnown_again htier hfirst (Loader.issued_eq_requests hobjection) haside
      dsimp only
      rw [reportOf_eq_of_known_eq o hrecording hknown]

theorem investigate_again_libraries : libraries.current?.isSome ∧ ∃ report,
    (investigate debugger { tier := .little } libraries).1 = .ok report ∧
    (investigate debugger { tier := .little }
      (investigate debugger { tier := .little } libraries).2).1 = .ok report := by
  obtain ⟨crashed, hcrashed, hvalid⟩ : ∃ crashed, libraries.current? = some crashed ∧
      crashed.thread.valid = true := ⟨_, rfl, rfl⟩
  obtain ⟨report, hreport⟩ := exists_report_libraries .little
  refine ⟨rfl, report, hreport, ?_⟩
  rw [investigate_again hcrashed hvalid (by decide), hreport]

end CrashReport.Investigation
