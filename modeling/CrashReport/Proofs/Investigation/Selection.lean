import CrashReport.Proofs.Investigation.Again
import CrashReport.Proofs.Investigation.Keeping

/-!
# The selection afterwards

An investigation ends with the attempt to select the crashed thread again. That succeeds if the
thread is valid. If it is not, the selection stays with a thread that was traced last, unless
none could be traced; and a selected thread that is not listed is never left in the first place.

* **`Session.Barred`** — no thread of a number can be selected;
* **`selected_investigate_eq_iff`** — the sessions in which the selection is put back;
* **`selected_investigate_fallen`** — one in which it is not.
-/

namespace CrashReport

open Session (ThreadRecord debugger)

namespace Session

variable {s t : Session} {number other : UInt32}

/-- Threads of this number cannot be selected. -/
def Barred (s : Session) (number : UInt32) : Prop :=
  ∀ record, s.thread? number = some record → record.thread.valid = false

theorem Barred.of_recording_eq (h : s.Barred number) (hrecording : t.recording = s.recording) :
    t.Barred number := by
  intro record hrecord
  rw [thread?_eq_of_recording_eq hrecording] at hrecord
  exact h record hrecord

/-- A thread that can be selected is selected wherever it is asked for. -/
theorem perform_switchThread_of_not_barred (hfree : ¬ s.Barred number)
    (hrecording : t.recording = s.recording) :
    debugger.perform (.switchThread number) t = (.ok (), t.select number) := by
  obtain ⟨record, hrecord, hvalid⟩ : ∃ record, s.thread? number = some record ∧
      record.thread.valid = true := by
    simpa [Barred] using hfree
  exact perform_switchThread ((thread?_eq_of_recording_eq hrecording _).trans hrecord) hvalid

/-- A request that does not select a thread leaves the selected one. -/
theorem selected_perform {α : Type} (request : Request α) (s : Session) :
    (perform request s).2.selected = s.selected ∨
      ∃ number, ¬ s.Barred number ∧ (perform request s).2.selected = some number := by
  cases request with
  | switchThread number =>
      by_cases h : s.Barred number
      · rw [perform_switchThread_of_refused h]
        exact .inl rfl
      · have hswitch : perform (.switchThread number) s = _ :=
          perform_switchThread_of_not_barred h rfl
        rw [hswitch]
        exact .inr ⟨number, h, rfl⟩
  | selectNewest | selectOlder | selectFrame =>
      simp only [perform]
      split <;> exact .inl rfl
  | evaluate | mappings | buildIdAt | load =>
      simp only [perform]
      split <;> exact .inl rfl
  | pc | frameKind | symbols | registers | staticText => exact .inl rfl

/-- Where nothing can be selected, the selection stays. -/
theorem keepsAll_selected (h : ∀ number, s.Barred number) :
    debugger.KeepsAll fun t => t.recording = s.recording ∧ t.selected = s.selected where
  perform := by
    intro α request t ⟨hrecording, hselected⟩
    refine ⟨(recording_perform request t).trans hrecording, ?_⟩
    rcases selected_perform request t with hkept | ⟨number, hfree, -⟩
    · exact hkept.trans hselected
    · exact absurd ((h number).of_recording_eq hrecording) hfree
  allowDownloads := fun _ _ h => h

/-- A selection that has left a thread which cannot be selected does not come back to it. -/
theorem keepsAll_selected_ne (h : s.Barred number) :
    debugger.KeepsAll fun t => t.recording = s.recording ∧ t.selected ≠ some number where
  perform := by
    intro α request t ⟨hrecording, hselected⟩
    refine ⟨(recording_perform request t).trans hrecording, ?_⟩
    intro heq
    rcases selected_perform request t with hkept | ⟨other, hfree, hother⟩
    · exact hselected (hkept.symm.trans heq)
    · obtain rfl := Option.some.inj (hother.symm.trans heq)
      exact hfree (h.of_recording_eq hrecording)
  allowDownloads := fun _ _ h => h

end Session

namespace Investigation

variable {o : Options} {r : Roster} {s t : Session} {crashed : ThreadRecord}
  {number other : UInt32}

theorem barred_of_leading_eq_nil (h : s.leading = []) (number : UInt32) : s.Barred number := by
  intro record hrecord
  apply Bool.eq_false_iff.2
  intro hvalid
  obtain rfl := Session.number_of_thread?_eq_some hrecord
  have hmem := Session.mem_leading_iff.2 ⟨hvalid, hrecord⟩
  rw [h] at hmem
  cases hmem

theorem number_ne_of_mem_leading {record : ThreadRecord} (h : record ∈ s.leading)
    (hbarred : s.Barred number) : record.number ≠ number := by
  rintro rfl
  obtain ⟨hvalid, hrecord⟩ := Session.mem_leading_iff.1 h
  rw [hbarred record hrecord] at hvalid
  cases hvalid

/-! ### Selections that are put back -/

theorem selected_of_current?_eq_some (h : s.current? = some crashed) :
    s.selected = some crashed.number := by
  obtain ⟨number, hselected, hnumber⟩ := Option.bind_eq_some_iff.1 h
  rw [hselected, Session.number_of_thread?_eq_some hnumber]

theorem selected_toNewestFrame (s : Session) :
    (debugger.toNewestFrame s).selected = s.selected := by
  show (Session.perform .selectNewest s).2.selected = s.selected
  simp only [Session.perform]
  split <;> rfl

theorem selected_investigate_of_current?_eq_none (h : s.current? = none) :
    (investigate debugger o s).2.selected = s.selected := by
  rw [investigate_snd_of_current?_eq_none o h]
  cases hselected : s.selected with
  | none => exact (selected_toNewestFrame s).trans hselected
  | some number =>
      have hbarred : s.Barred number := by
        intro record hrecord
        unfold Session.current? at h
        rw [hselected, Option.bind_some, hrecord] at h
        cases h
      have hswitch : debugger.perform (.switchThread number) s =
          (.error (.invalidThread number), s) := Session.perform_switchThread_of_refused hbarred
      show (debugger.toNewestFrame (debugger.perform (.switchThread number) s).2).selected = _
      rw [hswitch]
      exact (selected_toNewestFrame s).trans hselected

/-! ### Selections that are lost -/

theorem selected_select_ne (hrecording : t.recording = s.recording) (hbarred : s.Barred number)
    (hfree : ¬ s.Barred other) :
    (t.select other).recording = s.recording ∧ (t.select other).selected ≠ some number := by
  refine ⟨hrecording, fun heq => ?_⟩
  rw [Option.some.inj heq] at hfree
  exact hfree hbarred

/-- The images of a thread may not be the expected ones, but then it has been selected. -/
theorem selected_loadThread_ne (l : Loader) (r : Roster) {thread : Thread} (isCrashed : Bool)
    (hrecording : t.recording = s.recording) (hbarred : s.Barred number)
    (hfree : ¬ s.Barred thread.number) :
    (l.loadThread debugger r thread isCrashed t).2.2.recording = s.recording ∧
      ∀ failure, (l.loadThread debugger r thread isCrashed t).1 = .error failure →
        (l.loadThread debugger r thread isCrashed t).2.2.selected ≠ some number := by
  cases hloads : l.tier.loads isCrashed with
  | true =>
      obtain ⟨hkept, hne⟩ := Loader.keeps_loadThread_of_select
        (Session.keepsAll_selected_ne hbarred).within l r hloads
        (Session.perform_switchThread_of_not_barred hfree hrecording)
        (selected_select_ne hrecording hbarred hfree)
      exact ⟨hkept, fun _ _ => hne⟩
  | false =>
      -- nothing has been asked for yet
      unfold Loader.loadThread
      rw [if_neg (Bool.eq_false_iff.1 hloads)]
      exact ⟨hrecording, fun _ h => nomatch h⟩

/-- A thread that can be selected is not left for one that cannot. -/
theorem selected_trace_ne {p : Progress} {thread : Thread} (hnone : p.traced = [])
    (hrecording : t.recording = s.recording) (hbarred : s.Barred number)
    (hfree : ¬ s.Barred thread.number) :
    (p.trace debugger o r number thread t).2.2.recording = s.recording ∧
      (p.trace debugger o r number thread t).2.2.selected ≠ some number := by
  have hload := selected_loadThread_ne p.loader r (thread.number = number) hrecording hbarred hfree
  unfold Progress.trace
  rw [if_neg (by simp [hnone])]
  dsimp only
  generalize p.loader.loadThread debugger r thread _ t = run at hload ⊢
  obtain ⟨hkept, herror⟩ := hload
  obtain ⟨failure | count, l, u⟩ := run
  · exact ⟨hkept, herror failure rfl⟩
  · have hunwind := Unwind.keeps_unwind_of_select (Session.keepsAll_selected_ne hbarred).keeps r
      (unwindOptions o (thread.number = number))
      (Session.perform_switchThread_of_not_barred hfree hkept)
      (selected_select_ne hkept hbarred hfree)
    dsimp only
    split
    · rename_i heq
      rwa [heq] at hunwind
    · rename_i heq
      rwa [heq] at hunwind

/-- The selection has left the crashed thread, or it will do so for one that is ahead. -/
theorem selected_traceOthers_ne {ahead : List ThreadRecord} {p : Progress}
    (hrecording : t.recording = s.recording) (hbarred : s.Barred number)
    (h : t.selected ≠ some number ∨ p.traced = [] ∧ ∃ record ∈ ahead, record ∈ s.leading) :
    (traceOthers debugger o r number (ahead.map ThreadRecord.thread) p t).2.2.recording =
        s.recording ∧
      (traceOthers debugger o r number (ahead.map ThreadRecord.thread) p t).2.2.selected ≠
        some number := by
  have hd := Session.keepsAll_selected_ne hbarred
  induction ahead generalizing p t with
  | nil =>
      rcases h with hne | ⟨-, record, hmem, -⟩
      · exact ⟨hrecording, hne⟩
      · cases hmem
  | cons x ahead ih =>
      rcases h with hne | ⟨hnone, record, hmem, hleading⟩
      · exact keeps_traceOthers hd _ p ⟨hrecording, hne⟩
      · have hne := number_ne_of_mem_leading hleading hbarred
        obtain ⟨hvalid, hfirst⟩ := Session.mem_leading_iff.1 hleading
        -- a thread that is passed over is not the one that is ahead
        have hahead : x ≠ record → ∃ record ∈ ahead, record ∈ s.leading := by
          intro hother
          exact ⟨record, (List.mem_cons.1 hmem).resolve_left (Ne.symm hother), hleading⟩
        rw [List.map_cons]
        unfold traceOthers
        by_cases hskip : (x.thread.number = number || !x.thread.valid) = true
        · rw [if_pos hskip]
          refine ih hrecording (.inr ⟨hnone, hahead ?_⟩)
          rintro rfl
          simp [hne, hvalid] at hskip
        · rw [if_neg hskip]
          by_cases hfree : s.Barred x.thread.number
          · have hnew : x.thread.number ∉ p.traced.map Prod.fst := by simp [hnone]
            rw [trace_of_refused hnew (hfree.of_recording_eq hrecording)]
            refine ih hrecording (.inr ⟨hnone, hahead ?_⟩)
            rintro rfl
            rw [hfree x hfirst] at hvalid
            cases hvalid
          · have htrace := selected_trace_ne (o := o) (r := r) hnone hrecording hbarred hfree
            generalize p.trace debugger o r number x.thread t = run at htrace ⊢
            obtain ⟨failure | answer, p', t'⟩ := run
            · cases failure with
              | debugger reason => exact keeps_traceOthers hd _ p' htrace
              | unexpectedImage | noBuildId | noCrashedThread => exact htrace
            · exact keeps_traceOthers hd _ p' htrace

theorem opening_eq (o : Options) (s : Session) :
    opening debugger o s = ((roster debugger o s).1, started o s) := by
  unfold opening handlerMessage
  show ((roster debugger o s).1, (Loader.start o.tier debugger (roster debugger o s).2).2) = _
  rw [roster_snd, start_eq]

theorem recording_opening (o : Options) (s : Session) :
    (opening debugger o s).2.recording = s.recording := by
  rw [opening_eq]
  rfl

/-- The thread that has crashed is not valid, so another one stays selected. -/
theorem selected_investigate_ne (hcrashed : s.current? = some crashed)
    (hvalid : crashed.thread.valid = false) (hleading : s.leading ≠ []) :
    (investigate debugger o s).2.selected ≠ s.selected := by
  have hfirst := Session.thread?_of_current?_eq_some hcrashed
  have hbarred : s.Barred crashed.number := by
    intro record hrecord
    rw [hfirst] at hrecord
    rwa [← Option.some.inj hrecord]
  have hd := Session.keepsAll_selected_ne hbarred
  obtain ⟨record, hrecord⟩ := List.exists_mem_of_ne_nil _ hleading
  have hlisted : record ∈ s.threads := by
    obtain ⟨-, hthread⟩ := Session.mem_leading_iff.1 hrecord
    exact List.mem_of_find?_eq_some hthread
  have htraced := selected_traceOthers_ne (o := o) (r := (opening debugger o s).1)
    (p := { loader := { tier := o.tier } }) (recording_opening o s) hbarred
    (.inr ⟨rfl, record, hlisted, hrecord⟩)
  have hthread := keeps_investigateThread_of_traceAll (o := o) (s := s) hd crashed.thread (by
    unfold traceAll
    rw [if_neg (Bool.eq_false_iff.1 hvalid)]
    exact htraced)
  rw [investigate_of_current?_eq_some o hcrashed, selected_of_current?_eq_some hcrashed]
  exact (Debugger.Keeps.keepingThread hd.keeps hthread).2

/-- The thread that was selected is selected again, unless it is listed but not valid, and
another thread can be selected. -/
theorem selected_investigate_eq_iff (o : Options) (s : Session) :
    (investigate debugger o s).2.selected = s.selected ↔
      ∀ crashed, s.current? = some crashed →
        crashed.thread.valid = true ∨ s.leading = [] := by
  constructor
  · intro hselected crashed hcrashed
    rw [or_iff_not_imp_left, Bool.not_eq_true]
    intro hvalid
    by_contra hleading
    exact selected_investigate_ne hcrashed hvalid hleading hselected
  · intro h
    cases hcurrent : s.current? with
    | none => exact selected_investigate_of_current?_eq_none hcurrent
    | some crashed =>
        rcases h crashed hcurrent with hvalid | hleading
        · rw [investigate_snd_eq o hcurrent hvalid, selected_of_current?_eq_some hcurrent]
          rfl
        · have hd := Session.keepsAll_selected (barred_of_leading_eq_nil hleading)
          exact (keeps_investigate hd ⟨rfl, rfl⟩).2

/-- A session whose selected thread is not valid any more, though another one is. -/
def fallen : Session where
  selected := some 1
  threads := [
    { thread := { number := 1, id := 4242, valid := false } },
    { thread := { number := 2, id := 4243 }, frames := [{ pc := 4096 }] }]

theorem selected_investigate_fallen :
    fallen.selected = some 1 ∧
      (investigate debugger { tier := .little } fallen).2.selected = some 2 := by
  exact ⟨rfl, rfl⟩

end Investigation

end CrashReport
