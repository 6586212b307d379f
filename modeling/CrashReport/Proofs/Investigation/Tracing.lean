import CrashReport.Investigation
import CrashReport.Proofs.Session.Loading
import CrashReport.Proofs.Session.Unwinding
import Mathlib.Data.List.Forall2

/-!
# Tracing the threads of a session

Of several threads with one number only the first can be selected, so it alone decides
whether a stack is traced for the number. The threads that are traced (`visits`) are the
crashed one and then, in the order of the session, the others that are valid and the first ones
of their numbers.

* **`Session.mem_leading_iff`** — the threads that can be selected, which are those that are visited
  (`mem_visits_iff`);
* **`stacksOf`** — the stacks of some threads in turn, each with the names that are known
  once the images for it and for the threads before it have been loaded;
* **`Visit`** — what comes of tracing some threads in turn: the loads that their frames
  need, and these stacks. `trace_visit` says it of one thread;
* **`Reached`** — how far the tracing of the other threads has come. A thread that is
  passed over leaves it so (`Reached.pass`), and so does one that is traced (`Reached.next`);
* **`traceAll_visit`** — all threads are visited, in the order of `visits`.
-/

namespace CrashReport

open Sequence (firsts)

/-- The number of a recorded thread. -/
abbrev Session.ThreadRecord.number (record : Session.ThreadRecord) : UInt32 :=
  record.thread.number

/-- The threads that can be selected: the valid ones that are the first ones of their
numbers. -/
def Session.leading (s : Session) : List Session.ThreadRecord :=
  (firsts Session.ThreadRecord.number [] s.threads).filter fun record => record.thread.valid

theorem Session.mem_leading_iff {s : Session} {record : Session.ThreadRecord} :
    record ∈ s.leading ↔
      record.thread.valid = true ∧ s.thread? record.number = some record := by
  unfold leading
  rw [List.mem_filter, Sequence.mem_firsts_iff, and_comm]
  exact and_congr_right fun _ => ⟨fun h => h.2, fun h => ⟨List.not_mem_nil, h⟩⟩

theorem Session.nodup_numbers_leading (s : Session) :
    (s.leading.map Session.ThreadRecord.number).Nodup :=
  (Sequence.nodup_keys_firsts [] s.threads).sublist
    (List.filter_sublist.map Session.ThreadRecord.number)

theorem Session.leading_eq_of_recording_eq {s t : Session} (h : s.recording = t.recording) :
    s.leading = t.leading := by
  unfold leading
  rw [Session.threads_eq_of_recording_eq h]

theorem Session.number_of_thread?_eq_some {s : Session} {number : UInt32}
    {record : Session.ThreadRecord} (h : s.thread? number = some record) :
    record.number = number := by
  have hfound := List.find?_some h
  exact of_decide_eq_true hfound

theorem Session.thread?_of_current?_eq_some {s : Session} {record : Session.ThreadRecord}
    (h : s.current? = some record) : s.thread? record.number = some record := by
  obtain ⟨number, -, hnumber⟩ := Option.bind_eq_some_iff.1 h
  rwa [Session.number_of_thread?_eq_some hnumber]

namespace Investigation

open Session (ThreadRecord debugger)

/-- The threads besides the crashed one that are traced out of those that are ahead, when
threads of some numbers have been met. -/
def others (crashed : UInt32) (met : List UInt32) (ahead : List ThreadRecord) :
    List ThreadRecord :=
  (firsts ThreadRecord.number met ahead).filter fun record =>
    record.thread.valid && record.number ≠ crashed

/-- The threads that are traced, in this order. -/
def visits (s : Session) (crashed : UInt32) : List ThreadRecord :=
  ((s.thread? crashed).toList.filter fun record => record.thread.valid) ++
    others crashed [] s.threads

/-- Every visited thread can be selected, and every thread that can be selected is visited. -/
theorem mem_visits_iff {s : Session} {crashed : UInt32} {record : ThreadRecord} :
    record ∈ visits s crashed ↔ record ∈ s.leading := by
  unfold visits others
  simp only [List.mem_append, List.mem_filter, Option.mem_toList, Bool.and_eq_true,
    Sequence.mem_firsts_iff, Session.mem_leading_iff, decide_eq_true_eq]
  constructor
  · rintro (⟨hrecord, hvalid⟩ | ⟨⟨-, hfirst⟩, hvalid, -⟩)
    · refine ⟨hvalid, ?_⟩
      rwa [Session.number_of_thread?_eq_some hrecord]
    · exact ⟨hvalid, hfirst⟩
  · rintro ⟨hvalid, hfirst⟩
    by_cases hcrashed : record.number = crashed
    · exact .inl ⟨hcrashed ▸ hfirst, hvalid⟩
    · exact .inr ⟨⟨List.not_mem_nil, hfirst⟩, hvalid, hcrashed⟩

/-- The stack is what unwinding the thread, as the crashed one or as another, gives on the
session, with something selected and some images loaded in it. -/
def Walked (o : Options) (roster : Roster) (s : Session) (isCrashed : Bool)
    (record : ThreadRecord) (stack : Stack) : Prop :=
  ∃ t : Session, t.recording = s.recording ∧
    (Unwind.unwind debugger roster record.thread (unwindOptions o isCrashed) t).1 = .ok stack

/-- The images that threads need, one after the other. -/
def need (o : Options) (roster : Roster) (s : Session) (crashed : UInt32)
    (records : List ThreadRecord) : List Image :=
  records.flatMap fun record => Loader.needs o.tier roster s (record.number = crashed) record

/-- The stacks of threads in turn, under their numbers. Each one is read when its images have
been attempted, after some that were attempted before. -/
def stacksOf (o : Options) (roster : Roster) (s₀ : Session) (crashed : UInt32) (l : Loader)
    (s : Session) : (before : List Image) → List ThreadRecord → List (UInt32 × Stack)
  | _, [] => []
  | before, record :: rest =>
    let images := before ++ Loader.needs o.tier roster s₀ (record.number = crashed) record
    (record.number, Unwind.stackOf roster (unwindOptions o (record.number = crashed))
      (s.after (l.requests images)) record) :: stacksOf o roster s₀ crashed l s images rest

/-- What was captured, when the stacks of threads have been read. Only that of the crashed
thread counts. -/
def tally (crashed : UInt32) (captured : Unwind.Captured) (entries : List (UInt32 × Stack)) :
    Unwind.Captured :=
  (entries.filter fun entry => entry.1 = crashed).foldl
    (fun captured entry => addCaptured captured (Unwind.captured entry.2)) captured

variable {o : Options} {roster : Roster} {s₀ s : Session} {crashed : UInt32} {p : Progress}

theorem need_cons (record : ThreadRecord) (rest : List ThreadRecord) :
    need o roster s₀ crashed (record :: rest) =
      Loader.needs o.tier roster s₀ (record.number = crashed) record ++
        need o roster s₀ crashed rest := List.flatMap_cons

theorem stacksOf_cons (l : Loader) (before : List Image) (record : ThreadRecord)
    (rest : List ThreadRecord) {images : List Image}
    (himages : images = before ++ Loader.needs o.tier roster s₀ (record.number = crashed) record) :
    stacksOf o roster s₀ crashed l s before (record :: rest) =
      (record.number, Unwind.stackOf roster (unwindOptions o (record.number = crashed))
        (s.after (l.requests images)) record) :: stacksOf o roster s₀ crashed l s images rest := by
  rw [himages]
  rfl

theorem stacksOf_append (l : Loader) (before : List Image) (records more : List ThreadRecord) :
    stacksOf o roster s₀ crashed l s before (records ++ more) =
      stacksOf o roster s₀ crashed l s before records ++
        stacksOf o roster s₀ crashed l s (before ++ need o roster s₀ crashed records) more := by
  induction records generalizing before with
  | nil =>
      unfold need
      rw [List.flatMap_nil, List.append_nil]
      rfl
  | cons record rest ih =>
      rw [List.cons_append, need_cons, ← List.append_assoc, stacksOf_cons l before record _ rfl,
        stacksOf_cons l before record _ rfl, ih]
      rfl

/-- The stacks are the same seen from where some of the images have been attempted. -/
theorem stacksOf_of_attempts {images : List Image} {l l' : Loader} {s' : Session}
    (h : Loader.Attempts images l l' s s') (before : List Image) (records : List ThreadRecord) :
    stacksOf o roster s₀ crashed l s (images ++ before) records =
      stacksOf o roster s₀ crashed l' s' before records := by
  induction records generalizing before with
  | nil => rfl
  | cons record rest ih =>
      have haside : ∀ more, (s.after (l.requests (images ++ more))).aside =
          (s'.after (l'.requests more)).aside := by
        intro more
        rw [Session.aside_after, Session.aside_after, h.aside, h.requests_append,
          Session.after_append]
      rw [stacksOf_cons l _ record rest (List.append_assoc ..).symm,
        stacksOf_cons l' _ record rest rfl, ih,
        Unwind.stackOf_eq_of_aside_eq roster _ record (haside _)]

theorem tally_append (captured : Unwind.Captured) (entries more : List (UInt32 × Stack)) :
    tally crashed captured (entries ++ more) =
      tally crashed (tally crashed captured entries) more := by
  unfold tally
  rw [List.filter_append, List.foldl_append]

/-- What comes of tracing threads in turn. -/
structure Visit (o : Options) (roster : Roster) (s₀ : Session) (crashed : UInt32)
    (records : List ThreadRecord) (p : Progress) (s : Session)
    (run : Except Failure Unit × Progress × Session) : Prop where
  recording : s.recording = s₀.recording
  selectable : run.1 = .ok () → ∀ record ∈ records,
    record.thread.valid = true ∧ s₀.thread? record.number = some record
  loading : Loader.Outcome (need o roster s₀ crashed records) p.loader s
    (run.1, run.2.1.loader, run.2.2)
  traced : run.1 = .ok () → run.2.1.traced =
    (stacksOf o roster s₀ crashed p.loader s [] records).reverse ++ p.traced
  captured : run.1 = .ok () → run.2.1.captured =
    tally crashed p.captured (stacksOf o roster s₀ crashed p.loader s [] records)

theorem Visit.nil (h : s.recording = s₀.recording) :
    Visit o roster s₀ crashed [] p s (.ok (), p, s) where
  recording := h
  selectable := fun _ _ hmem => nomatch hmem
  loading := Loader.outcome_nil ⟨(), rfl⟩ rfl rfl
  traced := fun _ => rfl
  captured := fun _ => rfl

theorem Visit.append {records more : List ThreadRecord}
    {run whole : Except Failure Unit × Progress × Session}
    (h : Visit o roster s₀ crashed records p s run)
    (herror : ∀ failure, run.1 = .error failure → whole = run)
    (hok : run.1 = .ok () → Visit o roster s₀ crashed more run.2.1 run.2.2 whole) :
    Visit o roster s₀ crashed (records ++ more) p s whole := by
  -- if the whole run ends well, so do both parts, and the stacks of the parts are put together
  have hparts : whole.1 = .ok () → ∃ hrun : run.1 = .ok (),
      stacksOf o roster s₀ crashed p.loader s [] (records ++ more) =
        stacksOf o roster s₀ crashed p.loader s [] records ++
          stacksOf o roster s₀ crashed run.2.1.loader run.2.2 [] more := by
    intro hwhole
    cases hrun : run.1 with
    | error failure =>
        rw [herror failure hrun, hrun] at hwhole
        cases hwhole
    | ok answer =>
        have hattempts := h.loading.attempts hrun
        refine ⟨rfl, ?_⟩
        rw [stacksOf_append, List.nil_append, ← stacksOf_of_attempts hattempts, List.append_nil]
  refine ⟨h.recording, ?_, ?_, ?_, ?_⟩
  · intro hwhole record hrecord
    obtain ⟨hrun, -⟩ := hparts hwhole
    rcases List.mem_append.1 hrecord with hmem | hmem
    · exact h.selectable hrun record hmem
    · exact (hok hrun).selectable hwhole record hmem
  · unfold need
    rw [List.flatMap_append]
    refine h.loading.append ?_ ?_
    · intro failure hfailure
      rw [herror failure hfailure]
      exact ⟨hfailure, rfl⟩
    · intro answer hanswer _
      exact (hok hanswer).loading
  · intro hwhole
    obtain ⟨hrun, hstacks⟩ := hparts hwhole
    rw [(hok hrun).traced hwhole, h.traced hrun, hstacks, List.reverse_append, List.append_assoc]
  · intro hwhole
    obtain ⟨hrun, hstacks⟩ := hparts hwhole
    rw [(hok hrun).captured hwhole, h.captured hrun, hstacks, tally_append]

/-- The stacks are those of the threads, as they are unwound in the session. -/
theorem forall₂_stacksOf (hrecording : s.recording = s₀.recording) (l : Loader)
    (before : List Image) {records : List ThreadRecord}
    (hselectable : ∀ record ∈ records,
      record.thread.valid = true ∧ s₀.thread? record.number = some record) :
    List.Forall₂ (fun entry record =>
      entry.1 = record.number ∧ Walked o roster s₀ (record.number = crashed) record entry.2)
      (stacksOf o roster s₀ crashed l s before records) records := by
  induction records generalizing before with
  | nil => exact .nil
  | cons record rest ih =>
      obtain ⟨hvalid, hrecord⟩ := hselectable record List.mem_cons_self
      have hafter := fun loads => (Session.recording_after s loads).trans hrecording
      have hselect := fun loads =>
        (Session.thread?_eq_of_recording_eq (hafter loads) record.number).trans hrecord
      have hwalked : ∀ loads, Walked o roster s₀ (record.number = crashed) record
          (Unwind.stackOf roster (unwindOptions o (record.number = crashed)) (s.after loads)
            record) := by
        intro loads
        refine ⟨s.after loads, hafter loads, ?_⟩
        rw [Unwind.unwind_eq roster _ hvalid (hselect loads)]
      rw [stacksOf_cons l before record rest rfl]
      exact .cons ⟨rfl, hwalked _⟩ (ih _ fun r hr => hselectable r (List.mem_cons_of_mem _ hr))

theorem Visit.tracing {records : List ThreadRecord}
    {run : Except Failure Unit × Progress × Session}
    (h : Visit o roster s₀ crashed records p s run) (hok : run.1 = .ok ()) :
    ∃ entries : List (UInt32 × Stack), run.2.1.traced = entries.reverse ++ p.traced ∧
      List.Forall₂ (fun entry record =>
        entry.1 = record.number ∧ Walked o roster s₀ (record.number = crashed) record entry.2)
        entries records :=
  ⟨_, h.traced hok, forall₂_stacksOf h.recording p.loader [] (h.selectable hok)⟩

/-! ### One thread -/

theorem any_traced_iff {number : UInt32} :
    (p.traced.any fun entry => entry.1 = number) = true ↔ number ∈ p.traced.map Prod.fst := by
  simp only [List.any_eq_true, decide_eq_true_eq, List.mem_map]

/-- A thread that has not been traced yet, and that can be selected. -/
theorem trace_visit {record : ThreadRecord} (htier : p.loader.tier = o.tier)
    (hrecording : s.recording = s₀.recording) (hvalid : record.thread.valid = true)
    (hrecord : s₀.thread? record.number = some record)
    (hnew : record.number ∉ p.traced.map Prod.fst) :
    Visit o roster s₀ crashed [record] p s
      (p.trace debugger o roster crashed record.thread s) := by
  have hany : ¬ (p.traced.any fun entry => entry.1 = record.thread.number) = true :=
    mt any_traced_iff.1 hnew
  have hselect : s.thread? record.thread.number = some record :=
    (Session.thread?_eq_of_recording_eq hrecording _).trans hrecord
  have hneed : need o roster s₀ crashed [record] =
      Loader.needs o.tier roster s₀ (record.number = crashed) record := by
    rw [need_cons]
    exact List.append_nil _
  have hload : Loader.Outcome (need o roster s₀ crashed [record]) p.loader s
      (p.loader.loadThread debugger roster record.thread (record.thread.number = crashed) s) := by
    rw [hneed, ← Loader.needs_eq_of_recording_eq hrecording, ← htier]
    exact Loader.loadThread_outcome p.loader roster _ hvalid hselect
  unfold Progress.trace
  rw [if_neg hany]
  dsimp only
  generalize p.loader.loadThread debugger roster record.thread _ s = run at hload ⊢
  obtain ⟨answer, l, t⟩ := run
  cases answer with
  | error failure =>
      exact ⟨hrecording, fun h => (nomatch h), hload.map fun _ => (), fun h => (nomatch h),
        fun h => nomatch h⟩
  | ok count =>
      -- the thread is unwound in the session that its loads leave
      have hattempts := hload.attempts rfl
      have ht : t.recording = s₀.recording := hattempts.recording.trans hrecording
      have hunwind := Unwind.unwind_eq roster (unwindOptions o (record.thread.number = crashed))
        hvalid ((Session.thread?_eq_of_recording_eq ht _).trans hrecord)
      have haside : (s.after (p.loader.requests (need o roster s₀ crashed [record]))).aside =
          t.aside := by
        rw [Session.aside_after]
        exact hattempts.aside.symm
      have hstacks : stacksOf o roster s₀ crashed p.loader s [] [record] = [(record.number,
          Unwind.stackOf roster (unwindOptions o (record.number = crashed)) t record)] := by
        rw [stacksOf_cons p.loader [] record [] hneed,
          Unwind.stackOf_eq_of_aside_eq roster _ record haside]
        rfl
      dsimp only
      rw [hunwind]
      dsimp only
      refine ⟨hrecording, fun _ other hother => ?_, (hload.map fun _ => ()).then_select rfl,
        fun _ => ?_, fun _ => ?_⟩
      · rw [List.mem_singleton.1 hother]
        exact ⟨hvalid, hrecord⟩
      · rw [hstacks]
        rfl
      · unfold tally
        rw [hstacks, List.filter_singleton]
        by_cases hcrashed : record.number = crashed
        · rw [decide_eq_true hcrashed]
          exact if_pos (congrArg some hcrashed)
        · rw [decide_eq_false hcrashed]
          exact if_neg (mt Option.some.inj hcrashed)

theorem trace_of_traced {thread : Thread} (h : thread.number ∈ p.traced.map Prod.fst) :
    p.trace debugger o roster crashed thread s = (.ok (), p, s) := if_pos (any_traced_iff.2 h)

/-- A thread that cannot be selected leaves everything as it is. -/
theorem trace_of_refused {thread : Thread} (hnew : thread.number ∉ p.traced.map Prod.fst)
    (hrefused : ∀ record, s.thread? thread.number = some record → record.thread.valid = false) :
    p.trace debugger o roster crashed thread s =
      (.error (.debugger (.invalidThread thread.number)), p, s) := by
  have hany := mt any_traced_iff.1 hnew
  have hswitch : debugger.perform (.switchThread thread.number) s =
      (.error (.invalidThread thread.number), s) :=
    Session.perform_switchThread_of_refused hrefused
  unfold Progress.trace
  rw [if_neg hany]
  dsimp only
  rw [Loader.loadThread_of_refused p.loader roster _ hrefused]
  cases p.loader.tier.loads (thread.number = crashed) with
  | true => rfl
  | false =>
      rw [if_neg Bool.false_ne_true]
      dsimp only
      unfold Unwind.unwind
      rw [hswitch]

/-! ### The other threads -/

/-- Threads of some numbers have been met, and the others are ahead. Of those that have been
met, besides the crashed one, the ones that can be selected have been traced. -/
structure Reached (o : Options) (s₀ : Session) (crashed : UInt32) (met : List UInt32)
    (ahead : List ThreadRecord) (p : Progress) (s : Session) : Prop where
  tier : p.loader.tier = o.tier
  recording : s.recording = s₀.recording
  first : ∀ number, number ∉ met →
    s₀.thread? number = ahead.find? fun record => record.thread.number = number
  fresh : ∀ number, number ∉ met → number ≠ crashed → number ∉ p.traced.map Prod.fst
  traced : ∀ number record, number ∈ met → number ≠ crashed →
    s₀.thread? number = some record → record.thread.valid = true →
      number ∈ p.traced.map Prod.fst

variable {met : List UInt32} {record : ThreadRecord} {ahead : List ThreadRecord}

theorem Reached.first_of_notMem (h : Reached o s₀ crashed met (record :: ahead) p s)
    (hmet : record.number ∉ met) : s₀.thread? record.number = some record := by
  rw [h.first _ hmet]
  exact List.find?_cons_of_pos (decide_eq_true rfl)

theorem Reached.first_mark (h : Reached o s₀ crashed met (record :: ahead) p s) (number : UInt32)
    (hnumber : number ∉ Sequence.mark ThreadRecord.number met record) :
    s₀.thread? number = ahead.find? fun record => record.thread.number = number := by
  rw [Sequence.mem_mark_iff, not_or] at hnumber
  rw [h.first number hnumber.1]
  exact List.find?_cons_of_neg fun heq => hnumber.2 (of_decide_eq_true heq).symm

/-- A thread is passed over if it is the crashed one, if its number has been met, or if it is
not valid. -/
theorem Reached.pass (h : Reached o s₀ crashed met (record :: ahead) p s)
    (hpass : record.number ∈ met ∨ record.number = crashed ∨ record.thread.valid = false) :
    Reached o s₀ crashed (Sequence.mark ThreadRecord.number met record) ahead p s where
  tier := h.tier
  recording := h.recording
  first := h.first_mark
  fresh := by
    intro number hnumber
    rw [Sequence.mem_mark_iff, not_or] at hnumber
    exact h.fresh number hnumber.1
  traced := by
    intro number first hnumber hne hfirst hvalid
    by_cases hmet : number ∈ met
    · exact h.traced number first hmet hne hfirst hvalid
    · rcases Sequence.mem_mark_iff.1 hnumber with hin | rfl
      · exact absurd hin hmet
      · rcases hpass with hin | hcrashed | hinvalid
        · exact absurd hin hmet
        · exact absurd hcrashed hne
        · -- it is the first of its number, and not valid
          rw [h.first_of_notMem hmet] at hfirst
          cases hfirst
          rw [hinvalid] at hvalid
          cases hvalid

/-- A thread has been traced, and its stack is kept under its number. -/
theorem Reached.next {p' : Progress} {s' : Session}
    (h : Reached o s₀ crashed met (record :: ahead) p s) (htier : p'.loader.tier = o.tier)
    (hrecording : s'.recording = s₀.recording)
    (htraced : p'.traced.map Prod.fst = record.number :: p.traced.map Prod.fst) :
    Reached o s₀ crashed (Sequence.mark ThreadRecord.number met record) ahead p' s' where
  tier := htier
  recording := hrecording
  first := h.first_mark
  fresh := by
    intro number hnumber hne
    rw [Sequence.mem_mark_iff, not_or] at hnumber
    rw [htraced, List.mem_cons, not_or]
    exact ⟨hnumber.2, h.fresh number hnumber.1 hne⟩
  traced := by
    intro number first hnumber hne hfirst hvalid
    rw [htraced, List.mem_cons]
    rcases Sequence.mem_mark_iff.1 hnumber with hmet | heq
    · exact .inr (h.traced number first hmet hne hfirst hvalid)
    · exact .inl heq

theorem others_cons_pass
    (h : record.number ∈ met ∨ record.number = crashed ∨ record.thread.valid = false) :
    others crashed met (record :: ahead) =
      others crashed (Sequence.mark ThreadRecord.number met record) ahead := by
  unfold others Sequence.mark
  by_cases hmet : record.number ∈ met
  · rw [Sequence.firsts_cons_of_mem _ hmet, if_pos hmet]
  · have hkept : ¬ (record.thread.valid && decide (record.number ≠ crashed)) = true := by
      rcases h.resolve_left hmet with hcrashed | hinvalid
      · simp [hcrashed]
      · simp [hinvalid]
    rw [Sequence.firsts_cons_of_notMem _ hmet, if_neg hmet, List.filter_cons, if_neg hkept]

theorem others_cons_next (hmet : record.number ∉ met) (hne : record.number ≠ crashed)
    (hvalid : record.thread.valid = true) :
    others crashed met (record :: ahead) =
      [record] ++ others crashed (Sequence.mark ThreadRecord.number met record) ahead := by
  unfold others Sequence.mark
  have hkept : (record.thread.valid && decide (record.number ≠ crashed)) = true := by
    simp [hvalid, hne]
  rw [Sequence.firsts_cons_of_notMem _ hmet, if_neg hmet, List.filter_cons, if_pos hkept]
  rfl

/-- One visit adds one number. -/
theorem Visit.numbers {run : Except Failure Unit × Progress × Session}
    (h : Visit o roster s₀ crashed [record] p s run) (hok : run.1 = .ok ()) :
    run.2.1.traced.map Prod.fst = record.number :: p.traced.map Prod.fst := by
  obtain ⟨entries, htraced, hentries⟩ := h.tracing hok
  cases hentries with
  | cons hentry hnil =>
      cases hnil
      rw [htraced, ← hentry.1]
      rfl

theorem Visit.reached {run : Except Failure Unit × Progress × Session}
    (hvisit : Visit o roster s₀ crashed [record] p s run) (hok : run.1 = .ok ())
    (h : Reached o s₀ crashed met (record :: ahead) p s) :
    Reached o s₀ crashed (Sequence.mark ThreadRecord.number met record) ahead run.2.1 run.2.2 := by
  have hattempts := hvisit.loading.attempts hok
  exact h.next (hattempts.tier.trans h.tier) (hattempts.recording.trans h.recording)
    (hvisit.numbers hok)

theorem traceOthers_visit (roster : Roster) (h : Reached o s₀ crashed met ahead p s) :
    Visit o roster s₀ crashed (others crashed met ahead) p s
      (traceOthers debugger o roster crashed (ahead.map ThreadRecord.thread) p s) := by
  induction ahead generalizing met p s with
  | nil => exact Visit.nil h.recording
  | cons record ahead ih =>
      rw [List.map_cons]
      unfold traceOthers
      by_cases hskip : (record.thread.number = crashed || !record.thread.valid) = true
      · have hpass : record.number = crashed ∨ record.thread.valid = false := by
          simpa using hskip
        rw [if_pos hskip, others_cons_pass (.inr hpass)]
        exact ih (h.pass (.inr hpass))
      · have hkept : record.number ≠ crashed ∧ record.thread.valid = true := by
          simpa using hskip
        rw [if_neg hskip]
        by_cases hmet : record.number ∈ met
        · -- the first thread of the number has been traced, or it is one that cannot be selected
          have hrest := ih (h.pass (.inl hmet))
          rw [others_cons_pass (.inl hmet)]
          by_cases htraced : record.number ∈ p.traced.map Prod.fst
          · rw [trace_of_traced htraced]
            exact hrest
          · have hrefused : ∀ first, s.thread? record.number = some first →
                first.thread.valid = false := by
              intro first hfirst
              rw [Session.thread?_eq_of_recording_eq h.recording] at hfirst
              apply Bool.eq_false_iff.2
              intro hvalid
              exact htraced (h.traced _ first hmet hkept.1 hfirst hvalid)
            rw [trace_of_refused htraced hrefused]
            exact hrest
        · have hvisit : Visit o roster s₀ crashed [record] p s
              (p.trace debugger o roster crashed record.thread s) :=
            trace_visit h.tier h.recording hkept.2 (h.first_of_notMem hmet)
              (h.fresh _ hmet hkept.1)
          have hreached := fun hok => hvisit.reached hok h
          rw [others_cons_next hmet hkept.1 hkept.2]
          apply hvisit.append
          · intro failure herror
            -- only a mismatch ends the run, and the selection of this thread is not refused
            obtain ⟨-, image, -, -, -, expected, found, -, rfl⟩ :=
              Session.objection_eq_some_iff.1 (hvisit.loading.objection_eq_some herror)
            generalize p.trace debugger o roster crashed record.thread s = run at herror ⊢
            obtain ⟨answer, p', s'⟩ := run
            cases herror
            rfl
          · intro hok
            have hrest := ih (hreached hok)
            generalize p.trace debugger o roster crashed record.thread s = run at hok hrest ⊢
            obtain ⟨answer, p', s'⟩ := run
            cases hok
            exact hrest

/-! ### All threads -/

/-- All threads of the session are visited, the crashed one first. -/
theorem traceAll_visit (roster : Roster) (htier : p.loader.tier = o.tier)
    (hrecording : s.recording = s₀.recording) (hnone : p.traced = [])
    (hrecord : s₀.thread? crashed = some record) :
    Visit o roster s₀ crashed (visits s₀ crashed) p s
      (traceAll debugger o roster record.thread (s₀.threads.map ThreadRecord.thread) p s) := by
  obtain rfl := Session.number_of_thread?_eq_some hrecord
  -- whether or not the crashed thread has been traced, no number has been met before the others
  have hreached : ∀ p' s', p'.loader.tier = o.tier → s'.recording = s₀.recording →
      (∀ number ∈ p'.traced.map Prod.fst, number = record.number) →
        Reached o s₀ record.number [] s₀.threads p' s' := by
    intro p' s' htier' hrecording' htraced'
    refine ⟨htier', hrecording', fun _ _ => rfl, ?_, fun number _ hmet => nomatch hmet⟩
    intro number _ hne hmem
    exact hne (htraced' number hmem)
  unfold traceAll visits
  rw [hrecord, Option.toList_some]
  cases hvalid : record.thread.valid with
  | false =>
      rw [if_neg Bool.false_ne_true, List.filter_cons, if_neg (Bool.eq_false_iff.1 hvalid)]
      apply traceOthers_visit roster
      apply hreached p s htier hrecording
      intro number hmem
      rw [hnone] at hmem
      cases hmem
  | true =>
      have hvisit : Visit o roster s₀ record.number [record] p s
          (p.trace debugger o roster record.number record.thread s) :=
        trace_visit htier hrecording hvalid hrecord (hnone ▸ List.not_mem_nil)
      rw [if_pos rfl, List.filter_cons, if_pos hvalid]
      apply hvisit.append
      · intro failure herror
        generalize p.trace debugger o roster _ record.thread s = run at herror ⊢
        obtain ⟨answer, p', s'⟩ := run
        cases herror
        rfl
      · intro hok
        have hattempts := hvisit.loading.attempts hok
        have hothers := traceOthers_visit roster <| hreached _ _ (hattempts.tier.trans htier)
          (hattempts.recording.trans hrecording) (by
            intro number hmem
            rw [hvisit.numbers hok, hnone] at hmem
            exact List.mem_singleton.1 hmem)
        generalize p.trace debugger o roster _ record.thread s = run at hok hothers ⊢
        obtain ⟨answer, p', s'⟩ := run
        cases hok
        exact hothers

end Investigation

end CrashReport
