import CrashReport.Proofs.Investigation.Course

/-!
# Which answer an investigation gives

The answer to an investigation of a recorded session is decided by its recording and by the
options, and by nothing else:

* **`loadOrder`** — the frames whose images are loaded, in the order of the loads;
* **`attempted`** — the images that these frames call for, each file once. They go by the canonical
  paths of their files, wherever the options let paths lead;
* **`investigate_outcome`** — there is a report unless the crashed thread is not listed, or
  else an attempted image is not the expected one, or else an image has no debug id. Of several
  causes the first one in this order is told, and of several images the first one.
-/

namespace CrashReport.Investigation

open Sequence (firsts)
open Session (ThreadRecord debugger)

/-- The frames whose images are loaded: first those of the crashed thread, if it is valid, and
then, where the tier asks for it, those of the other threads that can be selected. -/
def loadOrder (o : Options) (s : Session) (crashed : ThreadRecord) : List Session.Frame :=
  (if crashed.thread.valid && o.tier.loads true then crashed.frames.take frameLimit else []) ++
  (if o.tier = .some then
    (s.leading.filter fun record => record.number ≠ crashed.number).flatMap fun record =>
      record.frames.take frameLimit
  else [])

/-- The images that are attempted, as long as none of them ends the investigation. The file of each
is given by its canonical path, under which it is loaded. -/
def attempted (o : Options) (s : Session) (crashed : ThreadRecord) : List Image :=
  firsts Image.file [] ((roster debugger o s).1.owners s (loadOrder o s crashed))

theorem owners_append (r : Roster) (s : Session) (l m : List Session.Frame) :
    r.owners s (l ++ m) = r.owners s l ++ r.owners s m := List.filterMap_append

theorem owners_flatMap {α : Type} (r : Roster) (s : Session) (f : α → List Session.Frame)
    (l : List α) : r.owners s (l.flatMap f) = l.flatMap fun x => r.owners s (f x) := by
  induction l with
  | nil => rfl
  | cons x rest ih => rw [List.flatMap_cons, owners_append, ih, List.flatMap_cons]

theorem others_nil_eq (s : Session) (crashed : UInt32) :
    others crashed [] s.threads = s.leading.filter fun record => record.number ≠ crashed := by
  unfold others Session.leading
  rw [List.filter_filter]
  congr 1
  funext record
  exact Bool.and_comm _ _

/-- What the visits need is what the frames in `loadOrder` call for. -/
theorem need_visits (o : Options) (r : Roster) (s : Session) {crashed : ThreadRecord}
    (hcrashed : s.thread? crashed.number = some crashed) :
    need o r s crashed.number (visits s crashed.number) = r.owners s (loadOrder o s crashed) := by
  unfold need visits loadOrder
  rw [List.flatMap_append, owners_append, hcrashed, others_nil_eq]
  congr 1
  · -- the crashed thread is visited as such, if it is valid
    rw [Option.toList_some, List.filter_cons]
    cases crashed.thread.valid with
    | false => rfl
    | true =>
        rw [if_pos rfl, List.filter_nil, List.flatMap_cons, List.flatMap_nil, List.append_nil]
        unfold Loader.needs
        rw [decide_eq_true rfl]
        cases o.tier.loads true <;> rfl
  · -- no other thread has its number, so images are loaded for them in one tier only
    have hneeds : ∀ record ∈ s.leading.filter fun record => record.number ≠ crashed.number,
        Loader.needs o.tier r s (record.number = crashed.number) record =
          if o.tier = .some then r.owners s (record.frames.take frameLimit) else [] := by
      intro record hrecord
      have hne : record.number ≠ crashed.number := of_decide_eq_true (List.mem_filter.1 hrecord).2
      unfold Loader.needs
      rw [decide_eq_false hne]
      cases o.tier <;> rfl
    rw [List.flatMap_congr hneeds]
    split
    · rw [owners_flatMap]
    · exact List.flatMap_eq_nil_iff.2 fun _ _ => rfl

/-! ### The answer -/

theorem current?_eq_none_iff (s : Session) :
    s.current? = none ↔ s.selected = none ∨
      ∃ number, s.selected = some number ∧ ∀ record ∈ s.threads, record.number ≠ number := by
  unfold Session.current?
  cases s.selected with
  | none => simp
  | some number =>
      rw [Option.bind_some]
      unfold Session.thread?
      rw [List.find?_eq_none]
      simp

theorem missingBuildId?_eq_some_iff {images : ImageList} {failure : Failure} :
    missingBuildId? images = some failure ↔
      ∃ before image after, images.toList = before ++ image :: after ∧
        (∀ other ∈ before, other.debugId?.isSome) ∧ image.debugId? = none ∧
          failure = .noBuildId image.file image.buildId := by
  unfold missingBuildId?
  rw [Option.map_eq_some_iff]
  simp only [List.find?_eq_some_iff_append]
  constructor
  · rintro ⟨image, ⟨hnone, before, after, hsplit, hbefore⟩, rfl⟩
    refine ⟨before, image, after, hsplit, ?_, by simpa using hnone, rfl⟩
    intro other hother
    simpa [Option.isSome_iff_ne_none] using hbefore other hother
  · rintro ⟨before, image, after, hsplit, hbefore, hnone, rfl⟩
    refine ⟨image, ⟨by simpa using hnone, before, after, hsplit, ?_⟩, rfl⟩
    intro other hother
    simpa [Option.isSome_iff_ne_none] using hbefore other hother

theorem missingBuildId?_eq_none_iff {images : ImageList} :
    missingBuildId? images = none ↔ ∀ image ∈ images.toList, image.debugId?.isSome := by
  unfold missingBuildId?
  rw [Option.map_eq_none_iff, List.find?_eq_none]
  simp [Option.isSome_iff_ne_none]

theorem name_of_objection_eq_some {s : Session} {seen : List String} {images : List Image}
    {failure : Failure} (h : s.objection seen images = some failure) :
    failure.name = "UnexpectedMapping" := by
  obtain ⟨_, _, _, _, _, _, _, _, rfl⟩ := Session.objection_eq_some_iff.1 h
  rfl

theorem name_of_missingBuildId?_eq_some {images : ImageList} {failure : Failure}
    (h : missingBuildId? images = some failure) : failure.name = "MissingBuildId" := by
  obtain ⟨_, _, _, _, _, _, rfl⟩ := missingBuildId?_eq_some_iff.1 h
  rfl

/-- The failure in which an investigation ends, if any. -/
def failure? (o : Options) (s : Session) : Option Failure :=
  match s.current? with
  | none => some .noCrashedThread
  | some crashed =>
    (s.objection [] ((roster debugger o s).1.owners s (loadOrder o s crashed))).or
      (missingBuildId? (roster debugger o s).1.images)

theorem failure?_eq_none_iff {o : Options} {s : Session} {crashed : ThreadRecord}
    (hcrashed : s.current? = some crashed) :
    failure? o s = none ↔
      s.objection [] ((roster debugger o s).1.owners s (loadOrder o s crashed)) = none ∧
        missingBuildId? (roster debugger o s).1.images = none := by
  unfold failure?
  rw [hcrashed]
  exact Option.or_eq_none_iff

theorem investigate_failure? (o : Options) (s : Session) :
    match failure? o s with
    | some failure => (investigate debugger o s).1 = .error failure
    | none => ∃ report, (investigate debugger o s).1 = .ok report := by
  unfold failure?
  cases hcurrent : s.current? with
  | none => exact investigate_of_current?_eq_none o hcurrent
  | some crashed =>
      obtain ⟨t, run, path, buildId, message, qml, ht, hvisit, hanswer⟩ := exists_visit o hcurrent
      have hloading := hvisit.loading
      have hobjections := Session.objection_eq_of_recording_eq ht []
        (need o (roster debugger o s).1 s crashed.number (visits s crashed.number))
      rw [need_visits o _ s (Session.thread?_of_current?_eq_some hcurrent)] at hloading hobjections
      dsimp only
      rw [hanswer]
      cases hobjection : s.objection [] ((roster debugger o s).1.owners s
          (loadOrder o s crashed)) with
      | some failure =>
          have herror : run.1 = .error failure :=
            hloading.error_of_objection (hobjections.trans hobjection)
          rw [Option.some_or, herror]
      | none =>
          obtain ⟨_, hok⟩ := hloading.ok_of_no_objection (hobjections.trans hobjection)
          rw [Option.none_or, show run.1 = _ from hok]
          cases missingBuildId? (roster debugger o s).1.images with
          | some failure => rfl
          | none => exact ⟨_, rfl⟩

theorem investigate_eq_error_iff (o : Options) (s : Session) (failure : Failure) :
    (investigate debugger o s).1 = .error failure ↔ failure? o s = some failure := by
  have h := investigate_failure? o s
  cases hfailure : failure? o s with
  | some other =>
      rw [hfailure] at h
      rw [h, Except.error.injEq, Option.some.injEq]
  | none =>
      rw [hfailure] at h
      obtain ⟨report, hreport⟩ := h
      rw [hreport]
      constructor <;> intro hf <;> cases hf

theorem exists_investigate_eq_ok_iff (o : Options) (s : Session) :
    (∃ report, (investigate debugger o s).1 = .ok report) ↔ failure? o s = none := by
  have h := investigate_failure? o s
  cases hfailure : failure? o s with
  | some other =>
      rw [hfailure] at h
      rw [h]
      constructor
      · rintro ⟨report, hreport⟩
        cases hreport
      · intro hnone
        cases hnone
  | none =>
      rw [hfailure] at h
      exact ⟨fun _ => rfl, fun _ => h⟩

/-- The causes of failure exclude each other, and each is told by its own kind of failure. -/
theorem failure?_eq_some_iff (o : Options) (s : Session) (failure : Failure) :
    failure? o s = some failure ↔
      (s.current? = none ∧ failure = .noCrashedThread) ∨
      ∃ crashed, s.current? = some crashed ∧
        (s.objection [] ((roster debugger o s).1.owners s (loadOrder o s crashed)) = some failure ∨
          s.objection [] ((roster debugger o s).1.owners s (loadOrder o s crashed)) = none ∧
            missingBuildId? (roster debugger o s).1.images = some failure) := by
  unfold failure?
  cases s.current? with
  | none => simp [eq_comm]
  | some crashed => simp [Option.or_eq_some_iff]

theorem objection_eq_unexpectedImage_iff (o : Options) (s : Session) (crashed : ThreadRecord)
    (file expected : String) (found : Option String) :
    s.objection [] ((roster debugger o s).1.owners s (loadOrder o s crashed)) =
        some (.unexpectedImage file expected found) ↔
      ∃ before image after, attempted o s crashed = before ++ image :: after ∧
        (∀ other ∈ before, ∀ expected found, ¬ s.Mismatch other expected found) ∧
        image.file = file ∧ s.Mismatch image expected found := by
  rw [Session.objection_eq_some_iff]
  constructor
  · rintro ⟨before, image, after, hsplit, hbefore, expected', found', hmismatch, heq⟩
    cases heq
    exact ⟨before, image, after, hsplit, hbefore, rfl, hmismatch⟩
  · rintro ⟨before, image, after, hsplit, hbefore, rfl, hmismatch⟩
    exact ⟨before, image, after, hsplit, hbefore, expected, found, hmismatch, rfl⟩

theorem missingBuildId?_eq_noBuildId_iff (images : ImageList) (file : String)
    (buildId : Option String) :
    missingBuildId? images = some (.noBuildId file buildId) ↔
      ∃ before image after, images.toList = before ++ image :: after ∧
        (∀ other ∈ before, other.debugId?.isSome) ∧ image.debugId? = none ∧
          image.file = file ∧ image.buildId = buildId := by
  rw [missingBuildId?_eq_some_iff]
  constructor
  · rintro ⟨before, image, after, hsplit, hbefore, hnone, heq⟩
    cases heq
    exact ⟨before, image, after, hsplit, hbefore, hnone, rfl, rfl⟩
  · rintro ⟨before, image, after, hsplit, hbefore, hnone, rfl, rfl⟩
    exact ⟨before, image, after, hsplit, hbefore, hnone, rfl⟩

/-- Every session and all options, whatever the canonical paths may be: the answer is exactly one of
these.

The crashed thread is the selected one, and it is listed if a record has its number. Of the
images that the frames in `loadOrder` call for, each canonical path once, the first one that is not
the expected one is told with that path, the build id that was expected and the one that was found.
Else the first image without a debug id is told, in the order of their base addresses. -/
theorem investigate_outcome (o : Options) (s : Session) :
    ((investigate debugger o s).1 = .error .noCrashedThread ↔
      s.selected = none ∨
        ∃ number, s.selected = some number ∧ ∀ record ∈ s.threads, record.number ≠ number) ∧
    (∀ file expected found,
      (investigate debugger o s).1 = .error (.unexpectedImage file expected found) ↔
        ∃ crashed, s.current? = some crashed ∧
          ∃ before image after, attempted o s crashed = before ++ image :: after ∧
            (∀ other ∈ before, ∀ expected found, ¬ s.Mismatch other expected found) ∧
            image.file = file ∧ s.Mismatch image expected found) ∧
    (∀ file buildId, (investigate debugger o s).1 = .error (.noBuildId file buildId) ↔
        ∃ crashed, s.current? = some crashed ∧
          (∀ image ∈ attempted o s crashed, ∀ expected found,
            ¬ s.Mismatch image expected found) ∧
          ∃ before image after,
            (roster debugger o s).1.images.toList = before ++ image :: after ∧
            (∀ other ∈ before, other.debugId?.isSome) ∧ image.debugId? = none ∧
            image.file = file ∧ image.buildId = buildId) ∧
    (∀ reason, (investigate debugger o s).1 ≠ .error (.debugger reason)) ∧
    ((∃ report, (investigate debugger o s).1 = .ok report) ↔
        ∃ crashed, s.current? = some crashed ∧
          (∀ image ∈ attempted o s crashed, ∀ expected found,
            ¬ s.Mismatch image expected found) ∧
          ∀ image ∈ (roster debugger o s).1.images.toList, image.debugId?.isSome) := by
  refine ⟨?_, ?_, ?_, ?_, ?_⟩
  · -- an objection and a missing debug id are failures of other names
    rw [investigate_eq_error_iff, failure?_eq_some_iff, ← current?_eq_none_iff]
    constructor
    · rintro (⟨hcurrent, -⟩ | ⟨crashed, -, hobjection | ⟨-, hmissing⟩⟩)
      · exact hcurrent
      · exact absurd (name_of_objection_eq_some hobjection) (by simp [Failure.name])
      · exact absurd (name_of_missingBuildId?_eq_some hmissing) (by simp [Failure.name])
    · intro hcurrent
      exact .inl ⟨hcurrent, rfl⟩
  · -- an objection comes before a missing debug id, so it alone decides
    intro file expected found
    rw [investigate_eq_error_iff, failure?_eq_some_iff]
    simp only [← objection_eq_unexpectedImage_iff]
    constructor
    · rintro (⟨-, heq⟩ | ⟨crashed, hcurrent, hobjection | ⟨-, hmissing⟩⟩)
      · cases heq
      · exact ⟨crashed, hcurrent, hobjection⟩
      · exact absurd (name_of_missingBuildId?_eq_some hmissing) (by simp [Failure.name])
    · rintro ⟨crashed, hcurrent, hobjection⟩
      exact .inr ⟨crashed, hcurrent, .inl hobjection⟩
  · -- a missing debug id is told only where there is no objection
    intro file buildId
    rw [investigate_eq_error_iff, failure?_eq_some_iff]
    simp only [← missingBuildId?_eq_noBuildId_iff, attempted, ← Session.objection_eq_none_iff]
    constructor
    · rintro (⟨-, heq⟩ | ⟨crashed, hcurrent, hobjection | hmissing⟩)
      · cases heq
      · exact absurd (name_of_objection_eq_some hobjection) (by simp [Failure.name])
      · exact ⟨crashed, hcurrent, hmissing⟩
    · rintro ⟨crashed, hcurrent, hmissing⟩
      exact .inr ⟨crashed, hcurrent, .inr hmissing⟩
  · -- none of the causes is a refusal of the debugger
    intro reason
    rw [Ne, investigate_eq_error_iff, failure?_eq_some_iff]
    rintro (⟨-, heq⟩ | ⟨crashed, -, hobjection | ⟨-, hmissing⟩⟩)
    · cases heq
    · exact absurd (name_of_objection_eq_some hobjection) (by simp [Failure.name])
    · exact absurd (name_of_missingBuildId?_eq_some hmissing) (by simp [Failure.name])
  · -- without any cause there is a report
    rw [exists_investigate_eq_ok_iff]
    simp only [← missingBuildId?_eq_none_iff, attempted, ← Session.objection_eq_none_iff]
    unfold failure?
    cases s.current? with
    | none => simp
    | some crashed => simp [Option.or_eq_none_iff]

end CrashReport.Investigation
