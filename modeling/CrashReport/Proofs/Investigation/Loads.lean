import CrashReport.Proofs.Investigation.Outcome

/-!
# Which loads an investigation asks for

Images are loaded for the frames that will be visited when a stack is read, and for no others.
So the log of the loads is told by the visited frames: the files that own them, each file once, in
the order of the visits. The log ends early only with an image that is not the expected one.

* **`served`** — the threads for which a tier asks to load images;
* **`wanted`** — the files that own the visited frames of these threads, by their canonical paths;
* **`investigate_loads`** — the log of the loads, and whether the network may be used.
-/

namespace CrashReport.Investigation

open Sequence (firsts through)
open Session (ThreadRecord debugger)

/-- The threads for which images are loaded: the crashed one, if it is valid, and where the tier
asks for it all others that can be selected. -/
def served (o : Options) (s : Session) (crashed : ThreadRecord) : List ThreadRecord :=
  if o.tier = .spacious then []
  else
    (if crashed.thread.valid then [crashed] else []) ++
      if o.tier = .some then s.leading.filter fun record => record.number ≠ crashed.number else []

/-- The files that own the frames which unwinding these threads visits, from the newest frame on.
They are given by their canonical paths. -/
def wanted (o : Options) (s : Session) (crashed : ThreadRecord) : List String :=
  (served o s crashed).flatMap fun record =>
    (Unwind.visited debugger (roster debugger o s).1
      (unwindOptions o (record.number = crashed.number)) record.number s).filterMap
        Stack.Frame.image

variable {o : Options} {s : Session} {crashed : ThreadRecord}

theorem mem_leading_of_mem_served (hcrashed : s.thread? crashed.number = some crashed)
    {record : ThreadRecord} (h : record ∈ served o s crashed) : record ∈ s.leading := by
  unfold served at h
  split at h
  · cases h
  · rcases List.mem_append.1 h with hmem | hmem
    · split at hmem
      · rename_i hvalid
        rw [List.mem_singleton.1 hmem]
        exact Session.mem_leading_iff.2 ⟨hvalid, hcrashed⟩
      · cases hmem
    · split at hmem
      · exact (List.mem_filter.1 hmem).1
      · cases hmem

theorem loadOrder_eq (o : Options) (s : Session) (crashed : ThreadRecord) :
    loadOrder o s crashed =
      (served o s crashed).flatMap fun record => record.frames.take frameLimit := by
  unfold loadOrder served
  cases o.tier <;> cases crashed.thread.valid <;> simp [Tier.loads]

/-- A frame is reported with the file of the image that owns it. -/
theorem filterMap_image_recordedFrames (r : Roster) (uo : Unwind.Options) (s : Session)
    (record : ThreadRecord) :
    (Unwind.recordedFrames r uo s record).filterMap Stack.Frame.image =
      (r.owners s (record.frames.take frameLimit)).map Image.file := by
  unfold Unwind.recordedFrames Roster.owners
  rw [List.filterMap_map, List.map_filterMap]
  rfl

theorem wanted_eq (hcrashed : s.thread? crashed.number = some crashed) :
    wanted o s crashed =
      ((roster debugger o s).1.owners s (loadOrder o s crashed)).map Image.file := by
  unfold wanted
  rw [loadOrder_eq, owners_flatMap, List.map_flatMap]
  apply List.flatMap_congr
  intro record hrecord
  obtain ⟨hvalid, hfirst⟩ := Session.mem_leading_iff.1 (mem_leading_of_mem_served hcrashed hrecord)
  rw [Unwind.visited_eq _ _ hvalid hfirst, filterMap_image_recordedFrames]

/-- However an investigation ends, it has changed nothing but the selection and what its loads
change. -/
theorem aside_investigate (hcrashed : s.current? = some crashed) :
    (investigate debugger o s).2.aside = (started o s).aside.after
      (({ tier := o.tier } : Loader).issued s
        ((roster debugger o s).1.owners s (loadOrder o s crashed))) := by
  obtain ⟨run, hvisit, -, haside⟩ := exists_course o hcrashed
  have hloading := hvisit.loading.aside
  rw [need_visits o _ s (Session.thread?_of_current?_eq_some hcrashed)] at hloading
  rw [haside]
  exact hloading

theorem loads_investigate (hcrashed : s.current? = some crashed) :
    (investigate debugger o s).2.loads = s.loads ++
      ({ tier := o.tier } : Loader).issued s
        ((roster debugger o s).1.owners s (loadOrder o s crashed)) := by
  have h := congrArg Session.loads (aside_investigate (o := o) hcrashed)
  rwa [Session.loads_after] at h

theorem loads_investigate_of_current?_eq_none (h : s.current? = none) :
    (investigate debugger o s).2.loads = s.loads := by
  have hback : (debugger.toThread s.selected s).aside = s.aside :=
    Debugger.Keeps.toThread (Session.keeps_aside s) s.selected rfl
  rw [investigate_snd_of_current?_eq_none o h]
  show (debugger.toThread s.selected s).aside.loads = s.aside.loads
  rw [hback]

theorem downloads_investigate (hcrashed : s.current? = some crashed) :
    (investigate debugger o s).2.downloads = (s.downloads && o.tier.downloads) := by
  have h := congrArg Session.downloads (aside_investigate (o := o) hcrashed)
  rwa [Session.downloads_after] at h

theorem investigate_eq_unexpectedImage_iff (hcrashed : s.current? = some crashed)
    {file expected : String} {found : Option String} :
    (investigate debugger o s).1 = .error (.unexpectedImage file expected found) ↔
      s.objection [] ((roster debugger o s).1.owners s (loadOrder o s crashed)) =
        some (.unexpectedImage file expected found) := by
  rw [investigate_eq_error_iff, failure?_eq_some_iff, hcrashed]
  constructor
  · rintro (⟨hnone, -⟩ | ⟨_, heq, hobjection | ⟨-, hmissing⟩⟩)
    · cases hnone
    · cases heq
      exact hobjection
    · exact absurd (name_of_missingBuildId?_eq_some hmissing) (by simp [Failure.name])
  · intro hobjection
    exact .inr ⟨crashed, rfl, .inl hobjection⟩

theorem detail_of_mem_issued {l : Loader} {images : List Image} {load : Session.Load}
    (h : load ∈ l.issued s images) : load.detail = l.tier.detail := by
  obtain ⟨image, -, rfl⟩ := List.mem_map.1 h
  rfl

/-- The first image that is not the expected one is the last one that is loaded. -/
theorem files_issued_of_mismatch {l : Loader} {images before after : List Image} {image : Image}
    (hsplit : firsts Image.file l.attempted images = before ++ image :: after)
    (hbefore : ∀ other ∈ before, ∀ expected found, ¬ s.Mismatch other expected found)
    {expected : String} {found : Option String} (hmismatch : s.Mismatch image expected found) :
    (l.issued s images).map Session.Load.file = before.map Image.file ++ [image.file] := by
  have hnot : (before.any fun image => (s.objection? image).isSome) = false := by
    rw [List.any_eq_false]
    intro other hother
    rw [Session.objection?_eq_none_iff.2 (hbefore other hother)]
    exact Bool.false_ne_true
  have hlast : through (fun image => (s.objection? image).isSome) (image :: after) = [image] := by
    apply Sequence.through_cons_of_pos
    rw [Session.objection?_eq_some_iff.2 ⟨_, _, hmismatch, rfl⟩]
    rfl
  unfold Loader.issued
  rw [hsplit, Sequence.through_append_of_not_any _ hnot, hlast, List.map_map, List.map_append]
  rfl

/-- The loads of a run, for every session in which a listed thread has crashed and all options.

They are asked for the files in `wanted`, each once, in this order. If an image is not the expected
one the loads end with it, and otherwise they are complete. All loads are as detailed as the tier
allows, and the network may be used afterwards unless it might not be used before or the tier
forbids it. -/
theorem investigate_loads (hlog : s.loads = []) (hcrashed : s.current? = some crashed) :
    ((∀ file expected found,
        (investigate debugger o s).1 ≠ .error (.unexpectedImage file expected found)) →
      (investigate debugger o s).2.loads.map Session.Load.file =
        firsts id [] (wanted o s crashed)) ∧
    (∀ file expected found,
        (investigate debugger o s).1 = .error (.unexpectedImage file expected found) →
      ∃ before after, firsts id [] (wanted o s crashed) = before ++ file :: after ∧
        (investigate debugger o s).2.loads.map Session.Load.file = before ++ [file]) ∧
    (o.tier = .spacious → (investigate debugger o s).2.loads = []) ∧
    (∀ load ∈ (investigate debugger o s).2.loads,
      load.detail = if o.tier = .cramped then .presenceOnly else .full) ∧
    (investigate debugger o s).2.downloads = (s.downloads && !decide (o.tier = .cramped)) := by
  have hwanted := wanted_eq (o := o) (Session.thread?_of_current?_eq_some hcrashed)
  have hloads := loads_investigate (o := o) hcrashed
  have hunexpected := @investigate_eq_unexpectedImage_iff o s crashed hcrashed
  rw [hlog, List.nil_append] at hloads
  rw [hloads, hwanted]
  generalize (roster debugger o s).1.owners s (loadOrder o s crashed) = images
    at hunexpected hwanted ⊢
  refine ⟨?_, ?_, ?_, ?_, ?_⟩
  · -- the only objections are images that are not the expected ones, so every load is issued
    intro hnone
    have hobjection : s.objection [] images = none := by
      cases h : s.objection [] images with
      | none => rfl
      | some failure =>
          obtain ⟨-, image, -, -, -, expected, found, -, rfl⟩ := Session.objection_eq_some_iff.1 h
          exact absurd (hunexpected.2 h) (hnone _ _ _)
    have hissued : ({ tier := o.tier } : Loader).issued s images = _ :=
      Loader.issued_eq_requests hobjection
    rw [hissued]
    exact Loader.files_requests _ images
  · -- the loads end with the first image that is objected to
    intro file expected found herror
    obtain ⟨before, image, after, hsplit, hbefore, _, _, hmismatch, heq⟩ :=
      Session.objection_eq_some_iff.1 (hunexpected.1 herror)
    cases heq
    refine ⟨before.map Image.file, after.map Image.file, ?_, ?_⟩
    · rw [← Sequence.map_firsts, hsplit, List.map_append, List.map_cons]
    · exact files_issued_of_mismatch hsplit hbefore hmismatch
  · intro htier
    have hnil : images = [] := by
      rw [← List.map_eq_nil_iff (f := Image.file), ← hwanted]
      unfold wanted served
      rw [if_pos htier]
      rfl
    rw [hnil]
    rfl
  · intro load hload
    rw [detail_of_mem_issued hload]
    cases o.tier <;> rfl
  · rw [downloads_investigate hcrashed]
    cases o.tier <;> rfl

/-- A session in which two stacks lead through three libraries. The crash handler of the selected
thread is known by name once the first library has been loaded. -/
def libraries : Session where
  live := true
  selected := some 1
  threads := [
    { thread := { number := 2, id := 20 }, frames := [{ pc := 0x2100 }, { pc := 0x1100 }] },
    { thread := { number := 1, id := 10 }
      frames := [
        { pc := 0x1100, function := some Unwind.crashHandler, image := some "/lib/a.so" },
        { pc := 0x3100, function := some "work", image := some "/lib/c.so" },
        { pc := 0x1200 }] }]
  images := [
    { file := "/lib/a.so", start := 0x1000, stop := 0x2000, buildId := some "aa" },
    { file := "/lib/b.so", start := 0x2000, stop := 0x3000, buildId := some "bb" },
    { file := "/lib/c.so", start := 0x3000, stop := 0x4000, buildId := some "cc" }]
  mappings := some (
    "1000 1800 800 0 /lib/a.so\n2000 3000 1000 0 /lib/b.so\n" ++
    "3000 4000 1000 0 /lib/c.so\n1800 2000 800 800 /lib/a.so\n")

theorem roster_libraries (o : Options) : (roster debugger o libraries).1 =
    { images := ⟨#[⟨"/lib/a.so", 0x1000, 0x2000, some "aa", false⟩,
        ⟨"/lib/b.so", 0x2000, 0x3000, some "bb", false⟩,
        ⟨"/lib/c.so", 0x3000, 0x4000, some "cc", false⟩], by decide⟩
      live := true
      canonical := o.canonical } := by
  have hregions : Region.ofReport (libraries.mappings.getD "") =
      [⟨"/lib/a.so", 0x1000, 0x2000⟩, ⟨"/lib/b.so", 0x2000, 0x3000⟩,
        ⟨"/lib/c.so", 0x3000, 0x4000⟩] := by
    decide +kernel
  rw [roster_of_live _ rfl, hregions]
  exact congrArg (fun images => { images, live := true, canonical := o.canonical : Roster })
    (ImageList.ofList_eq_of_ascending (by decide))

theorem exists_report_libraries (tier : Tier) :
    ∃ report, (investigate debugger { tier := tier } libraries).1 = .ok report := by
  rw [exists_investigate_eq_ok_iff]
  simp only [failure?, roster_libraries]
  cases tier <;> decide +kernel

theorem investigate_loads_libraries : libraries.loads = [] ∧ libraries.current?.isSome ∧
    (investigate debugger { tier := .some } libraries).2.loads.map Session.Load.file =
      ["/lib/a.so", "/lib/c.so", "/lib/b.so"] := by
  obtain ⟨crashed, hcrashed⟩ : ∃ crashed, libraries.current? = some crashed := ⟨_, rfl⟩
  obtain ⟨report, hreport⟩ := exists_report_libraries .some
  have hwanted : wanted { tier := .some } libraries crashed =
      ["/lib/a.so", "/lib/c.so", "/lib/a.so", "/lib/b.so", "/lib/a.so"] := by
    obtain rfl : _ = crashed := Option.some.inj hcrashed
    simp only [wanted, roster_libraries]
    decide +kernel
  refine ⟨rfl, rfl, ?_⟩
  rw [(investigate_loads rfl hcrashed).1, hwanted]
  · decide
  · intro file expected found herror
    rw [hreport] at herror
    cases herror

end CrashReport.Investigation
