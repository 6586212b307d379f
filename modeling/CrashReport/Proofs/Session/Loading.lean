import CrashReport.Loader
import CrashReport.Proofs.Sequence
import CrashReport.Proofs.Session.Requests

/-!
# Loading on a session

The frames of a thread call for the images that own their program counters. Which loads that
leads to, and with which failure they end, is told by the list of these images alone.

* **`Session.Mismatch`** — loading an image finds a file of another build;
* **`Session.objection`** — the failure in which the loading of images ends, if any;
* **`Loader.requests`**, **`Loader.issued`** — the loads that attempting images leads to, and
  those of them that come before the failure;
* **`Loader.Attempts`** — what has changed once all images have been attempted;
* **`Loader.Outcome`** — both in one. `loadImage_outcome` says it of an image,
  `loadFrames_outcome` of frames, and `loadThread_outcome` of a thread.
-/

namespace CrashReport

open Sequence (firsts marks)

/-- The images that own the program counters of frames, under the canonical paths of their
files. -/
def Roster.owners (r : Roster) (s : Session) (frames : List Session.Frame) : List Image :=
  frames.filterMap fun frame => r.locate Session.debugger frame.pc s

theorem Roster.owners_cons (r : Roster) (s : Session) (frame : Session.Frame)
    (rest : List Session.Frame) :
    r.owners s (frame :: rest) =
      (r.locate Session.debugger frame.pc s).toList ++ r.owners s rest := by
  unfold owners
  rw [List.filterMap_cons]
  cases r.locate Session.debugger frame.pc s with
  | none => rfl
  | some image => rfl

namespace Session

variable {s t : Session}

/-- An image is expected to have a build id, and a load of its file finds another one, or
none. Build ids are the same whatever the case of their ASCII letters. -/
structure Mismatch (s : Session) (image : Image) (expected : String) (found : Option String) :
    Prop where
  expects : image.buildId = some expected
  finds : s.found? image.file = some found
  differs : ∀ id, found = some id →
    id.toList.map Char.toLower ≠ expected.toList.map Char.toLower

/-- The failure that comes of loading an image. -/
def objection? (s : Session) (image : Image) : Option Failure :=
  match s.found? image.file with
  | none => none
  | some found =>
    if Loader.accepts image found then none
    else some (.unexpectedImage image.file (image.buildId.getD "") found)

/-- The first failure that comes of loading images, apart from those that have been seen. -/
def objection (s : Session) (seen : List String) (images : List Image) : Option Failure :=
  (firsts Image.file seen images).findSome? s.objection?

theorem accepts_eq_false_iff {image : Image} {found : Option String} :
    Loader.accepts image found = false ↔
      ∃ expected, image.buildId = some expected ∧ ∀ id, found = some id →
        id.toList.map Char.toLower ≠ expected.toList.map Char.toLower := by
  unfold Loader.accepts
  cases image.buildId with
  | none => simp
  | some expected => cases found <;> simp [Loader.sameBuildId]

theorem objection?_eq_some_iff {image : Image} {failure : Failure} :
    s.objection? image = some failure ↔
      ∃ expected found, s.Mismatch image expected found ∧
        failure = .unexpectedImage image.file expected found := by
  unfold objection?
  constructor
  · intro h
    split at h
    · cases h
    · rename_i found hfound
      split at h
      · cases h
      · rename_i haccepts
        obtain ⟨expected, hexpected, hdiffers⟩ :=
          accepts_eq_false_iff.1 (Bool.eq_false_iff.2 haccepts)
        refine ⟨expected, found, ⟨hexpected, hfound, hdiffers⟩, ?_⟩
        rw [hexpected] at h
        exact (Option.some.inj h).symm
  · rintro ⟨expected, found, ⟨hexpected, hfound, hdiffers⟩, rfl⟩
    have haccepts := accepts_eq_false_iff.2 ⟨expected, hexpected, hdiffers⟩
    rw [hfound]
    dsimp only
    rw [haccepts, hexpected]
    rfl

theorem objection?_eq_none_iff {image : Image} :
    s.objection? image = none ↔ ∀ expected found, ¬ s.Mismatch image expected found := by
  constructor
  · intro h expected found hmismatch
    have hsome := objection?_eq_some_iff.2 ⟨expected, found, hmismatch, rfl⟩
    rw [h] at hsome
    cases hsome
  · intro h
    cases hobjection : s.objection? image with
    | none => rfl
    | some failure =>
        obtain ⟨expected, found, hmismatch, -⟩ := objection?_eq_some_iff.1 hobjection
        exact absurd hmismatch (h expected found)

/-- The failure is that of the first image that is not the expected one. -/
theorem objection_eq_some_iff {seen : List String} {images : List Image} {failure : Failure} :
    s.objection seen images = some failure ↔
      ∃ before image after, firsts Image.file seen images = before ++ image :: after ∧
        (∀ other ∈ before, ∀ expected found, ¬ s.Mismatch other expected found) ∧
        ∃ expected found, s.Mismatch image expected found ∧
          failure = .unexpectedImage image.file expected found := by
  unfold objection
  rw [List.findSome?_eq_some_iff]
  simp only [objection?_eq_some_iff, objection?_eq_none_iff]
  constructor
  · rintro ⟨before, image, after, hsplit, hfailure, hbefore⟩
    exact ⟨before, image, after, hsplit, hbefore, hfailure⟩
  · rintro ⟨before, image, after, hsplit, hbefore, hfailure⟩
    exact ⟨before, image, after, hsplit, hfailure, hbefore⟩

theorem objection_eq_none_iff {seen : List String} {images : List Image} :
    s.objection seen images = none ↔ ∀ image ∈ firsts Image.file seen images,
      ∀ expected found, ¬ s.Mismatch image expected found := by
  unfold objection
  rw [List.findSome?_eq_none_iff]
  simp only [objection?_eq_none_iff]

theorem objection?_eq_of_recording_eq (h : s.recording = t.recording) :
    s.objection? = t.objection? := by
  funext image
  unfold objection?
  rw [found?_eq_of_recording_eq h]

theorem objection_eq_of_recording_eq (h : s.recording = t.recording) (seen : List String)
    (images : List Image) : s.objection seen images = t.objection seen images := by
  unfold objection
  rw [objection?_eq_of_recording_eq h]

theorem objection_append (seen : List String) (l m : List Image) :
    s.objection seen (l ++ m) =
      (s.objection seen l).or (s.objection (marks Image.file seen l) m) := by
  unfold objection
  rw [Sequence.firsts_append, List.findSome?_append]

theorem owners_eq_of_recording_eq (r : Roster) (h : s.recording = t.recording)
    (frames : List Frame) : r.owners s frames = r.owners t frames := by
  unfold Roster.owners
  simp only [locate_eq_of_recording_eq r _ h]

end Session

/-! ### Runs of the loader -/

namespace Loader

open Session (debugger)

variable {l l' : Loader} {s s' : Session} {images : List Image}

/-- The load of an image. -/
def request (l : Loader) (image : Image) : Session.Load := ⟨image.file, l.tier.detail⟩

/-- The loads to which attempting images leads, as long as none of them fails. -/
def requests (l : Loader) (images : List Image) : List Session.Load :=
  (firsts Image.file l.attempted images).map l.request

/-- The loads to which attempting images leads, up to the first image that is not the expected
one. -/
def issued (l : Loader) (s : Session) (images : List Image) : List Session.Load :=
  (Sequence.through (fun image => (s.objection? image).isSome)
    (firsts Image.file l.attempted images)).map l.request

theorem files_requests (l : Loader) (images : List Image) :
    (l.requests images).map Session.Load.file =
      firsts id l.attempted (images.map Image.file) := by
  unfold requests
  rw [List.map_map, ← Sequence.map_firsts]
  rfl

/-- Every image has been attempted, each file at most once, and nothing else has changed but the
selection. -/
structure Attempts (images : List Image) (l l' : Loader) (s s' : Session) : Prop where
  tier : l'.tier = l.tier
  attempted : l'.attempted = marks Image.file l.attempted images
  aside : s'.aside = s.aside.after (l.requests images)

theorem Attempts.nil (h : s'.aside = s.aside) : Attempts [] l l s s' where
  tier := rfl
  attempted := rfl
  aside := h

theorem Attempts.recording (h : Attempts images l l' s s') : s'.recording = s.recording := by
  have hafter : s'.aside.recording = (s.aside.after (l.requests images)).recording := by
    rw [h.aside]
  rwa [Session.recording_after] at hafter

theorem Attempts.requests_append (h : Attempts images l l' s s') (more : List Image) :
    l.requests (images ++ more) = l.requests images ++ l'.requests more := by
  have hrequest : l'.request = l.request := by
    funext image
    unfold request
    rw [h.tier]
  unfold requests
  rw [Sequence.firsts_append, List.map_append, h.attempted, hrequest]

theorem Attempts.append {more : List Image} {l'' : Loader} {s'' : Session}
    (h : Attempts images l l' s s') (h' : Attempts more l' l'' s' s'') :
    Attempts (images ++ more) l l'' s s'' where
  tier := h'.tier.trans h.tier
  attempted := by rw [h'.attempted, h.attempted, Sequence.marks_append]
  aside := by rw [h'.aside, h.aside, h.requests_append, Session.after_append]

theorem any_objection?_eq_isSome (seen : List String) :
    ((firsts Image.file seen images).any fun image => (s.objection? image).isSome) =
      (s.objection seen images).isSome := by
  unfold Session.objection
  rw [List.isSome_findSome?]

/-- Without an objection all loads are issued. -/
theorem issued_eq_requests (h : s.objection l.attempted images = none) :
    l.issued s images = l.requests images := by
  unfold issued requests
  rw [Sequence.through_eq_self]
  rw [any_objection?_eq_isSome, h, Option.isSome_none]

/-- After an objection nothing more is issued. -/
theorem issued_append_of_objection {failure : Failure}
    (h : s.objection l.attempted images = some failure) (more : List Image) :
    l.issued s (images ++ more) = l.issued s images := by
  unfold issued
  rw [Sequence.firsts_append, Sequence.through_append_of_any]
  rw [any_objection?_eq_isSome, h, Option.isSome_some]

theorem issued_append_of_no_objection (h : s.objection l.attempted images = none)
    (hattempts : Attempts images l l' s s') (more : List Image) :
    l.issued s (images ++ more) = l.requests images ++ l'.issued s' more := by
  have hrequest : l'.request = l.request := by
    funext image
    unfold request
    rw [hattempts.tier]
  unfold issued requests
  rw [Sequence.firsts_append, Sequence.through_append_of_not_any, List.map_append,
    hattempts.attempted, hrequest, Session.objection?_eq_of_recording_eq hattempts.recording]
  rw [any_objection?_eq_isSome, h, Option.isSome_none]

theorem issued_eq_of_recording_eq {t : Session} (h : s.recording = t.recording) :
    l.issued s images = l.issued t images := by
  unfold issued
  rw [Session.objection?_eq_of_recording_eq h]

/-- What comes of attempting images: the first objection ends the run, and without one all
of them have been attempted. -/
def Outcome {α : Type} (images : List Image) (l : Loader) (s : Session)
    (run : Except Failure α × Loader × Session) : Prop :=
  match s.objection l.attempted images with
  | some failure =>
    run.1 = .error failure ∧ run.2.2.aside = s.aside.after (l.issued s images)
  | none => (∃ answer, run.1 = .ok answer) ∧ Attempts images l run.2.1 s run.2.2

theorem outcome_nil {α : Type} {run : Except Failure α × Loader × Session}
    (hok : ∃ answer, run.1 = .ok answer) (hloader : run.2.1 = l)
    (haside : run.2.2.aside = s.aside) : Outcome [] l s run := by
  refine ⟨hok, ?_⟩
  rw [hloader]
  exact Attempts.nil haside

section Outcomes

variable {α : Type} {run : Except Failure α × Loader × Session}

theorem Outcome.attempts {answer : α} (h : Outcome images l s run) (hok : run.1 = .ok answer) :
    Attempts images l run.2.1 s run.2.2 := by
  unfold Outcome at h
  split at h
  · rw [hok] at h
    cases h.1
  · exact h.2

/-- A run of the loader that fails has loaded an image that is not the expected one. -/
theorem Outcome.objection_eq_some {failure : Failure} (h : Outcome images l s run)
    (herror : run.1 = .error failure) : s.objection l.attempted images = some failure := by
  unfold Outcome at h
  split at h
  · rename_i hobjection
    rw [herror] at h
    rw [hobjection, Except.error.inj h.1]
  · obtain ⟨⟨answer, hok⟩, -⟩ := h
    rw [herror] at hok
    cases hok

theorem Outcome.error_of_objection {failure : Failure} (h : Outcome images l s run)
    (hobjection : s.objection l.attempted images = some failure) : run.1 = .error failure := by
  unfold Outcome at h
  rw [hobjection] at h
  exact h.1

theorem Outcome.ok_of_no_objection (h : Outcome images l s run)
    (hobjection : s.objection l.attempted images = none) : ∃ answer, run.1 = .ok answer := by
  unfold Outcome at h
  rw [hobjection] at h
  exact h.1

/-- A run of the loader that succeeds has loaded none but expected images. -/
theorem Outcome.objection_eq_none {answer : α} (h : Outcome images l s run)
    (hok : run.1 = .ok answer) : s.objection l.attempted images = none := by
  cases hobjection : s.objection l.attempted images with
  | none => rfl
  | some failure =>
      have herror := h.error_of_objection hobjection
      rw [hok] at herror
      cases herror

/-- However a run ends, it has changed nothing but the selection and what its loads change. -/
theorem Outcome.aside (h : Outcome images l s run) :
    run.2.2.aside = s.aside.after (l.issued s images) := by
  unfold Outcome at h
  split at h
  · exact h.2
  · rename_i hobjection
    rw [issued_eq_requests hobjection]
    exact h.2.aside

theorem Outcome.recording (h : Outcome images l s run) : run.2.2.recording = s.recording := by
  have hafter : run.2.2.aside.recording = (s.aside.after (l.issued s images)).recording := by
    rw [h.aside]
  rwa [Session.recording_after] at hafter

/-- The same run seen from where the selection stood before. -/
theorem Outcome.of_aside_eq {t : Session} (h : Outcome images l t run)
    (haside : t.aside = s.aside) : Outcome images l s run := by
  have hrecording := Session.recording_eq_of_aside_eq haside
  unfold Outcome at h ⊢
  rw [Session.objection_eq_of_recording_eq hrecording, issued_eq_of_recording_eq hrecording,
    haside] at h
  cases hobjection : s.objection l.attempted images with
  | some failure => rwa [hobjection] at h
  | none =>
      rw [hobjection] at h
      obtain ⟨hok, hattempts⟩ := h
      refine ⟨hok, hattempts.tier, hattempts.attempted, ?_⟩
      rw [← haside]
      exact hattempts.aside

end Outcomes

theorem Outcome.map {α β : Type} {run : Except Failure α × Loader × Session}
    (h : Outcome images l s run) (f : α → β) :
    Outcome images l s (run.1.map f, run.2.1, run.2.2) := by
  unfold Outcome at h ⊢
  split at h
  · obtain ⟨herror, haside⟩ := h
    refine ⟨?_, haside⟩
    rw [herror]
    rfl
  · obtain ⟨⟨answer, hok⟩, hattempts⟩ := h
    refine ⟨⟨f answer, ?_⟩, hattempts⟩
    rw [hok]
    rfl

/-- A run that stops where a first one fails, and otherwise goes on from there. -/
theorem Outcome.append {α β : Type} {more : List Image}
    {run : Except Failure α × Loader × Session} {whole : Except Failure β × Loader × Session}
    (h : Outcome images l s run)
    (herror : ∀ failure, run.1 = .error failure →
      whole.1 = .error failure ∧ whole.2.2.aside = run.2.2.aside)
    (hok : ∀ answer, run.1 = .ok answer → run.2.2.recording = s.recording →
      Outcome more run.2.1 run.2.2 whole) :
    Outcome (images ++ more) l s whole := by
  unfold Outcome
  rw [Session.objection_append]
  cases hfirst : s.objection l.attempted images with
  | some failure =>
      -- the first part ends with an objection, and the second is not begun
      obtain ⟨hwhole, haside⟩ := herror failure (h.error_of_objection hfirst)
      refine ⟨hwhole, ?_⟩
      rw [haside, h.aside, issued_append_of_objection hfirst]
  | none =>
      obtain ⟨answer, hanswer⟩ := h.ok_of_no_objection hfirst
      have hattempts := h.attempts hanswer
      have hmore := hok answer hanswer hattempts.recording
      -- the second part meets the objection that it would meet from the start, all images of the
      -- first part being attempted
      have hobjection : s.objection (marks Image.file l.attempted images) more =
          run.2.2.objection run.2.1.attempted more := by
        rw [hattempts.attempted, Session.objection_eq_of_recording_eq hattempts.recording]
      rw [Option.none_or, hobjection]
      cases hsecond : run.2.2.objection run.2.1.attempted more with
      | some failure =>
          refine ⟨hmore.error_of_objection hsecond, ?_⟩
          rw [hmore.aside, hattempts.aside, issued_append_of_no_objection hfirst hattempts,
            Session.after_append]
      | none =>
          obtain ⟨last, hlast⟩ := hmore.ok_of_no_objection hsecond
          exact ⟨⟨last, hlast⟩, hattempts.append (hmore.attempts hlast)⟩

theorem loadImage_outcome (l : Loader) (image : Image) (s : Session) :
    Outcome [image] l s (l.loadImage debugger image s) := by
  by_cases hmem : image.file ∈ l.attempted
  · -- a file that has been attempted is passed over
    have hfirsts : firsts Image.file l.attempted [image] = [] := Sequence.firsts_cons_of_mem _ hmem
    unfold loadImage Outcome Session.objection
    rw [hfirsts, if_pos hmem]
    refine ⟨⟨false, rfl⟩, rfl, ?_, ?_⟩
    · rw [Sequence.marks_cons]
      exact (if_pos hmem).symm
    · unfold requests
      rw [hfirsts]
      rfl
  · have hfirsts : firsts Image.file l.attempted [image] = [image] :=
      Sequence.firsts_cons_of_notMem _ hmem
    have hmarks : image.file :: l.attempted = marks Image.file l.attempted [image] := by
      rw [Sequence.marks_cons]
      exact (if_neg hmem).symm
    have hrequests : l.requests [image] = [l.request image] := by
      unfold requests
      rw [hfirsts]
      rfl
    have hissued : l.issued s [image] = [l.request image] := by
      unfold issued
      rw [hfirsts, Sequence.through_singleton]
      rfl
    have hattempts : ∀ loaded, Attempts [image] l ⟨l.tier, image.file :: l.attempted, loaded⟩ s
        (s.load (l.request image)) := fun _ => ⟨rfl, hmarks, hrequests ▸ rfl⟩
    have hobjection : s.objection l.attempted [image] = s.objection? image := by
      unfold Session.objection
      rw [hfirsts]
      exact List.findSome?_singleton
    -- with the load performed, the answer and the objection are decided by the file found
    unfold loadImage Outcome
    rw [if_neg hmem, hobjection, hissued]
    unfold Session.objection?
    simp only [debugger, Session.perform_load]
    cases s.found? image.file with
    | none => exact ⟨⟨false, rfl⟩, hattempts _⟩
    | some found =>
        dsimp only
        cases accepts image found with
        | true => exact ⟨⟨true, rfl⟩, hattempts _⟩
        | false => exact ⟨rfl, rfl⟩

theorem frames_loadImage (l : Loader) (image : Image) (s : Session) :
    (l.loadImage debugger image s).2.2.frames = s.frames := by
  unfold loadImage
  split
  · rfl
  · simp only [debugger, Session.perform_load]
    cases s.found? image.file with
    | none => rfl
    | some found =>
        dsimp only
        split <;> rfl

theorem loadFrames_outcome (roster : Roster) (fuel level : Nat) (l : Loader) (s : Session) :
    Outcome (roster.owners s ((s.frames.drop level).take fuel)) l s
      (loadFrames debugger roster fuel level l s) := by
  induction fuel generalizing level l s with
  | zero =>
      rw [List.take_zero]
      exact outcome_nil ⟨0, rfl⟩ rfl rfl
  | succ fuel ih =>
      unfold loadFrames
      by_cases hlevel : level < s.frames.length
      · have hselect : debugger.perform (.selectFrame level) s = _ :=
          Session.perform_selectFrame hlevel
        have hpc : debugger.perform .pc (s.atLevel level) = _ :=
          Session.perform_pc_atLevel hlevel
        have hlocated : roster.locate debugger s.frames[level].pc (s.atLevel level) =
            roster.locate debugger s.frames[level].pc s :=
          Session.locate_eq_of_recording_eq roster _ (Session.recording_eq_of_aside_eq rfl)
        rw [List.drop_eq_getElem_cons hlevel, List.take_succ_cons, Roster.owners_cons, hselect]
        dsimp only
        rw [hpc]
        dsimp only
        rw [hlocated]
        cases roster.locate debugger s.frames[level].pc s with
        | none => exact (ih (level + 1) l (s.atLevel level)).of_aside_eq rfl
        | some image =>
            have himage : Outcome [image] l s (l.loadImage debugger image (s.atLevel level)) :=
              (loadImage_outcome l image (s.atLevel level)).of_aside_eq rfl
            have hframes : (l.loadImage debugger image (s.atLevel level)).2.2.frames = s.frames :=
              frames_loadImage l image (s.atLevel level)
            show Outcome ([image] ++ _) l s _
            dsimp only
            generalize l.loadImage debugger image (s.atLevel level) = run at himage hframes ⊢
            obtain ⟨answer, l₂, s₂⟩ := run
            cases answer with
            | error failure =>
                refine himage.append (fun _ h => ?_) fun _ h => nomatch h
                cases h
                exact ⟨rfl, rfl⟩
            | ok loaded =>
                refine himage.append (fun _ h => nomatch h) fun _ _ hrecording => ?_
                -- the other frames are loaded from the session that this image leaves
                have hrest := (ih (level + 1) l₂ s₂).map fun n => n + loaded.toNat
                rw [hframes] at hrest
                rwa [Session.owners_eq_of_recording_eq roster hrecording] at hrest
      · -- the thread has no more frames, and the selection of the next one is refused
        have hselect : debugger.perform (.selectFrame level) s = _ :=
          Session.perform_selectFrame_of_le (Nat.le_of_not_lt hlevel)
        rw [List.drop_eq_nil_of_le (Nat.le_of_not_lt hlevel), hselect]
        exact outcome_nil ⟨0, rfl⟩ rfl rfl

/-- The same run followed by a selection. -/
theorem Outcome.then_select {α : Type} {run : Except Failure α × Loader × Session}
    (h : Outcome images l s run) (haside : s'.aside = run.2.2.aside) :
    Outcome images l s (run.1, run.2.1, s') := by
  unfold Outcome at h ⊢
  rw [haside]
  split at h
  · exact h
  · obtain ⟨hok, hattempts⟩ := h
    exact ⟨hok, hattempts.tier, hattempts.attempted, haside.trans hattempts.aside⟩

/-- The images that a thread needs: those of its frames within the limit, if images are loaded
for it. -/
def needs (tier : Tier) (roster : Roster) (s : Session) (crashed : Bool)
    (record : Session.ThreadRecord) : List Image :=
  if tier.loads crashed then roster.owners s (record.frames.take frameLimit) else []

theorem needs_eq_of_recording_eq {t : Session} (h : s.recording = t.recording) (tier : Tier)
    (roster : Roster) (crashed : Bool) (record : Session.ThreadRecord) :
    needs tier roster s crashed record = needs tier roster t crashed record := by
  unfold needs
  rw [Session.owners_eq_of_recording_eq roster h]

theorem loadThread_outcome (l : Loader) (roster : Roster) (crashed : Bool)
    {record : Session.ThreadRecord} {thread : Thread} (hvalid : record.thread.valid = true)
    (hrecord : s.thread? thread.number = some record) :
    Outcome (needs l.tier roster s crashed record) l s
      (l.loadThread debugger roster thread crashed s) := by
  unfold loadThread needs
  split
  · let s₁ := s.select thread.number
    have hswitch : debugger.perform (.switchThread thread.number) s = (.ok (), s₁) :=
      Session.perform_switchThread hrecord hvalid
    have hrun : Outcome (roster.owners s₁ (s₁.frames.take frameLimit)) l s₁ _ :=
      loadFrames_outcome roster frameLimit 0 l s₁
    have hframes : s₁.frames = record.frames := Session.frames_select hrecord
    rw [hframes, Session.owners_eq_of_recording_eq roster
      (Session.recording_eq_of_aside_eq (rfl : s₁.aside = s.aside))] at hrun
    have hback : Outcome _ l s _ := hrun.of_aside_eq rfl
    rw [hswitch]
    exact hback.then_select (Session.aside_perform .selectNewest _ rfl)
  · exact outcome_nil ⟨0, rfl⟩ rfl rfl

/-- Nothing is attempted for a thread that cannot be selected. -/
theorem loadThread_of_refused (l : Loader) (roster : Roster) (crashed : Bool) {thread : Thread}
    (h : ∀ record, s.thread? thread.number = some record → record.thread.valid = false) :
    l.loadThread debugger roster thread crashed s =
      (if l.tier.loads crashed then .error (.debugger (.invalidThread thread.number)) else .ok 0,
        l, s) := by
  have hswitch : debugger.perform (.switchThread thread.number) s =
      (.error (.invalidThread thread.number), s) :=
    Session.perform_switchThread_of_refused h
  unfold loadThread
  rw [hswitch]
  split <;> rfl

end Loader

end CrashReport
