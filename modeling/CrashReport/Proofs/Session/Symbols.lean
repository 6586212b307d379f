import CrashReport.Proofs.Session.Loading

/-!
# What loads make known

Symbols name the function of a frame once the image of the frame has been loaded. Loads only
ever make more names known, and which ones they make known depends on the files alone: neither
their order nor a repetition counts.

* **`Session.symbolsKnown_after`** — the frames whose functions are named after loads;
* **`Session.functionOf_after_mono`** — where more files are asked for, a name stays as it is
  unless it was missing.
-/

namespace CrashReport.Session

variable {s t : Session}

theorem any_markLoaded (file other : String) (images : List MappedFile) :
    ((markLoaded file images).any fun image => image.file = other && image.loaded) =
      ((images.any fun image => image.file = other && image.loaded) ||
        (other = file && images.any fun image => image.file = other)) := by
  induction images with
  | nil => simp [markLoaded]
  | cons image rest ih =>
      unfold markLoaded
      by_cases hfile : image.file = file
      · rw [if_pos hfile]
        by_cases hother : other = file
        · simp [hfile, hother]
        · simp [hfile, hother, Ne.symm hother]
      · rw [if_neg hfile, List.any_cons, ih]
        by_cases hother : other = file
        · subst hother
          simp [hfile]
        · simp [hother]

theorem isSome_found? (s : Session) (file : String) :
    (s.found? file).isSome = s.images.any fun image => image.file = file := by
  unfold found?
  rw [Option.isSome_map, List.isSome_find?]

/-- Some of the loads ask for the file. -/
def asks (loads : List Load) (file : String) : Bool := loads.any fun load => load.file = file

theorem symbolsKnown_load (s : Session) (load : Load) (frame : Frame) :
    (s.load load).symbolsKnown frame =
      (s.symbolsKnown frame ||
        frame.image.any fun file => load.file = file && (s.found? file).isSome) := by
  unfold symbolsKnown
  cases frame.image with
  | none => rfl
  | some file =>
      rw [Option.any_some, isSome_found?]
      show ((markLoaded load.file s.images).any _) = _
      rw [any_markLoaded, decide_eq_decide.2 eq_comm]

theorem symbolsKnown_after (s : Session) (loads : List Load) (frame : Frame) :
    (s.after loads).symbolsKnown frame =
      (s.symbolsKnown frame ||
        frame.image.any fun file => asks loads file && (s.found? file).isSome) := by
  induction loads generalizing s with
  | nil => cases frame.image <;> simp [after, asks]
  | cons load rest ih =>
      have hfound : (s.load load).found? = s.found? :=
        funext fun file => found?_eq_of_recording_eq (recording_load_eq s load) file
      have hstep : (s.after (load :: rest)) = (s.load load).after rest := rfl
      rw [hstep, ih, symbolsKnown_load, hfound]
      cases frame.image with
      | none => simp
      | some file => simp [asks, Bool.or_assoc, Bool.and_or_distrib_right]

/-- Where more files are asked for, a name that is known is the same. -/
theorem functionOf_after_mono (s : Session) {loads more : List Load}
    (h : ∀ file, asks loads file = true → asks more file = true) (frame : Frame) :
    (s.after loads).functionOf frame = none ∨
      (s.after more).functionOf frame = (s.after loads).functionOf frame := by
  have hknown : (s.after loads).symbolsKnown frame = true →
      (s.after more).symbolsKnown frame = true := by
    rw [symbolsKnown_after, symbolsKnown_after]
    cases frame.image with
    | none => exact id
    | some file =>
        simp only [Option.any_some, Bool.or_eq_true, Bool.and_eq_true]
        exact Or.imp_right (And.imp_left (h file))
  unfold functionOf
  cases hloads : (s.after loads).symbolsKnown frame with
  | false => exact .inl rfl
  | true =>
      rw [hknown hloads]
      exact .inr rfl

/-- The files that are asked for decide what is known, not the order of the loads. -/
theorem symbolsKnown_after_eq_of_asks_eq {loads more : List Load} (h : asks loads = asks more) :
    (s.after loads).symbolsKnown = (s.after more).symbolsKnown := by
  funext frame
  rw [symbolsKnown_after, symbolsKnown_after, h]

/-- Loads make nothing known that is known without them once their files are asked for again. -/
theorem symbolsKnown_after_after {loads more : List Load}
    (h : ∀ file, asks loads file = true → asks more file = true) :
    ((s.after loads).after more).symbolsKnown = (s.after more).symbolsKnown := by
  rw [← after_append]
  apply symbolsKnown_after_eq_of_asks_eq
  funext file
  unfold asks
  rw [List.any_append]
  exact (Bool.eq_or_self.2 (h file)).symm

theorem functionOf_after_eq_of_asks_eq {loads more : List Load} (h : asks loads = asks more) :
    (s.after loads).functionOf = (s.after more).functionOf := by
  funext frame
  unfold functionOf
  rw [symbolsKnown_after_eq_of_asks_eq h]

/-- A loader that has attempted nothing asks for the files of all images. -/
theorem asks_requests {l : Loader} (hnone : l.attempted = []) {images : List Image}
    {file : String} : asks (l.requests images) file = true ↔ file ∈ images.map Image.file := by
  have hasks : asks (l.requests images) file = true ↔
      ∃ load ∈ l.requests images, load.file = file := by
    unfold asks
    simp only [List.any_eq_true, decide_eq_true_eq]
  rw [hasks, ← List.mem_map, Loader.files_requests, hnone, Sequence.mem_firsts_id_iff]

end CrashReport.Session
