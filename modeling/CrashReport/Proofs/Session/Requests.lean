import CrashReport.Proofs.Session.Recording
import CrashReport.Session.Builder

/-!
# What requests do to a session

The selections and loads on which the loader and the unwinder rest, each as an equation.

* **`Session.perform_switchThread`**, **`perform_switchThread_of_refused`** — the first record
  with a number decides whether a thread can be selected;
* **`perform_selectFrame`**, **`perform_pc_atLevel`** — a frame of the selected thread is
  selected by its level and read;
* **`perform_load`** — a load answers with the build id of the file that is found, and it is
  logged even if there is no such file;
* **`Session.after`** — the session after several loads. They are logged in order
  (`loads_after`), and nothing that is recorded changes (`recording_after`).
-/

namespace CrashReport.Session

variable {s : Session}

/-- The session after a load. -/
def load (s : Session) (load : Load) : Session :=
  { s.logLoad load with images := markLoaded load.file s.images }

theorem markLoaded_of_find?_eq_none {file : String} {images : List MappedFile}
    (h : (images.find? fun image => image.file = file) = none) :
    markLoaded file images = images := by
  induction images with
  | nil => rfl
  | cons image rest ih =>
      rw [List.find?_eq_none] at h
      have hhead : image.file ≠ file := by simpa using h image List.mem_cons_self
      have hrest := ih (List.find?_eq_none.2 fun other ho => h other (List.mem_cons_of_mem _ ho))
      unfold markLoaded
      rw [if_neg hhead, hrest]

theorem perform_load (s : Session) (file : String) (address : UInt64) (detail : Detail) :
    perform (.load file address detail) s =
      (match s.found? file with
        | some found => .ok found
        | none => .error (.command (file ++ ": No such file or directory.")),
      s.load ⟨file, detail⟩) := by
  simp only [perform, found?, load]
  cases h : s.images.find? fun image => image.file = file with
  | none =>
      rw [markLoaded_of_find?_eq_none h]
      rfl
  | some image => rfl

theorem recording_load_eq (s : Session) (load : Load) : (s.load load).recording = s.recording := by
  have h := recording_load load.file 0 load.detail s
  rwa [perform_load] at h

/-- The session after loads, one after the other. -/
def after (s : Session) (loads : List Load) : Session := loads.foldl load s

theorem after_append (s : Session) (loads more : List Load) :
    s.after (loads ++ more) = (s.after loads).after more := List.foldl_append

/-- The selection plays no part in a load. -/
theorem aside_after (s : Session) (loads : List Load) :
    (s.after loads).aside = s.aside.after loads := by
  induction loads generalizing s with
  | nil => rfl
  | cons load rest ih => exact ih (s.load load)

theorem recording_after (s : Session) (loads : List Load) :
    (s.after loads).recording = s.recording := by
  induction loads generalizing s with
  | nil => rfl
  | cons load rest ih => exact (ih (s.load load)).trans (recording_load_eq s load)

theorem thread?_after (s : Session) (loads : List Load) : (s.after loads).thread? = s.thread? :=
  funext (thread?_eq_of_recording_eq (recording_after s loads))

theorem loads_after (s : Session) (loads : List Load) :
    (s.after loads).loads = s.loads ++ loads := by
  induction loads generalizing s with
  | nil => exact (List.append_nil _).symm
  | cons load rest ih => exact (ih (s.load load)).trans (List.append_assoc _ _ _)

theorem downloads_after (s : Session) (loads : List Load) :
    (s.after loads).downloads = s.downloads := by
  induction loads generalizing s with
  | nil => rfl
  | cons load rest ih => exact ih (s.load load)

theorem perform_switchThread {number : UInt32} {record : ThreadRecord}
    (h : s.thread? number = some record) (hvalid : record.thread.valid = true) :
    perform (.switchThread number) s = (.ok (), s.select number) := by
  simp only [perform, h]
  exact if_pos hvalid

/-- A thread cannot be selected unless its first record is valid. -/
theorem perform_switchThread_of_refused {number : UInt32}
    (h : ∀ record, s.thread? number = some record → record.thread.valid = false) :
    perform (.switchThread number) s = (.error (.invalidThread number), s) := by
  simp only [perform]
  cases hrecord : s.thread? number with
  | none => rfl
  | some record => exact if_neg (Bool.eq_false_iff.1 (h record hrecord))

/-- The first record of a number is valid, or the thread cannot be selected. -/
theorem selectable_or_refused (number : UInt32) (s : Session) :
    (∃ record, s.thread? number = some record ∧ record.thread.valid = true) ∨
      ∀ record, s.thread? number = some record → record.thread.valid = false := by
  by_cases h : ∃ record, s.thread? number = some record ∧ record.thread.valid = true
  · exact .inl h
  · exact .inr (by simpa using h)

/-- A thread is selected, or it is refused and nothing comes of that. -/
theorem switchThread_cases (number : UInt32) (s : Session) :
    (∃ record, s.thread? number = some record ∧ record.thread.valid = true ∧
      debugger.perform (.switchThread number) s = (.ok (), s.select number)) ∨
    debugger.perform (.switchThread number) s = (.error (.invalidThread number), s) := by
  rcases selectable_or_refused number s with ⟨record, hrecord, hvalid⟩ | hrefused
  · exact .inl ⟨record, hrecord, hvalid, perform_switchThread hrecord hvalid⟩
  · exact .inr (perform_switchThread_of_refused hrefused)

theorem frames_select {number : UInt32} {record : ThreadRecord}
    (h : s.thread? number = some record) :
    (s.select number).frames = record.frames := by
  unfold frames current?
  show ((s.thread? number).map ThreadRecord.frames).getD [] = record.frames
  rw [h]
  rfl

def atLevel (s : Session) (level : Nat) : Session := { s with level := level }

theorem perform_selectNewest (h : s.frames ≠ []) :
    perform .selectNewest s = (.ok (), s.atLevel 0) := by
  simp only [perform]
  exact if_pos (List.length_pos_iff.2 h)

theorem perform_selectNewest_of_nil (h : s.frames = []) :
    perform .selectNewest s = (.error (.invalidFrame 0), s) := by
  simp only [perform, h]
  rfl

/-- A thread is selected again, at its newest frame. -/
theorem toThread_eq {number : UInt32} {record : ThreadRecord} (h : s.thread? number = some record)
    (hvalid : record.thread.valid = true) :
    debugger.toThread (some number) s = s.select number := by
  have hswitch : debugger.perform (.switchThread number) s = (.ok (), s.select number) :=
    perform_switchThread h hvalid
  show (debugger.perform .selectNewest (debugger.perform (.switchThread number) s).2).2 =
    s.select number
  rw [hswitch]
  by_cases hframes : (s.select number).frames = []
  · exact congrArg Prod.snd (perform_selectNewest_of_nil hframes)
  · exact congrArg Prod.snd (perform_selectNewest hframes)

theorem perform_selectOlder (h : s.level + 1 < s.frames.length) :
    perform .selectOlder s = (.ok (), s.atLevel (s.level + 1)) := by
  simp only [perform]
  exact if_pos h

theorem perform_selectOlder_of_le (h : s.frames.length ≤ s.level + 1) :
    perform .selectOlder s = (.error .noOlderFrame, s) := by
  simp only [perform]
  exact if_neg (Nat.not_lt.2 h)

/-- The older frame of the same thread is selected. -/
theorem selected_of_selectOlder (h : debugger.perform .selectOlder s = (.ok (), t)) :
    t.selected = s.selected ∧ t.level = s.level + 1 := by
  by_cases holder : s.level + 1 < s.frames.length
  · have hperform : debugger.perform .selectOlder s = _ := perform_selectOlder holder
    rw [hperform] at h
    cases h
    exact ⟨rfl, rfl⟩
  · have hperform : debugger.perform .selectOlder s = _ :=
      perform_selectOlder_of_le (Nat.le_of_not_lt holder)
    rw [hperform] at h
    cases h

theorem selected_of_selectNewest (h : debugger.perform .selectNewest s = (.ok (), t)) :
    t.selected = s.selected ∧ t.level = 0 := by
  by_cases hframes : s.frames = []
  · have hperform : debugger.perform .selectNewest s = _ := perform_selectNewest_of_nil hframes
    rw [hperform] at h
    cases h
  · have hperform : debugger.perform .selectNewest s = _ := perform_selectNewest hframes
    rw [hperform] at h
    cases h
    exact ⟨rfl, rfl⟩

theorem perform_selectFrame {level : Nat} (h : level < s.frames.length) :
    perform (.selectFrame level) s = (.ok (), s.atLevel level) := by
  simp only [perform]
  exact if_pos h

theorem perform_selectFrame_of_le {level : Nat} (h : s.frames.length ≤ level) :
    perform (.selectFrame level) s = (.error (.invalidFrame level), s) := by
  simp only [perform]
  exact if_neg (Nat.not_lt.2 h)

/-- What is read of a frame that is selected. -/
theorem read_of_frame?_eq_some {α : Type} {frame : Frame} (h : s.frame? = some frame)
    (what : Frame → Except DebuggerError α) : (s.read what, s) = (what frame, s) := by
  unfold read
  rw [h]

/-- Nothing is read where no frame is selected. -/
theorem read_of_length_le {α : Type} (h : s.frames.length ≤ s.level)
    (what : Frame → Except DebuggerError α) : (s.read what, s) = (.error .noFrame, s) := by
  have hnone : s.frame? = none := List.getElem?_eq_none h
  unfold read
  rw [hnone]

theorem perform_pc_atLevel {level : Nat} (h : level < s.frames.length) :
    perform .pc (s.atLevel level) = (.ok s.frames[level].pc, s.atLevel level) :=
  read_of_frame?_eq_some (s := s.atLevel level) (List.getElem?_eq_getElem h) _

end CrashReport.Session
