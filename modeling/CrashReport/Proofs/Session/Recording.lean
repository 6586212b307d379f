import CrashReport.Proofs.Debugger.Keeping
import CrashReport.Session

/-!
# What a session keeps

A session changes in two ways only: a selection moves, and a load leaves its traces. What
remains is the recording, and most of what the session answers depends on it alone.

* **`Session.aside`** — the session apart from its selection; only a load changes it
  (`aside_perform`);
* **`Session.recording`** — the session apart from its selection and all traces of loads,
  which no request changes (`recording_perform`);
* **`locate_eq_of_recording_eq`**, **`found?_eq_of_recording_eq`** — the owner of an address
  and the file that a load finds are matters of the recording.
-/

namespace CrashReport.Session

variable {s t : Session}

def aside (s : Session) : Session := { s with selected := none, level := 0 }

def MappedFile.unloaded (image : MappedFile) : MappedFile := { image with loaded := false }

def recording (s : Session) : Session :=
  { s.aside with
    downloads := true
    loads := []
    images := s.images.map MappedFile.unloaded }

/-- The build id that a load of a file answers with, if there is such a file. -/
def found? (s : Session) (file : String) : Option (Option String) :=
  (s.images.find? fun image => image.file = file).map MappedFile.foundBuildId

theorem recording_eq_of_aside_eq (h : s.aside = t.aside) : s.recording = t.recording := by
  have hrecording : s.aside.recording = t.aside.recording := by rw [h]
  exact hrecording

/-- Whatever the recording tells is the same in two sessions of one recording. -/
theorem eq_of_recording_eq {α : Type} {f : Session → α} (hf : ∀ u : Session, f u.recording = f u)
    (h : s.recording = t.recording) : f s = f t := by
  rw [← hf s, h, hf t]

theorem threads_eq_of_recording_eq (h : s.recording = t.recording) : s.threads = t.threads :=
  eq_of_recording_eq (fun _ => rfl) h

theorem thread?_eq_of_recording_eq (h : s.recording = t.recording) (number : UInt32) :
    s.thread? number = t.thread? number := by
  unfold thread?
  rw [threads_eq_of_recording_eq h]

theorem unloaded_markLoaded (file : String) (images : List MappedFile) :
    (markLoaded file images).map MappedFile.unloaded = images.map MappedFile.unloaded := by
  induction images with
  | nil => rfl
  | cons image rest ih =>
      unfold markLoaded
      split
      · rfl
      · rw [List.map_cons, List.map_cons, ih]

theorem aside_perform {α : Type} (request : Request α) (s : Session)
    (h : request.isLoad = false) : (perform request s).2.aside = s.aside := by
  cases request with
  | load file address detail => cases h
  | switchThread number =>
      simp only [perform]
      split
      · split <;> rfl
      · rfl
  | selectNewest | selectOlder | selectFrame =>
      simp only [perform]
      split <;> rfl
  | evaluate | mappings | buildIdAt =>
      simp only [perform]
      split <;> rfl
  | pc | frameKind | symbols | registers | staticText => rfl

theorem keeps_aside (s : Session) : debugger.Keeps fun t => t.aside = s.aside :=
  fun request t hread h => (aside_perform request t hread).trans h

theorem recording_load (file : String) (address : UInt64) (detail : Detail) (s : Session) :
    (perform (.load file address detail) s).2.recording = s.recording := by
  simp only [perform]
  split
  · unfold recording
    simp only [unloaded_markLoaded]
    rfl
  · rfl

theorem recording_perform {α : Type} (request : Request α) (s : Session) :
    (perform request s).2.recording = s.recording := by
  cases h : request.isLoad with
  | false => exact recording_eq_of_aside_eq (aside_perform request s h)
  | true =>
      cases request with
      | load file address detail => exact recording_load file address detail s
      | _ => cases h

/-- Images are found by what is recorded of them, whether they are loaded or not. -/
theorem find?_unloaded {p : MappedFile → Bool} (hp : ∀ image, p image.unloaded = p image)
    (images : List MappedFile) :
    (images.map MappedFile.unloaded).find? p = (images.find? p).map MappedFile.unloaded := by
  rw [List.find?_map]
  congr 2
  exact funext hp

theorem found?_eq_of_recording_eq (h : s.recording = t.recording) (file : String) :
    s.found? file = t.found? file := by
  refine eq_of_recording_eq (f := fun u => u.found? file) (fun u => ?_) h
  show ((u.images.map MappedFile.unloaded).find? _).map _ = _
  rw [find?_unloaded fun _ => rfl, Option.map_map]
  rfl

theorem libraryAt_eq_of_recording_eq (h : s.recording = t.recording) (address : UInt64) :
    debugger.libraryAt address s = debugger.libraryAt address t := by
  refine eq_of_recording_eq (f := debugger.libraryAt address) (fun u => ?_) h
  show ((u.images.map MappedFile.unloaded).find? _).map _ = _
  rw [find?_unloaded fun _ => rfl, Option.map_map]
  rfl

theorem owner_eq_of_recording_eq (r : Roster) (address : UInt64)
    (h : s.recording = t.recording) :
    r.owner debugger address s = r.owner debugger address t := by
  unfold Roster.owner
  rw [libraryAt_eq_of_recording_eq h]

theorem locate_eq_of_recording_eq (r : Roster) (address : UInt64)
    (h : s.recording = t.recording) :
    r.locate debugger address s = r.locate debugger address t := by
  unfold Roster.locate
  rw [owner_eq_of_recording_eq r address h]

end CrashReport.Session
