import CrashReport.Proofs.Session.Recording
import CrashReport.Roster

/-!
# The images of a session

On a recorded session the images of a running process are told by its mappings and by the build
ids that were recorded.

* **`Session.buildIdAt?`** — the build id that is read at an address;
* **`Roster.ofProcess_eq`** — the roster of a running process.
-/

namespace CrashReport

namespace Session

variable {s t : Session}

/-- The build id that is read at an address, if an image starts there and has one. -/
def buildIdAt? (s : Session) (address : UInt64) : Option String :=
  (s.images.find? fun image => image.start = address).bind MappedFile.buildId

theorem buildIdAt?_eq_of_recording_eq (h : s.recording = t.recording) :
    s.buildIdAt? = t.buildIdAt? := by
  refine eq_of_recording_eq (f := buildIdAt?) (fun u => funext fun address => ?_) h
  show ((u.images.map MappedFile.unloaded).find? _).bind _ = _
  rw [find?_unloaded fun _ => rfl, Option.bind_map]
  rfl

end Session

/-- Images that stand in order are kept as they are. -/
theorem ImageList.ofList_eq_of_ascending {images : List Image}
    (h : images.Pairwise fun i j => i.base ≤ j.base) :
    ImageList.ofList images = ⟨images.toArray, h⟩ := by
  have hsorted : images.mergeSort Image.startsBefore = images :=
    List.mergeSort_of_pairwise (h.imp fun hij => by simpa [Image.startsBefore] using hij)
  simp only [ofList, hsorted]

namespace Roster

open Session (debugger)

variable {s : Session}

theorem readImages_eq (program : Option String) (regions : List Region) (s : Session) :
    readImages debugger program regions s =
      (regions.filterMap fun region => imageOf? program region (s.buildIdAt? region.start), s) := by
  induction regions with
  | nil => rfl
  | cons region rest ih =>
      have hread : debugger.perform (.buildIdAt region.start) s =
          ((debugger.perform (.buildIdAt region.start) s).1, s) := by
        simp only [debugger, Session.perform]
        cases s.images.find? fun image => image.start = region.start <;> rfl
      have hanswer : (debugger.perform (.buildIdAt region.start) s).1.toOption.join =
          s.buildIdAt? region.start := by
        simp only [debugger, Session.perform, Session.buildIdAt?]
        cases s.images.find? fun image => image.start = region.start <;> rfl
      unfold readImages
      rw [hread]
      dsimp only
      rw [ih, hanswer, List.filterMap_cons]
      cases imageOf? program region (s.buildIdAt? region.start) <;> rfl

/-- The images of a running process are those of the regions of its mappings. -/
theorem ofProcess_eq (canonical : String → String) (h : s.live = true) :
    ofProcess debugger canonical s =
      ({ images := .ofList ((Region.ofReport (s.mappings.getD "")).filterMap fun region =>
          imageOf? s.programPath region (s.buildIdAt? region.start))
         live := true
         canonical }, s) := by
  have hmappings : debugger.perform .mappings s = (.ok (s.mappings.getD ""), s) := by
    simp only [debugger, Session.perform, h, if_true]
  unfold ofProcess
  rw [hmappings]
  dsimp only
  rw [readImages_eq]
  rfl

end Roster

end CrashReport
