import CrashReport.Proofs.Investigation.Reported

/-!
# Which paths are followed

An investigation asks where paths lead: the paths of the images, and the names by which the debugger
knows its libraries. It asks of no other path, so all of them can be followed beforehand.

* **`Roster.Follows`** — a function says of all these paths what the roster says of them;
* **`Roster.Follows.locate_eq`** — then it finds the same images;
* **`investigate_eq_of_follows`** — an investigation with such a function has the same answer.
-/

namespace CrashReport

open Session (ThreadRecord debugger)

variable {s t : Session} {address : UInt64} {image : Image}

theorem ImageList.mem_of_holding?_eq_some {l : ImageList} (h : l.holding? address = some image) :
    image ∈ l.toList :=
  Array.mem_toList_iff.2 (Array.mem_of_getElem? (Option.filter_eq_some_iff.1 h).1)

theorem ImageList.mem_of_named?_eq_some {l : ImageList} {file : String}
    (h : l.named? file = some image) : image ∈ l.toList :=
  List.mem_of_find?_eq_some h

namespace Roster

variable {r : Roster} {canonical : String → String}

/-- The function says where the paths of the images lead, and the names of the session's libraries,
as the roster does. -/
structure Follows (r : Roster) (s : Session) (canonical : String → String) : Prop where
  images : ∀ image ∈ r.images.toList, canonical image.file = r.canonical image.file
  libraries : ∀ image ∈ s.images, canonical image.file = r.canonical image.file

theorem mem_of_owner_eq_some (h : r.owner debugger address s = some image) :
    image ∈ r.images.toList := by
  unfold owner library? at h
  split at h
  · rcases Option.or_eq_some_iff.1 h with hlibrary | ⟨-, hholding⟩
    · obtain ⟨name, -, hnamed⟩ := Option.bind_eq_some_iff.1 hlibrary
      rcases Option.or_eq_some_iff.1 hnamed with hcanonical | ⟨-, hraw⟩
      · exact ImageList.mem_of_named?_eq_some hcanonical
      · exact ImageList.mem_of_named?_eq_some hraw
    · exact ImageList.mem_of_holding?_eq_some hholding
  · exact ImageList.mem_of_holding?_eq_some h

theorem Follows.owner_eq (h : r.Follows s canonical) (address : UInt64) :
    ({ r with canonical } : Roster).owner debugger address s = r.owner debugger address s := by
  have hlibrary : (debugger.libraryAt address s).bind ({ r with canonical } : Roster).library? =
      (debugger.libraryAt address s).bind r.library? := by
    show ((s.imageAt? address).map _).bind _ = ((s.imageAt? address).map _).bind _
    cases hat : s.imageAt? address with
    | none => rfl
    | some file =>
        have hfile := h.libraries file (List.mem_of_find?_eq_some hat)
        simp only [Option.map_some, Option.bind_some, library?, hfile]
  unfold owner
  rw [hlibrary]

/-- The same images are found, whatever is selected and loaded in the session. -/
theorem Follows.locate_eq (h : r.Follows s canonical) (ht : t.recording = s.recording)
    (address : UInt64) : ({ r with canonical } : Roster).locate debugger address t =
      r.locate debugger address t := by
  rw [Session.locate_eq_of_recording_eq _ address ht,
    Session.locate_eq_of_recording_eq r address ht]
  unfold locate
  rw [h.owner_eq]
  cases howner : r.owner debugger address s with
  | none => rfl
  | some image => simp only [Option.map_some, h.images image (mem_of_owner_eq_some howner)]

theorem Follows.owners_eq (h : r.Follows s canonical) (frames : List Session.Frame) :
    ({ r with canonical } : Roster).owners s frames = r.owners s frames := by
  unfold owners
  simp only [h.locate_eq rfl]

theorem Follows.stackOf_eq (h : r.Follows s canonical) (ht : t.recording = s.recording)
    (o : Unwind.Options) (record : ThreadRecord) :
    Unwind.stackOf { r with canonical } o t record = Unwind.stackOf r o t record := by
  have hreported : Unwind.reported { r with canonical } o t = Unwind.reported r o t := by
    funext frame
    unfold Unwind.reported
    rw [h.locate_eq ht]
  unfold Unwind.stackOf Unwind.recordedFrames
  rw [hreported]

end Roster

namespace Investigation

variable {o : Options} {canonical : String → String} {crashed : ThreadRecord}

theorem roster_canonical (o : Options) (s : Session) (canonical : String → String) :
    (roster debugger { o with canonical } s).1 =
      { (roster debugger o s).1 with canonical } := by
  cases hlive : s.live with
  | true => rw [roster_of_live _ hlive, roster_of_live _ hlive]
  | false =>
      rw [roster_of_core _ hlive, roster_of_core _ hlive]
      dsimp only
      cases ((o.coreFile.or s.coreFile).filter fun core => canPass (coreArgument core)).bind
        o.listing <;> rfl

/-- The same images are attempted, and so the same one is objected to. -/
theorem failure?_of_follows (h : (roster debugger o s).1.Follows s canonical) :
    failure? { o with canonical } s = failure? o s := by
  unfold failure?
  cases s.current? with
  | none => rfl
  | some crashed =>
      dsimp only
      rw [roster_canonical, h.owners_eq]
      rfl

theorem stackFor_of_follows (h : (roster debugger o s).1.Follows s canonical) :
    stackFor { o with canonical } s crashed = stackFor o s crashed := by
  have hloads : ∀ record, loadsBefore { o with canonical } s crashed record =
      loadsBefore o s crashed record := by
    intro record
    unfold loadsBefore need Loader.needs
    simp only [roster_canonical, h.owners_eq]
  funext record
  unfold stackFor
  rw [hloads, roster_canonical, h.stackOf_eq (Session.recording_after s _)]
  rfl

/-- An investigation follows no paths but those of the images and of the session's libraries. -/
theorem investigate_eq_of_follows (h : (roster debugger o s).1.Follows s canonical) :
    (investigate debugger { o with canonical } s).1 = (investigate debugger o s).1 := by
  cases hcurrent : s.current? with
  | none =>
      rw [investigate_of_current?_eq_none _ hcurrent, investigate_of_current?_eq_none _ hcurrent]
  | some crashed =>
      -- canonical paths stand in the stacks alone; the images are told by the paths they came with
      have hreport : reportOf { o with canonical } s crashed = reportOf o s crashed := by
        unfold reportOf
        rw [stackFor_of_follows h, roster_canonical]
        rfl
      rw [investigate_eq _ hcurrent, investigate_eq _ hcurrent, failure?_of_follows h, hreport]

end Investigation

end CrashReport
