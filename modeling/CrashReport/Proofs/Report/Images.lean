import CrashReport.Proofs.BuildId
import CrashReport.Proofs.Investigation.Loads
import CrashReport.Proofs.Investigation.Reported
import CrashReport.Proofs.Region
import CrashReport.Report.Event

/-!
# The images of an event

Symbols are found by the images of an event, so a library that is missing there, or that stands
at a wrong address, makes all its frames unreadable. The images of a running process are told by
the report of its mappings: one for every file that is code or has a build id, from the lowest
start of its rows to the highest end.

* **`codeId_of_ofBuildId?_eq_some`** — a build id that has a debug id has no other characters than
  digits, so its code id loses none;
* **`Region.Reported`** — the regions that have an image;
* **`Region.DescribedBy`** — an entry of the event describes a region;
* **`investigate_images`** — the images of the event of a running process.
-/

namespace CrashReport

/-! ### Ids and sizes -/

/-- The code id is the whole build id, if this is one that has a debug id. -/
theorem codeId_of_ofBuildId?_eq_some {buildId : String} {id : DebugId}
    (h : DebugId.ofBuildId? buildId = some id) :
    codeId buildId = String.ofList (buildId.toList.map Char.toLower) := by
  have hid := DebugId.isSome_ofBuildId?_iff.1 (Option.isSome_of_eq_some h)
  have hdigits : ∀ c ∈ buildId.toList, Hex.isDigit c = true :=
    fun c hc => Hex.isDigit_iff.2 (hid.digits c hc)
  unfold codeId
  rw [List.filter_eq_self.2 hdigits]

theorem Image.toNat_size (image : Image) :
    image.size.toNat = image.limit.toNat - image.base.toNat := by
  unfold Image.size
  split
  · rename_i hlt
    have := UInt64.lt_iff_toNat_lt.1 hlt
    show 0 = _
    omega
  · rename_i hle
    exact UInt64.toNat_sub_of_le _ _ (UInt64.not_lt.1 hle)

/-! ### Images and regions -/

namespace Roster

theorem isCode_iff {program : Option String} {path : String} :
    isCode program path = true ↔ program = some path ∨ Path.isLibrary path = true := by
  unfold isCode
  rw [Bool.or_eq_true, decide_eq_true_eq]

/-- A region has an image if it is code or has a build id. -/
theorem imageOf?_eq_some_iff {program : Option String} {region : Region}
    {buildId : Option String} {image : Image} :
    imageOf? program region buildId = some image ↔
      (program = some region.path ∨ Path.isLibrary region.path = true ∨ buildId.isSome = true) ∧
        ⟨region.path, region.start, region.stop, buildId, false⟩ = image := by
  have hkept : (buildId.isNone && !isCode program region.path) = false ↔
      program = some region.path ∨ Path.isLibrary region.path = true ∨ buildId.isSome = true := by
    rw [← or_assoc, ← isCode_iff]
    cases isCode program region.path <;> cases buildId <;> simp
  unfold imageOf?
  rw [← hkept]
  cases buildId.isNone && !isCode program region.path with
  | true => simp
  | false => simp

end Roster

/-! ### The images of a running process -/

/-- A region that has an image: the program, a library, or a file with a build id that can be
read at its start. -/
def Region.Reported (s : Session) (region : Region) : Prop :=
  s.programPath = some region.path ∨ Path.isLibrary region.path = true ∨
    (s.buildIdAt? region.start).isSome = true

/-- The entry of an event describes the region. -/
structure Region.DescribedBy (s : Session) (region : Region) (entry : Json) : Prop where
  file : entry.field? "code_file" = some (.text region.path)
  address : entry.field? "image_addr" = some (.text (Hex.address region.start))
  size : entry.field? "image_size" =
    some (.number ((region.stop.toNat - region.start.toNat : Nat) : Int))
  ids : ∃ buildId debugId, s.buildIdAt? region.start = some buildId ∧
    DebugId.ofBuildId? buildId = some debugId ∧
    entry.field? "debug_id" = some (.text debugId.text) ∧
    entry.field? "code_id" = some (.text (String.ofList (buildId.toList.map Char.toLower)))

namespace Investigation

open Session (debugger)

variable {o : Options} {s : Session} {report : Report}

theorem debugId?_of_investigate_eq_ok (h : (investigate debugger o s).1 = .ok report) :
    ∀ image ∈ (roster debugger o s).1.images.toList, image.debugId?.isSome := by
  obtain ⟨crashed, hcrashed, -⟩ := eq_reportOf_of_investigate_eq_ok h
  have hnone := (exists_investigate_eq_ok_iff o s).1 ⟨report, h⟩
  exact missingBuildId?_eq_none_iff.1 ((failure?_eq_none_iff hcrashed).1 hnone).2

/-- The images of the event are those of the report. -/
theorem images_toJson (report : Report) (c : Circumstances) :
    ∃ debugMeta, (report.toJson c).field? "debug_meta" = some debugMeta ∧
      debugMeta.field? "images" =
        some (.array (report.images.toList.map (Report.imageJson c.machine.arch))) := by
  refine ⟨.ofFields [
        ("images", .array (report.images.toList.map (Report.imageJson c.machine.arch)))], ?_, ?_⟩
  · unfold Report.toJson
    rw [Json.field?_append, Json.field?_optional, Json.field?_ofFields]
    rfl
  · rw [Json.field?_ofFields]
    rfl

/-- The region of an image. -/
def regionOf (image : Image) : Region := ⟨image.file, image.base, image.limit⟩

/-- The images of a running process are those of the files on the rows of its mappings. -/
theorem mem_images_iff (o : Options) (hlive : s.live = true) {image : Image} :
    image ∈ (roster debugger o s).1.images.toList ↔
      (regionOf image).Spans (Region.rows (s.mappings.getD "")) ∧ (regionOf image).Reported s ∧
        image.buildId = s.buildIdAt? image.base ∧ image.hasDebugInfo = false := by
  rw [roster_of_live o hlive]
  show image ∈ (ImageList.ofList _).toList ↔ _
  rw [(ImageList.perm_toList_ofList _).mem_iff, List.mem_filterMap]
  simp only [Roster.imageOf?_eq_some_iff, Region.mem_ofReport_iff]
  constructor
  · rintro ⟨region, hspans, hreported, rfl⟩
    exact ⟨hspans, hreported, rfl, rfl⟩
  · rintro ⟨hspans, hreported, hbuildId, hinfo⟩
    refine ⟨regionOf image, hspans, hreported, ?_⟩
    cases image
    simp_all [regionOf]

theorem nodup_files_images (o : Options) (hlive : s.live = true) :
    ((roster debugger o s).1.images.toList.map Image.file).Nodup := by
  rw [roster_of_live o hlive]
  show ((ImageList.ofList _).toList.map Image.file).Nodup
  rw [((ImageList.perm_toList_ofList _).map Image.file).nodup_iff]
  have hpaths := (Region.merged_ofReport (s.mappings.getD "")).nodup
  -- an image has the path of its region, and no two regions have one path
  unfold List.Nodup at hpaths ⊢
  rw [List.pairwise_map] at hpaths ⊢
  rw [List.pairwise_filterMap]
  refine hpaths.imp fun hne image himage other hother => ?_
  obtain ⟨-, rfl⟩ := Roster.imageOf?_eq_some_iff.1 himage
  obtain ⟨-, rfl⟩ := Roster.imageOf?_eq_some_iff.1 hother
  exact hne

theorem describedBy_imageJson (arch : String) {image : Image} {debugId : DebugId}
    (hbuildId : image.buildId = s.buildIdAt? image.base) (hid : image.debugId? = some debugId) :
    (regionOf image).DescribedBy s (Report.imageJson arch image) := by
  obtain ⟨buildId, hsome, hdebugId⟩ := Option.bind_eq_some_iff.1 hid
  refine ⟨?_, ?_, ?_, buildId, debugId, hbuildId ▸ hsome, hdebugId, ?_, ?_⟩
  all_goals
    unfold Report.imageJson
    rw [Json.field?_ofFields]
  · rfl
  · rfl
  · show some (Json.number image.size.toNat) = _
    rw [Image.toNat_size]
    rfl
  · rw [hid]
    rfl
  · unfold Image.codeId?
    rw [hsome, ← codeId_of_ofBuildId?_eq_some hdebugId]
    rfl

/-- The images of the event of a running process, whenever there is a report.

They are described in the order of their first addresses, and each file is among them once. Every
file that is named on a line of the mappings has an extent, and it is among the images if it is
the program, a library, or has a build id at its start; no other file is. Each image has a debug
id, and its code id is its build id in lower case. -/
theorem investigate_images (c : Circumstances) (hlive : s.live = true)
    (h : (investigate debugger o s).1 = .ok report) :
    ∃ debugMeta entries regions, (report.toJson c).field? "debug_meta" = some debugMeta ∧
      debugMeta.field? "images" = some (.array entries) ∧
      List.Forall₂ (Region.DescribedBy s) regions entries ∧
      regions.Pairwise (fun region later => region.start ≤ later.start) ∧
      (regions.map Region.path).Nodup ∧
      (∀ region ∈ regions,
        region.Spans (Region.rows (s.mappings.getD "")) ∧ region.Reported s) ∧
      ∀ line ∈ Text.lines (s.mappings.getD "").toList, ∀ row, Region.ofRow? line = some row →
        row.NamesFile → ∃ region, region.path = row.path ∧
          region.Spans (Region.rows (s.mappings.getD "")) ∧
          (region.Reported s → region ∈ regions) := by
  obtain ⟨crashed, -, hreport⟩ := eq_reportOf_of_investigate_eq_ok h
  have himages : report.images = (roster debugger o s).1.images := by rw [hreport]; rfl
  have hids := debugId?_of_investigate_eq_ok h
  obtain ⟨debugMeta, hmeta, hentries⟩ := images_toJson report c
  rw [himages] at hentries
  refine ⟨debugMeta, _, (roster debugger o s).1.images.toList.map regionOf, hmeta, hentries,
    ?_, ?_, ?_, ?_, ?_⟩
  · rw [List.forall₂_map_left_iff, List.forall₂_map_right_iff, List.forall₂_same]
    intro image himage
    obtain ⟨debugId, hdebugId⟩ := Option.isSome_iff_exists.1 (hids image himage)
    obtain ⟨-, -, hbuildId, -⟩ := (mem_images_iff o hlive).1 himage
    exact describedBy_imageJson c.machine.arch hbuildId hdebugId
  · rw [List.pairwise_map]
    exact (roster debugger o s).1.images.ascending
  · rw [List.map_map]
    exact nodup_files_images o hlive
  · intro region hregion
    obtain ⟨image, himage, rfl⟩ := List.mem_map.1 hregion
    obtain ⟨hspans, hreported, -, -⟩ := (mem_images_iff o hlive).1 himage
    exact ⟨hspans, hreported⟩
  · intro line hline row hline' hfile
    -- the file has a region, and this has an image unless it is a data file
    have hrow : row ∈ Region.rows (s.mappings.getD "") :=
      Region.mem_rows_iff.2 ⟨⟨line, hline, hline'⟩, hfile⟩
    obtain ⟨region, hregion, hpath⟩ :=
      List.mem_map.1 ((Region.merged_ofReport (s.mappings.getD "")).covers row hrow)
    have hspans := Region.mem_ofReport_iff.1 hregion
    refine ⟨region, hpath, hspans, fun hreported => ?_⟩
    let image : Image := ⟨region.path, region.start, region.stop, s.buildIdAt? region.start, false⟩
    have himage : image ∈ (roster debugger o s).1.images.toList :=
      (mem_images_iff o hlive).2 ⟨hspans, hreported, rfl, rfl⟩
    exact List.mem_map.2 ⟨image, himage, rfl⟩

theorem rows_libraries : Region.rows (libraries.mappings.getD "") =
    [⟨"/lib/a.so", 0x1000, 0x1800⟩, ⟨"/lib/b.so", 0x2000, 0x3000⟩,
      ⟨"/lib/c.so", 0x3000, 0x4000⟩, ⟨"/lib/a.so", 0x1800, 0x2000⟩] := by
  decide +kernel

/-- The first library is mapped by two rows that do not stand together. -/
theorem spans_libraries : (⟨"/lib/a.so", 0x1000, 0x2000⟩ : Region).Spans
    (Region.rows (libraries.mappings.getD "")) := by
  rw [rows_libraries]
  exact ⟨by decide, by decide, by decide, by decide⟩

theorem investigate_images_libraries : libraries.live = true ∧ ∃ report debugMeta entries,
    (investigate debugger {} libraries).1 = .ok report ∧
    (report.toJson ⟨[], { seconds := 0 }, { arch := "x86_64" }⟩).field? "debug_meta" =
      some debugMeta ∧
    debugMeta.field? "images" = some (.array entries) ∧
    ∃ entry ∈ entries, entry.field? "code_file" = some (.text "/lib/a.so") ∧
      entry.field? "image_addr" = some (.text (Hex.address 0x1000)) ∧
      entry.field? "image_size" = some (.number 0x1000) := by
  obtain ⟨report, hreport⟩ := exists_report_libraries .spacious
  obtain ⟨debugMeta, entries, regions, hmeta, hentries, hdescribed, -, -, -, hall⟩ :=
    investigate_images ⟨[], { seconds := 0 }, { arch := "x86_64" }⟩ rfl hreport
  have hrow : ⟨"/lib/a.so", 0x1000, 0x1800⟩ ∈ Region.rows (libraries.mappings.getD "") := by
    rw [rows_libraries]
    exact List.mem_cons_self
  obtain ⟨⟨line, hline, hofRow⟩, hfile⟩ := Region.mem_rows_iff.1 hrow
  obtain ⟨region, hpath, hspans, hmem⟩ := hall line hline _ hofRow hfile
  obtain rfl := hspans.unique spans_libraries hpath
  obtain ⟨entry, hentry, hdescribe⟩ :=
    exists_mem_of_forall₂ hdescribed (hmem (.inr (.inl (by decide))))
  exact ⟨rfl, report, debugMeta, entries, hreport, hmeta, hentries, entry, hentry,
    hdescribe.file, hdescribe.address, hdescribe.size⟩

end Investigation

end CrashReport
