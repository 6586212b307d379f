import CrashReport.Proofs.Text.Scanning
import CrashReport.Region

/-!
# Merged regions

The segments of a file are joined one by one to the region of the file. At any time every file
that has been met has one region, and the region reaches from the lowest start among the segments
of the file to the highest end.

* **`Region.mem_rows_iff`** — the rows that count are those of files;
* **`Region.Spans`** — the extent of a file among rows;
* **`Region.Merged`** — the regions are the extents of the files of the rows; one more row is
  absorbed (`merged_absorb`);
* **`Region.merged_ofReport`** — the regions of a report are those of its rows.
-/

namespace CrashReport.Region

/-- The rows of files on the lines of a report; a line that cannot be read is no row. -/
def rows (report : String) : List Region :=
  ((Text.lines report.toList).filterMap ofRow?).filter isFile

/-- The row names a file by its absolute path, and this is no device and no memory file. -/
def NamesFile (row : Region) : Prop :=
  "/".toList <+: row.path.toList ∧ ¬ "/dev/".toList <+: row.path.toList ∧
    ¬ "/memfd".toList <+: row.path.toList

theorem isFile_iff {row : Region} : row.isFile = true ↔ row.NamesFile := by
  have hslash : row.path.toList.head? = some '/' ↔ "/".toList <+: row.path.toList := by
    show _ ↔ ['/'] <+: row.path.toList
    cases row.path.toList with
    | nil => simp
    | cons c rest => simp [List.cons_prefix_cons, eq_comm]
  unfold isFile NamesFile
  rw [Bool.and_eq_true, Bool.and_eq_true, decide_eq_true_eq, hslash, Option.isNone_iff_eq_none,
    Option.isNone_iff_eq_none, Text.after?_eq_none_iff, Text.after?_eq_none_iff, and_assoc]

instance (row : Region) : Decidable row.NamesFile := decidable_of_iff _ isFile_iff

theorem mem_rows_iff {report : String} {row : Region} :
    row ∈ rows report ↔
      (∃ line ∈ Text.lines report.toList, ofRow? line = some row) ∧ row.NamesFile := by
  unfold rows
  rw [List.mem_filter, List.mem_filterMap, isFile_iff]

/-- The region reaches from the lowest start to the highest end among the rows of its path. -/
structure Spans (rows : List Region) (region : Region) : Prop where
  start_mem : ∃ row ∈ rows, row.path = region.path ∧ row.start = region.start
  start_le : ∀ row ∈ rows, row.path = region.path → region.start ≤ row.start
  stop_mem : ∃ row ∈ rows, row.path = region.path ∧ row.stop = region.stop
  le_stop : ∀ row ∈ rows, row.path = region.path → row.stop ≤ region.stop

/-- Every path of the rows has one region, and it is the extent of the path. -/
structure Merged (rows regions : List Region) : Prop where
  nodup : (regions.map path).Nodup
  covers : ∀ row ∈ rows, row.path ∈ regions.map path
  spans : ∀ region ∈ regions, region.Spans rows

variable {rows regions : List Region} {region other segment : Region}

/-! ### The index of places -/

/-- The regions with one more segment joined to the region of its file, which is searched for. -/
def absorb (regions : List Region) (segment : Region) : List Region :=
  match regions with
  | [] => [segment]
  | r :: rest =>
    if r.path = segment.path then r.join segment :: rest else r :: absorb rest segment

/-- A segment changes no path and adds one only if it is new. -/
theorem paths_absorb (regions : List Region) (segment : Region) :
    (absorb regions segment).map path =
      if segment.path ∈ regions.map path then regions.map path
      else regions.map path ++ [segment.path] := by
  induction regions with
  | nil => simp [absorb]
  | cons r rest ih =>
    by_cases h : r.path = segment.path
    · simp [absorb, join, h]
    · simp only [absorb, h, if_false, List.map_cons, ih, List.mem_cons, Ne.symm h, false_or]
      split <;> simp

/-- The index leads from each path to the place of its first region, and from no other path. -/
def Joining.Indexed (j : Joining) : Prop :=
  ∀ path, j.places.lookup path = (j.regions.map Region.path).findIdx? (· = path)

theorem absorb_of_findIdx?_eq_some {place : Nat}
    (h : (regions.map path).findIdx? (· = segment.path) = some place) :
    absorb regions segment = regions.modify place fun r => r.join segment := by
  induction regions generalizing place with
  | nil => cases h
  | cons r rest ih =>
      unfold absorb
      rw [List.map_cons, List.findIdx?_cons] at h
      split
      · rename_i hpath
        rw [if_pos (by simpa using hpath)] at h
        cases h
        rfl
      · rename_i hpath
        rw [if_neg (by simpa using hpath), Option.map_eq_some_iff] at h
        obtain ⟨place, hrest, rfl⟩ := h
        rw [ih hrest, List.modify_succ_cons]

theorem absorb_of_not_mem (h : segment.path ∉ regions.map path) :
    absorb regions segment = regions ++ [segment] := by
  induction regions with
  | nil => rfl
  | cons r rest ih =>
      rw [List.map_cons, List.mem_cons, not_or] at h
      unfold absorb
      rw [if_neg (Ne.symm h.1), ih h.2, List.cons_append]

theorem findIdx?_eq_none_iff_not_mem {paths : List String} {path : String} :
    paths.findIdx? (· = path) = none ↔ path ∉ paths := by
  rw [List.findIdx?_eq_none_iff]
  simp only [decide_eq_false_iff_not]
  exact ⟨fun h hmem => h path hmem rfl, fun h other hother heq => h (heq ▸ hother)⟩

/-- By way of the index a segment is joined to the region that a search would find. -/
theorem Joining.Indexed.regions_add {j : Joining} (h : j.Indexed) (segment : Region) :
    (j.add segment).regions = absorb j.regions segment := by
  have hplace := h segment.path
  unfold add
  cases hlookup : j.places.lookup segment.path with
  | some place => exact (absorb_of_findIdx?_eq_some (hplace.symm.trans hlookup)).symm
  | none =>
      exact (absorb_of_not_mem (findIdx?_eq_none_iff_not_mem.1 (hplace.symm.trans hlookup))).symm

theorem Joining.Indexed.add {j : Joining} (h : j.Indexed) (segment : Region) :
    (j.add segment).Indexed := by
  intro other
  have hplace := h segment.path
  rw [h.regions_add segment, paths_absorb]
  unfold Joining.add
  cases hlookup : j.places.lookup segment.path with
  | some place =>
      -- the path has a region already, so no path is added
      have hmem : segment.path ∈ j.regions.map path := Decidable.byContradiction fun hnot => by
        cases (findIdx?_eq_none_iff_not_mem.2 hnot).symm.trans (hplace.symm.trans hlookup)
      rw [if_pos hmem]
      exact h other
  | none =>
      have hnew := findIdx?_eq_none_iff_not_mem.1 (hplace.symm.trans hlookup)
      rw [if_neg hnew, List.findIdx?_append, ← h other]
      show List.lookup other ((segment.path, j.regions.length) :: j.places) = _
      rw [List.lookup_cons]
      by_cases hother : other = segment.path
      · subst hother
        simp [hlookup]
      · have hne : (other == segment.path) = false := beq_false_of_ne hother
        simp [hne, Ne.symm hother]

theorem Joining.Indexed.regions_foldl {j : Joining} (h : j.Indexed) (segments : List Region) :
    (segments.foldl Joining.add j).regions = segments.foldl absorb j.regions := by
  induction segments generalizing j with
  | nil => rfl
  | cons segment rest ih => rw [List.foldl_cons, List.foldl_cons, ih (h.add segment), h.regions_add]

theorem ofReport_eq (report : String) :
    ofReport report = (Region.rows report).foldl absorb [] :=
  Joining.Indexed.regions_foldl (j := {}) (fun _ => rfl) _

/-! ### The extents of files -/

theorem Spans.unique (h : region.Spans rows) (h' : other.Spans rows)
    (hpath : region.path = other.path) : region = other := by
  obtain ⟨row, hrow, hrowPath, hstart⟩ := h.start_mem
  obtain ⟨row', hrow', hrowPath', hstart'⟩ := h'.start_mem
  obtain ⟨last, hlast, hlastPath, hstop⟩ := h.stop_mem
  obtain ⟨last', hlast', hlastPath', hstop'⟩ := h'.stop_mem
  have hstarts : region.start = other.start := by
    apply UInt64.le_antisymm
    · rw [← hstart']
      exact h.start_le row' hrow' (hrowPath'.trans hpath.symm)
    · rw [← hstart]
      exact h'.start_le row hrow (hrowPath.trans hpath)
  have hstops : region.stop = other.stop := by
    apply UInt64.le_antisymm
    · rw [← hstop]
      exact h'.le_stop last hlast (hlastPath.trans hpath)
    · rw [← hstop']
      exact h.le_stop last' hlast' (hlastPath'.trans hpath.symm)
  cases region
  cases other
  simp_all

/-- A row of another path does not count. -/
theorem Spans.append_of_ne (h : region.Spans rows) (hne : segment.path ≠ region.path) :
    region.Spans (rows ++ [segment]) := by
  have hsame : ∀ row ∈ rows ++ [segment], row.path = region.path → row ∈ rows := by
    intro row hrow hpath
    rcases List.mem_append.1 hrow with hmem | hmem
    · exact hmem
    · rw [List.mem_singleton.1 hmem] at hpath
      exact absurd hpath hne
  obtain ⟨first, hfirst, hstart⟩ := h.start_mem
  obtain ⟨last, hlast, hstop⟩ := h.stop_mem
  exact ⟨⟨first, List.mem_append_left _ hfirst, hstart⟩,
    fun row hrow hpath => h.start_le row (hsame row hrow hpath) hpath,
    ⟨last, List.mem_append_left _ hlast, hstop⟩,
    fun row hrow hpath => h.le_stop row (hsame row hrow hpath) hpath⟩

theorem min_spec (a b : UInt64) : min a b ≤ a ∧ min a b ≤ b ∧ (min a b = a ∨ min a b = b) :=
  ⟨Std.min_le_left, Std.min_le_right, Std.MinEqOr.min_eq_or a b⟩

theorem max_spec (a b : UInt64) : a ≤ max a b ∧ b ≤ max a b ∧ (max a b = a ∨ max a b = b) := by
  show a ≤ (if a ≤ b then b else a) ∧ b ≤ (if a ≤ b then b else a) ∧ _
  split
  · rename_i hle
    exact ⟨hle, UInt64.le_refl b, .inr (if_pos hle)⟩
  · rename_i hle
    exact ⟨UInt64.le_refl a, (UInt64.le_total a b).resolve_left hle, .inl (if_neg hle)⟩

/-- A row of the path is joined to the region. -/
theorem Spans.join (h : region.Spans rows) (hpath : segment.path = region.path) :
    (region.join segment).Spans (rows ++ [segment]) := by
  obtain ⟨hstart, hstartSegment, hstartEq⟩ := min_spec region.start segment.start
  obtain ⟨hstop, hstopSegment, hstopEq⟩ := max_spec region.stop segment.stop
  have hsegment : segment ∈ rows ++ [segment] := List.mem_append_right _ List.mem_cons_self
  refine ⟨?_, ?_, ?_, ?_⟩
  · rcases hstartEq with heq | heq
    · obtain ⟨first, hfirst, hsame, hfirstStart⟩ := h.start_mem
      exact ⟨first, List.mem_append_left _ hfirst, hsame, hfirstStart.trans heq.symm⟩
    · exact ⟨segment, hsegment, hpath, heq.symm⟩
  · intro row hrow hsame
    rcases List.mem_append.1 hrow with hmem | hmem
    · exact UInt64.le_trans hstart (h.start_le row hmem hsame)
    · rw [List.mem_singleton.1 hmem]
      exact hstartSegment
  · rcases hstopEq with heq | heq
    · obtain ⟨last, hlast, hsame, hlastStop⟩ := h.stop_mem
      exact ⟨last, List.mem_append_left _ hlast, hsame, hlastStop.trans heq.symm⟩
    · exact ⟨segment, hsegment, hpath, heq.symm⟩
  · intro row hrow hsame
    rcases List.mem_append.1 hrow with hmem | hmem
    · exact UInt64.le_trans (h.le_stop row hmem hsame) hstop
    · rw [List.mem_singleton.1 hmem]
      exact hstopSegment

/-- The first row of a path is its region. -/
theorem spans_of_new (hnew : ∀ row ∈ rows, row.path ≠ segment.path) :
    segment.Spans (rows ++ [segment]) := by
  have honly : ∀ row ∈ rows ++ [segment], row.path = segment.path → row = segment := by
    intro row hrow hpath
    rcases List.mem_append.1 hrow with hmem | hmem
    · exact absurd hpath (hnew row hmem)
    · exact List.mem_singleton.1 hmem
  have hsegment : segment ∈ rows ++ [segment] := List.mem_append_right _ List.mem_cons_self
  refine ⟨⟨segment, hsegment, rfl, rfl⟩, ?_, ⟨segment, hsegment, rfl, rfl⟩, ?_⟩
  · intro row hrow hpath
    rw [honly row hrow hpath]
    exact UInt64.le_refl _
  · intro row hrow hpath
    rw [honly row hrow hpath]
    exact UInt64.le_refl _

/-- A region is kept as it is, or the segment is joined to it, or it is the segment. -/
theorem of_mem_absorb (hnodup : (regions.map path).Nodup)
    (h : region ∈ absorb regions segment) :
    (region ∈ regions ∧ segment.path ≠ region.path) ∨
    (∃ r ∈ regions, segment.path = r.path ∧ region = r.join segment) ∨
    (segment.path ∉ regions.map path ∧ region = segment) := by
  induction regions with
  | nil => exact .inr (.inr ⟨List.not_mem_nil, List.mem_singleton.1 h⟩)
  | cons r rest ih =>
      rw [List.map_cons, List.nodup_cons] at hnodup
      unfold absorb at h
      split at h
      · rename_i hpath
        rcases List.mem_cons.1 h with rfl | hmem
        · exact .inr (.inl ⟨r, List.mem_cons_self, hpath.symm, rfl⟩)
        · refine .inl ⟨List.mem_cons_of_mem r hmem, fun hsame => ?_⟩
          rw [hpath, hsame] at hnodup
          exact hnodup.1 (List.mem_map_of_mem hmem)
      · rename_i hpath
        rcases List.mem_cons.1 h with rfl | hmem
        · exact .inl ⟨List.mem_cons_self, Ne.symm hpath⟩
        · rcases ih hnodup.2 hmem with ⟨hold, hne⟩ | ⟨other, hother, hjoin⟩ | ⟨hnew, hsegment⟩
          · exact .inl ⟨List.mem_cons_of_mem r hold, hne⟩
          · exact .inr (.inl ⟨other, List.mem_cons_of_mem r hother, hjoin⟩)
          · refine .inr (.inr ⟨?_, hsegment⟩)
            rw [List.map_cons, List.mem_cons, not_or]
            exact ⟨Ne.symm hpath, hnew⟩

theorem merged_absorb (h : Merged rows regions) (segment : Region) :
    Merged (rows ++ [segment]) (absorb regions segment) := by
  refine ⟨?_, ?_, ?_⟩
  · -- a path is added only if it is new
    rw [paths_absorb]
    split
    · exact h.nodup
    · rename_i hnew
      rw [List.nodup_append]
      refine ⟨h.nodup, List.pairwise_singleton _ _, ?_⟩
      rintro path hpath _ hsegment rfl
      rw [List.mem_singleton.1 hsegment] at hpath
      exact hnew hpath
  · intro row hrow
    rw [paths_absorb]
    rcases List.mem_append.1 hrow with hmem | hmem
    · split
      · exact h.covers row hmem
      · exact List.mem_append_left _ (h.covers row hmem)
    · rw [List.mem_singleton.1 hmem]
      split
      · assumption
      · exact List.mem_append_right _ List.mem_cons_self
  · intro region hregion
    rcases of_mem_absorb h.nodup hregion with ⟨hold, hne⟩ | ⟨r, hr, hpath, rfl⟩ | ⟨hnew, rfl⟩
    · exact (h.spans region hold).append_of_ne hne
    · exact (h.spans r hr).join hpath
    · exact spans_of_new fun row hrow hpath => hnew (hpath ▸ h.covers row hrow)

theorem merged_foldl (h : Merged rows regions) (more : List Region) :
    Merged (rows ++ more) (more.foldl absorb regions) := by
  induction more generalizing rows regions with
  | nil => rwa [List.append_nil]
  | cons segment rest ih =>
      have hrest := ih (merged_absorb h segment)
      rwa [List.append_assoc] at hrest

theorem merged_ofReport (report : String) : Merged (Region.rows report) (ofReport report) := by
  have hnil : Merged [] [] :=
    ⟨List.Pairwise.nil, (fun _ h => nomatch h), (fun _ h => nomatch h)⟩
  rw [ofReport_eq]
  exact merged_foldl hnil _

/-- The regions of a report are exactly the extents of the files on its rows. -/
theorem mem_ofReport_iff {report : String} :
    region ∈ ofReport report ↔ region.Spans (Region.rows report) := by
  have hmerged := merged_ofReport report
  refine ⟨hmerged.spans region, fun hspans => ?_⟩
  obtain ⟨row, hrow, hpath, -⟩ := hspans.start_mem
  obtain ⟨other, hother, hsame⟩ := List.mem_map.1 (hmerged.covers row hrow)
  rwa [hspans.unique (hmerged.spans other hother) (hpath.symm.trans hsame.symm)]

end CrashReport.Region
