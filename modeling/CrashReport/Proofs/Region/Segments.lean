import CrashReport.Proofs.Region
import CrashReport.Proofs.Sequence
import CrashReport.Proofs.Text.Columns
import CrashReport.Proofs.Text.Lines
import Mathlib.Data.List.Nodup
import Mathlib.Data.List.TakeWhile

/-!
# Reports of mappings as they are printed

A mappings report has one row for each segment of the address space, and headers and other lines
between the rows. The columns of a row are addresses, but for the last two: the permissions, which
some debuggers leave out, and the name of what is mapped, which may have blanks in it, or be
missing.

* **`Region.Segment`**, **`Region.Segment.IsRow`** — a segment and the rows it is printed as. The
  row of a segment reads back (`Region.ofRow?_of_isRow`), with permissions or without;
* **`Region.map_path_ofReport`** — regions stand in the order in which their files first appear;
* **`Region.perm_ofReport`** — the order of the rows does not matter for a region;
* **`Region.ofReport_printed`** — the regions of a report are those of the segments printed in it.
-/

namespace CrashReport.Region

open Column (IsAddress IsIndent Separates Follow Ends)

/-- The text stands for what a process may do with a segment. -/
def IsPermissions (text : List Char) : Prop :=
  text.length = 4 ∧ ∀ c ∈ text, c ∈ "rwxsp-".toList

instance (text : List Char) : Decidable (IsPermissions text) :=
  have : Decidable (∀ c ∈ text, c ∈ "rwxsp-".toList) :=
    List.decidableBAll (· ∈ "rwxsp-".toList) text
  inferInstanceAs (Decidable (_ ∧ _))

/-- The text is a path or the name of something that is no file, or nothing, and has no white space
at its end. -/
def IsName (text : List Char) : Prop :=
  (∀ c ∈ text.head?, c = '/' ∨ c = '[') ∧ ∀ c ∈ text.getLast?, Text.isBlank c = false

instance (text : List Char) : Decidable (IsName text) :=
  have : Decidable (∀ c ∈ text.head?, c = '/' ∨ c = '[') := Option.decidableForallMem text.head?
  have : Decidable (∀ c ∈ text.getLast?, Text.isBlank c = false) :=
    Option.decidableForallMem text.getLast?
  inferInstanceAs (Decidable (_ ∧ _))

/-- A segment of the address space, as a debugger prints it. What the process may do there is not
always said. -/
structure Segment where
  start : UInt64
  stop : UInt64
  size : UInt64
  offset : UInt64
  permissions : Option (List Char)
  name : List Char
  isPermissions : ∀ p ∈ permissions, IsPermissions p
  isName : IsName name

namespace Segment

/-- The row as it counts for a region. -/
def region (s : Segment) : Region := ⟨String.ofList s.name, s.start, s.stop⟩

/-- The column of the name, unless there is none. -/
def nameColumn (s : Segment) : List (List Char → Prop) :=
  if s.name = [] then [] else [(· = s.name)]

/-- The columns after the first one. -/
def columns (s : Segment) : List (List Char → Prop) :=
  [(IsAddress · s.stop.toNat), (IsAddress · s.size.toNat), (IsAddress · s.offset.toNat)] ++
    (s.permissions.toList.map fun p column => column = p) ++ s.nameColumn

/-- The line is a row of the segment. -/
def IsRow (line : List Char) (s : Segment) : Prop :=
  ∃ indent address text tail, line = indent ++ (address ++ text) ∧ IsIndent indent ∧
    IsAddress address s.start.toNat ∧ Follow s.columns text tail ∧ IsIndent tail

end Segment

variable {s : Segment} {text tail : List Char}

/-! ## One row -/

theorem isBlank_of_isGap {c : Char} (h : Column.isGap c = true) : Text.isBlank c = true := by
  unfold Column.isGap at h
  rw [Bool.or_eq_true, decide_eq_true_eq, decide_eq_true_eq] at h
  rcases h with rfl | rfl <;> rfl

theorem isBlank_of_isIndent (h : IsIndent text) : ∀ c ∈ text, Text.isBlank c = true :=
  fun c hc => isBlank_of_isGap (h c hc)

theorem ends_of_isIndent (h : IsIndent tail) : Ends tail :=
  fun c hc => h c (List.mem_of_mem_head? hc)

/-- A gap and no column after it. -/
theorem gap?_of_isIndent (h : IsIndent tail) {rest : List Char}
    (hrest : Column.gap? tail = some rest) : rest = [] := by
  cases tail with
  | nil => cases hrest
  | cons c tail =>
      rw [IsIndent, List.forall_mem_cons] at h
      have heq : (if Column.isGap c then some (Column.skip tail) else none) = some rest := hrest
      rw [if_pos h.1] at heq
      rw [← Option.some.inj heq]
      exact List.dropWhile_eq_nil_iff.2 h.2

/-- What is no permission is not taken for one. -/
theorem skipPermissions_of_head? (h : ∀ rest, Column.gap? text = some rest →
    ∀ c ∈ rest.head?, isPermission c = false) : skipPermissions text = text := by
  unfold skipPermissions
  split
  · rename_i rest hrest
    have hnone : rest.takeWhile isPermission = [] := by
      cases rest with
      | nil => rfl
      | cons c rest => exact List.takeWhile_cons_of_neg (by simp [h (c :: rest) hrest c rfl])
    rw [hnone]
    rfl
  · rfl

theorem not_isPermission_of_mem_head? {c : Char} (hc : c ∈ s.name.head?) :
    isPermission c = false ∧ Column.isGap c = false ∧ Text.isBlank c = false := by
  rcases s.isName.1 c hc with rfl | rfl
  · decide
  · decide

theorem not_isGap_of_isPermission {c : Char} (h : isPermission c = true) :
    Column.isGap c = false := by
  have hall : "rwxsp-".toList.all (!Column.isGap ·) = true := by decide
  simpa using List.all_eq_true.1 hall c (List.contains_iff_mem.1 h)

theorem skipPermissions_of_nameColumn (h : Follow s.nameColumn text tail) (htail : IsIndent tail) :
    skipPermissions text = text := by
  refine skipPermissions_of_head? fun rest hrest c hc => ?_
  unfold Segment.nameColumn at h
  split at h
  · cases h
    rw [gap?_of_isIndent htail hrest] at hc
    cases hc
  · rename_i hne
    cases h with
    | @cons _ _ gap column more _ hgap hcolumn hmore =>
        obtain rfl : column = s.name := hcolumn
        have hfirst : ∀ c ∈ s.name.head?, Column.isGap c = false :=
          fun c hc => (not_isPermission_of_mem_head? hc).2.1
        rw [Column.gap?_append hgap (Column.not_isGap_of_head?_append hne hfirst more)] at hrest
        cases hrest
        rw [List.head?_append_of_ne_nil s.name hne] at hc
        exact (not_isPermission_of_mem_head? hc).1

/-- The column of the permissions is skipped if it is there, and no other. -/
theorem skipPermissions_of_follow
    (h : Follow ((s.permissions.toList.map fun p column => column = p) ++ s.nameColumn) text tail)
    (htail : IsIndent tail) :
    Follow s.nameColumn (skipPermissions text) tail := by
  cases hp : s.permissions with
  | none =>
      rw [hp] at h
      rwa [skipPermissions_of_nameColumn h htail]
  | some p =>
      rw [hp] at h
      cases h with
      | @cons _ _ gap column more _ hgap hcolumn hmore =>
          obtain rfl : column = p := hcolumn
          have hlength : column.length = 4 := (s.isPermissions column hp).1
          have hpermission : ∀ c ∈ column, isPermission c = true := fun c hc =>
            List.contains_iff_mem.2 ((s.isPermissions column hp).2 c hc)
          have hne : column ≠ [] := fun hnil => absurd hlength (by rw [hnil]; decide)
          have hfirst : ∀ c ∈ column.head?, Column.isGap c = false := fun c hc =>
            not_isGap_of_isPermission (hpermission c (List.mem_of_mem_head? hc))
          have hskip : skipPermissions (gap ++ (column ++ more)) = more := by
            unfold skipPermissions
            rw [Column.gap?_append hgap (Column.not_isGap_of_head?_append hne hfirst more)]
            show (if _ then _ else _) = more
            rw [List.takeWhile_append_of_pos hpermission, List.length_append, hlength,
              if_neg (by omega), List.drop_left' hlength]
          rwa [hskip]

/-- What is left of a row after the other columns is the name between white space. -/
theorem trim_of_follow (h : Follow s.nameColumn text tail) (htail : IsIndent tail) :
    Text.trim text = s.name := by
  have hafter := isBlank_of_isIndent htail
  unfold Segment.nameColumn at h
  split at h
  · rename_i hnil
    cases h
    rw [hnil]
    exact @Text.trim_between [] [] text (by simp) (by simp) (by simp) hafter
  · cases h with
    | @cons _ _ gap column more _ hgap hcolumn hmore =>
        obtain rfl : column = s.name := hcolumn
        cases hmore
        exact Text.trim_between (isBlank_of_isIndent hgap.2)
          (fun c hc => (not_isPermission_of_mem_head? hc).2.2) s.isName.2 hafter

/-- The row of a segment reads back. -/
theorem ofRow?_of_isRow {line : List Char} (h : s.IsRow line) : ofRow? line = some s.region := by
  obtain ⟨indent, address, text, tail, rfl, hindent, haddress, hfollow, htail⟩ := h
  have hends := ends_of_isIndent htail
  have hstart : Column.address? (Column.skip (indent ++ (address ++ text))) =
      some (s.start, text) := by
    rw [Column.address?_skip_append hindent haddress
        fun c hc => Column.not_isDigit_of_isGap (hfollow.ends hends c hc),
      if_pos s.start.toNat_lt, UInt64.ofNat_toNat]
  obtain ⟨afterStop, hfollow, hstop⟩ := Column.nextAddress?_of_follow hfollow hends
  obtain ⟨afterSize, hfollow, hsize⟩ := Column.nextAddress?_of_follow hfollow hends
  obtain ⟨afterOffset, hfollow, hoffset⟩ := Column.nextAddress?_of_follow hfollow hends
  rw [if_pos (UInt64.toNat_lt _), UInt64.ofNat_toNat] at hstop hsize hoffset
  have hname := trim_of_follow (skipPermissions_of_follow hfollow htail) htail
  unfold ofRow?
  simp only [hstart, hstop, hsize, hoffset, hname, Option.bind_eq_bind, Option.bind_some]
  rfl

/-! ## All rows -/

/-- Segments add the paths that are new, each where it is first met. -/
theorem map_path_foldl_absorb {seen : List String} {regions : List Region}
    (hseen : ∀ p, p ∈ seen ↔ p ∈ regions.map path) (segments : List Region) :
    (segments.foldl absorb regions).map path =
      regions.map path ++ Sequence.firsts id seen (segments.map path) := by
  induction segments generalizing seen regions with
  | nil => exact (List.append_nil _).symm
  | cons segment rest ih =>
      rw [List.foldl_cons, List.map_cons]
      have hpaths := paths_absorb regions segment
      by_cases hold : segment.path ∈ regions.map path
      · rw [if_pos hold] at hpaths
        have hmet : id segment.path ∈ seen := (hseen _).2 hold
        rw [ih (by rwa [hpaths]), hpaths, Sequence.firsts_cons_of_mem (rest.map path) hmet]
      · rw [if_neg hold] at hpaths
        have hmore : ∀ p, p ∈ segment.path :: seen ↔ p ∈ (absorb regions segment).map path := by
          intro p
          rw [hpaths, List.mem_cons, List.mem_append, List.mem_singleton, hseen, or_comm]
        have hnew : id segment.path ∉ seen := fun h => hold ((hseen _).1 h)
        rw [ih hmore, hpaths, List.append_assoc,
          Sequence.firsts_cons_of_notMem (rest.map path) hnew]
        rfl

/-- Regions stand in the order in which their files first appear. -/
theorem map_path_ofReport (report : String) :
    (ofReport report).map path = Sequence.firsts id [] ((rows report).map path) := by
  rw [ofReport_eq]
  exact @map_path_foldl_absorb [] [] (fun _ => Iff.rfl) (rows report)

/-- Whether a region is the extent of its path does not depend on the order of the rows. -/
theorem Spans.of_mem_iff {rows others : List Region} {region : Region} (h : region.Spans rows)
    (hmem : ∀ row, row ∈ rows ↔ row ∈ others) : region.Spans others := by
  obtain ⟨first, hfirst, hstart⟩ := h.start_mem
  obtain ⟨last, hlast, hstop⟩ := h.stop_mem
  exact ⟨⟨first, (hmem first).1 hfirst, hstart⟩, fun row hrow => h.start_le row ((hmem row).2 hrow),
    ⟨last, (hmem last).1 hlast, hstop⟩, fun row hrow => h.le_stop row ((hmem row).2 hrow)⟩

/-- The order of the rows does not matter for a region. -/
theorem perm_ofReport {report other : String} (h : (rows other).Perm (rows report)) :
    (ofReport other).Perm (ofReport report) := by
  have hnodup : ∀ report, (ofReport report).Nodup := fun report =>
    List.Nodup.of_map path (merged_ofReport report).nodup
  rw [List.perm_ext_iff_of_nodup (hnodup other) (hnodup report)]
  intro region
  rw [mem_ofReport_iff, mem_ofReport_iff]
  exact ⟨fun hspans => hspans.of_mem_iff fun row => h.mem_iff,
    fun hspans => hspans.of_mem_iff fun row => h.mem_iff.symm⟩

/-- A file has no rows but those that count. -/
theorem Spans.of_filter {all : List Region} {region : Region}
    (h : region.Spans (all.filter (·.NamesFile))) : region.Spans all := by
  obtain ⟨first, hfirst, hpath, hstart⟩ := h.start_mem
  obtain ⟨last, hlast, hlastPath, hstop⟩ := h.stop_mem
  rw [List.mem_filter, decide_eq_true_eq] at hfirst hlast
  have hcounts : ∀ row ∈ all, row.path = region.path → row ∈ all.filter (·.NamesFile) := by
    intro row hrow hsame
    refine List.mem_filter.2 ⟨hrow, decide_eq_true ?_⟩
    have hfile := hfirst.2
    rw [NamesFile, hpath, ← hsame] at hfile
    exact hfile
  exact ⟨⟨first, hfirst.1, hpath, hstart⟩,
    fun row hrow hsame => h.start_le row (hcounts row hrow hsame) hsame,
    ⟨last, hlast.1, hlastPath, hstop⟩,
    fun row hrow hsame => h.le_stop row (hcounts row hrow hsame) hsame⟩

variable {lines : List (List Char)} {segments : List Segment} {report : String}

theorem rows_printed (hlines : Text.Laid lines report.toList)
    (hrows : Text.Tabulated Segment.IsRow (ofRow? · = none) lines segments) :
    rows report = (segments.map Segment.region).filter (·.NamesFile) := by
  have hall : lines.filterMap ofRow? = segments.map Segment.region := by
    rw [Text.filterMap_of_tabulated (f := ofRow?) (g := some ∘ Segment.region)
      (fun _ _ => ofRow?_of_isRow) (fun _ h => h) hrows, List.filterMap_eq_map]
  unfold rows
  rw [Text.lines_of_laid hlines, hall]
  refine List.filter_congr fun row _ => ?_
  rw [Bool.eq_iff_iff, decide_eq_true_eq, isFile_iff]

/-- The report of segments that are printed on lines has one region for each file among them: the
files in the order in which they first appear, each from the lowest start to the highest end of its
segments. With the lines in another order, the same regions stand in another order. -/
theorem ofReport_printed (hlines : Text.Laid lines report.toList)
    (hrows : Text.Tabulated Segment.IsRow (ofRow? · = none) lines segments) :
    (ofReport report).map path = Sequence.firsts id []
      (((segments.map Segment.region).filter (·.NamesFile)).map path) ∧
    (∀ region ∈ ofReport report, region.Spans (segments.map Segment.region)) ∧
    ∀ (others : List (List Char)) (other : String), others.Perm lines →
      Text.Laid others other.toList → (ofReport other).Perm (ofReport report) := by
  have hprinted := rows_printed hlines hrows
  refine ⟨?_, ?_, ?_⟩
  · rw [map_path_ofReport, hprinted]
  · intro region hregion
    have hspans := mem_ofReport_iff.1 hregion
    rw [hprinted] at hspans
    exact hspans.of_filter
  · intro others other hperm hother
    refine perm_ofReport ?_
    unfold rows
    rw [Text.lines_of_laid hother, Text.lines_of_laid hlines]
    exact (hperm.filterMap ofRow?).filter isFile

/-- A file whose name has a blank in it is mapped in two places: at the end of the address space,
printed in capitals and without permissions, and later lower down. Among its rows are one of
another file, one without a name, a header and an address that is too large. -/
theorem ofReport_printed_blanks :
    let lines := ["Start  End", "\tFFFFFFFFFFFFF000 FFFFFFFFFFFFFFFF 0fff 0x0  /lib/a b.so ",
      "0x2000 0x3000 0x1000 0x0 rw-p", "10000000000000000 1 1 0 /lib/c",
      "0x3000\t0x4000 0x1000 0x0 rw-p /bin/b",
      "0x0000000000001000 0x2000 0x1000 0x0\tr-xp\t/lib/a b.so"].map String.toList
    let segments : List Segment := [
      ⟨0xfffffffffffff000, 0xffffffffffffffff, 0xfff, 0, none, "/lib/a b.so".toList,
        by decide, by decide⟩,
      ⟨0x2000, 0x3000, 0x1000, 0, some "rw-p".toList, [],
        by decide, by decide⟩,
      ⟨0x3000, 0x4000, 0x1000, 0, some "rw-p".toList, "/bin/b".toList,
        by decide, by decide⟩,
      ⟨0x1000, 0x2000, 0x1000, 0, some "r-xp".toList, "/lib/a b.so".toList,
        by decide, by decide⟩]
    let report := "Start  End" ++ ("\r\n" ++
      ("\tFFFFFFFFFFFFF000 FFFFFFFFFFFFFFFF 0fff 0x0  /lib/a b.so " ++ ("\n" ++
      ("0x2000 0x3000 0x1000 0x0 rw-p" ++ ("\n" ++
      ("10000000000000000 1 1 0 /lib/c" ++ ("\r\n" ++
      ("0x3000\t0x4000 0x1000 0x0 rw-p /bin/b" ++ ("\n" ++
      "0x0000000000001000 0x2000 0x1000 0x0\tr-xp\t/lib/a b.so")))))))))
    (Text.Laid lines report.toList ∧
      Text.Tabulated Segment.IsRow (ofRow? · = none) lines segments) ∧
    (ofReport report).map path = ["/lib/a b.so", "/bin/b"] ∧
    (∀ region ∈ ofReport report, region.Spans (segments.map Segment.region)) ∧
    ∀ (others : List (List Char)) (other : String), others.Perm lines →
      Text.Laid others other.toList → (ofReport other).Perm (ofReport report) := by
  intro lines segments report
  have hlines : Text.Laid lines report.toList := by
    simp only [report, String.toList_append]
    exact .returnFeed (by decide) (.feed (by decide) (by decide) (.feed (by decide) (by decide)
      (.returnFeed (by decide) (.feed (by decide) (by decide) (.last (by decide) (by decide))))))
  have hblank : Separates " ".toList := by decide
  have htab : Separates "\t".toList := by decide
  have hzero : IsAddress "0x0".toList 0 := .inr ⟨_, rfl, 0, "0".toList, rfl, by decide⟩
  have hone : IsAddress "0x1000".toList 0x1000 :=
    .inr ⟨_, rfl, 0, "1000".toList, rfl, by decide⟩
  have htwo : IsAddress "0x2000".toList 0x2000 :=
    .inr ⟨_, rfl, 0, "2000".toList, rfl, by decide⟩
  have hthree : IsAddress "0x3000".toList 0x3000 :=
    .inr ⟨_, rfl, 0, "3000".toList, rfl, by decide⟩
  have hfour : IsAddress "0x4000".toList 0x4000 :=
    .inr ⟨_, rfl, 0, "4000".toList, rfl, by decide⟩
  have hpadded : IsAddress "0x0000000000001000".toList 0x1000 :=
    .inr ⟨_, rfl, 12, "1000".toList, rfl, by decide⟩
  have hend : IsAddress "FFFFFFFFFFFFFFFF".toList 0xffffffffffffffff :=
    .inl ⟨0, _, rfl, by decide⟩
  have hrows : Text.Tabulated Segment.IsRow (ofRow? · = none) lines segments := by
    -- the header and the line whose first number is too great are no rows
    refine .other (by decide) (.row ?_ (.row ?_ (.other (by decide) (.row ?_ (.row ?_ .nil)))))
    · refine ⟨"\t".toList, "FFFFFFFFFFFFF000".toList, _, " ".toList, ?_, by decide,
        .inl ⟨0, _, rfl, by decide⟩,
        .cons hblank hend
          (.cons hblank (.inl ⟨1, "fff".toList, rfl, by decide⟩)
            (.cons hblank hzero (.cons (show Separates "  ".toList by decide) rfl .nil))),
        by decide⟩
      rfl
    · refine ⟨[], _, _, [], ?_, by decide, htwo,
        .cons hblank hthree (.cons hblank hone (.cons hblank hzero (.cons hblank rfl .nil))),
        by decide⟩
      rfl
    · refine ⟨[], _, _, [], ?_, by decide, hthree,
        .cons htab hfour
          (.cons hblank hone (.cons hblank hzero (.cons hblank rfl (.cons hblank rfl .nil)))),
        by decide⟩
      rfl
    · refine ⟨[], _, _, [], ?_, by decide, hpadded,
        .cons hblank htwo
          (.cons hblank hone (.cons hblank hzero (.cons htab rfl (.cons htab rfl .nil)))),
        by decide⟩
      rfl
  obtain ⟨hpaths, hspans, hperm⟩ := ofReport_printed hlines hrows
  exact ⟨⟨hlines, hrows⟩, hpaths.trans (by decide), hspans, hperm⟩

end CrashReport.Region
