import CrashReport.Listing
import CrashReport.Proofs.Image.Order
import CrashReport.Proofs.Text.Columns
import CrashReport.Proofs.Text.Lines

/-!
# Listings as they are printed

A listing has one line for each image, and other lines between them. What the line says of the
image is a record.

* **`Listing.Record`**, **`Listing.Record.IsRow`** — a record and the lines it is printed as. The
  line of a record reads back as its image, unless one of its numbers does not fit
  (`Listing.ofLine?_of_isRow`);
* **`Listing.images_printed`** — the images of a listing are those of the records printed in it.
-/

namespace CrashReport.Listing

open Column (IsAddress IsIndent IsWord Separates Follow Ends)

/-- What a listing says of an image. A build id is in either case, and where it stands is not always
said. `file` may be what is printed for an image without a file, and `debugFile` a hyphen. -/
structure Record where
  start : Nat
  length : Nat
  buildId : Option (List Char)
  address : Option Nat
  file : List Char
  debugFile : List Char
  isDigits_buildId : ∀ id ∈ buildId, Hex.IsDigits id
  isWord_file : IsWord file
  isWord_debugFile : IsWord debugFile

namespace Record

/-- What is printed after the build id: its address after an at sign, or nothing. -/
def IsMark (mark : List Char) (r : Record) : Prop :=
  match r.address with
  | none => mark = []
  | some n => ∃ address, mark = '@' :: address ∧ IsAddress address n

/-- The column of the build id. -/
def IsId (column : List Char) (r : Record) : Prop :=
  ∃ mark, column = r.buildId.getD ['-'] ++ mark ∧ IsMark mark r

/-- The line is printed for the record. Whatever follows the last column is the name of the
image. -/
def IsRow (line : List Char) (r : Record) : Prop :=
  ∃ indent start length text name, line = indent ++ (start ++ '+' :: (length ++ text)) ∧
    IsIndent indent ∧ IsAddress start r.start ∧ IsAddress length r.length ∧
    Follow [(IsId · r), (· = r.file), (· = r.debugFile)] text name ∧ Ends name

/-- The numbers are addresses. -/
def Fits (r : Record) : Prop :=
  r.start < UInt64.size ∧ r.length < UInt64.size ∧ ∀ n ∈ r.address, n < UInt64.size

instance (r : Record) : Decidable r.Fits := inferInstanceAs (Decidable (_ ∧ _ ∧ _))

/-- The image has a file of its own. -/
def HasFile (r : Record) : Prop := r.file ≠ ['.'] ∧ r.file ≠ ['-']

instance (r : Record) : Decidable r.HasFile := inferInstanceAs (Decidable (_ ∧ _))

/-- The image that the record is about. An image does not reach beyond the greatest address. -/
def image (r : Record) : Image where
  file := String.ofList r.file
  base := UInt64.ofNat r.start
  limit := UInt64.ofNat (min (r.start + r.length) (UInt64.size - 1))
  buildId := r.buildId.map fun id => String.ofList (id.map Char.toLower)
  hasDebugInfo := r.debugFile ≠ ['-']

/-- The column of the build id begins with a digit or a hyphen. -/
theorem not_isGap_buildId (r : Record) (text : List Char) :
    ∀ c ∈ (r.buildId.getD ['-'] ++ text).head?, Column.isGap c = false := by
  cases hid : r.buildId with
  | none =>
      rintro _ ⟨⟩
      decide
  | some id =>
      have hfirst : ∀ c ∈ id.head?, Column.isGap c = false := fun c hc =>
        Column.not_isGap_of_isDigit ((r.isDigits_buildId id hid).2 c (List.mem_of_mem_head? hc))
      exact Column.not_isGap_of_head?_append ((r.isDigits_buildId id hid).1) hfirst text

end Record

variable {r : Record} {text rest mark column line : List Char}

/-! ## One line -/

/-- The address of the build id is skipped, unless it is too large: then it stands there without
a gap before it. -/
theorem skipAddress_append (hmark : Record.IsMark mark r) (hrest : Ends rest) :
    if ∀ n ∈ r.address, n < UInt64.size then skipAddress (mark ++ rest) = rest
    else Column.gap? (skipAddress (mark ++ rest)) = none := by
  unfold Record.IsMark at hmark
  split at hmark
  · rename_i hnone
    subst hmark
    rw [hnone, if_pos (by simp)]
    show skipAddress rest = rest
    unfold skipAddress
    split
    · exact absurd (hrest '@' rfl) (by decide)
    · rfl
  · rename_i n hsome
    obtain ⟨address, rfl, haddress⟩ := hmark
    have hread := Column.address?_append haddress
      fun c hc => Column.not_isDigit_of_isGap (hrest c hc)
    have hskip : skipAddress ('@' :: address ++ rest) =
        ((Column.address? (address ++ rest)).map (·.2)).getD ('@' :: (address ++ rest)) := rfl
    rw [hskip, hread]
    by_cases hn : n < UInt64.size
    · rw [if_pos hn, if_pos (by simpa [hsome] using hn)]
      rfl
    · rw [if_neg hn, if_neg (by simpa [hsome] using hn)]
      rfl

/-- The digits of a build id end before the address. -/
theorem not_isDigit_of_isMark (hmark : Record.IsMark mark r) (hrest : Ends rest) :
    ∀ c ∈ (mark ++ rest).head?, Hex.isDigit c = false := by
  unfold Record.IsMark at hmark
  split at hmark
  · subst hmark
    exact fun c hc => (Column.not_isDigit_of_isGap (hrest c hc)).1
  · obtain ⟨address, rfl, -⟩ := hmark
    rintro _ ⟨⟩
    decide

theorem buildId?_append (hmark : Record.IsMark mark r) (hrest : Ends rest) :
    buildId? (r.buildId.getD ['-'] ++ (mark ++ rest)) =
      some (r.image.buildId, skipAddress (mark ++ rest)) := by
  have himage : r.image.buildId = r.buildId.map fun id => String.ofList (id.map Char.toLower) := rfl
  have hafter := not_isDigit_of_isMark hmark hrest
  rw [himage]
  cases hid : r.buildId with
  | none => rfl
  | some id =>
      have hdigits := (r.isDigits_buildId id hid).2
      show buildId? (id ++ (mark ++ rest)) = _
      have hdrop := dropWhile_append_of_head? hdigits hafter
      unfold buildId?
      rw [takeWhile_append_of_head? hdigits hafter]
      cases id with
      | nil => exact absurd rfl (r.isDigits_buildId [] hid).1
      | cons c id =>
          show some (some _, skipAddress (List.dropWhile Hex.isDigit _)) = _
          rw [hdrop]
          rfl

/-- After the build id the next column can be read, unless the address is too large. -/
theorem nextBuildId?_of_follow {columns : List (List Char → Prop)}
    (h : Follow ((Record.IsId · r) :: columns) text rest) (hrest : Ends rest) :
    ∃ more, (Column.gap? text).bind buildId? = some (r.image.buildId, more) ∧
      if ∀ n ∈ r.address, n < UInt64.size then Follow columns more rest
      else Column.gap? more = none := by
  cases h with
  | @cons _ _ gap column more _ hgap hcolumn hmore =>
      obtain ⟨mark, rfl, hmark⟩ := hcolumn
      have hends := hmore.ends hrest
      have hskip := skipAddress_append hmark hends
      refine ⟨skipAddress (mark ++ more), ?_, ?_⟩
      · rw [List.append_assoc, Column.gap?_append hgap (r.not_isGap_buildId (mark ++ more)),
          Option.bind_some, buildId?_append hmark hends]
      · by_cases hfits : ∀ n ∈ r.address, n < UInt64.size
        · rw [if_pos hfits] at hskip ⊢
          rwa [hskip]
        · rw [if_neg hfits] at hskip ⊢
          exact hskip

theorem addCapped_ofNat {a b : Nat} (ha : a < UInt64.size) (hb : b < UInt64.size) :
    addCapped (UInt64.ofNat a) (UInt64.ofNat b) = UInt64.ofNat (min (a + b) (UInt64.size - 1)) := by
  unfold addCapped
  rw [UInt64.toNat_ofNat_of_lt' ha, UInt64.toNat_ofNat_of_lt' hb]
  split
  · rename_i hlt
    rw [Nat.min_eq_left (by omega), UInt64.ofNat_add]
  · rename_i hge
    rw [Nat.min_eq_right (by omega)]

/-- The line of a record reads back as the image of the record, unless a number is too large. -/
theorem ofLine?_of_isRow (h : Record.IsRow line r) :
    ofLine? line = if r.Fits then some r.image else none := by
  obtain ⟨indent, start, length, text, name, rfl, hindent, hstart, hlength, hfollow, hname⟩ := h
  have hreadStart : Column.address? (Column.skip (indent ++ (start ++ '+' :: (length ++ text)))) =
      if r.start < UInt64.size then some (UInt64.ofNat r.start, '+' :: (length ++ text))
      else none := by
    refine Column.address?_skip_append hindent hstart ?_
    rintro _ ⟨⟩
    decide
  have hreadLength : Column.address? (length ++ text) =
      if r.length < UInt64.size then some (UInt64.ofNat r.length, text) else none :=
    Column.address?_append hlength fun c hc => Column.not_isDigit_of_isGap (hfollow.ends hname c hc)
  obtain ⟨afterId, hreadId, hfollow⟩ := nextBuildId?_of_follow hfollow hname
  have hplus : Text.after? ['+'] ('+' :: (length ++ text)) = some (length ++ text) := rfl
  unfold ofLine?
  -- the numbers are read from left to right, and the first one that does not fit ends it
  by_cases hs : r.start < UInt64.size
  case neg =>
    rw [if_neg hs] at hreadStart
    rw [if_neg fun h => hs h.1]
    simp only [hreadStart, Option.bind_eq_bind, Option.bind_none]
  by_cases hl : r.length < UInt64.size
  case neg =>
    rw [if_pos hs] at hreadStart
    rw [if_neg hl] at hreadLength
    rw [if_neg fun h => hl h.2.1]
    simp only [hreadStart, hplus, hreadLength, Option.bind_eq_bind, Option.bind_some,
      Option.bind_none]
  rw [if_pos hs] at hreadStart
  rw [if_pos hl] at hreadLength
  by_cases ha : ∀ n ∈ r.address, n < UInt64.size
  case neg =>
    -- the build id is read without its address, and no blank follows it then
    rw [if_neg ha] at hfollow
    have hfile : Column.nextWord? afterId = none := by
      unfold Column.nextWord?
      rw [hfollow, Option.bind_none]
    rw [if_neg fun h => ha h.2.2]
    simp only [hreadStart, hplus, hreadLength, hreadId, hfile, Option.bind_eq_bind,
      Option.bind_some, Option.bind_none]
  rw [if_pos ha] at hfollow
  obtain ⟨afterFile, hfollow, hfile⟩ := Column.nextWord?_of_follow hfollow r.isWord_file hname
  obtain ⟨afterDebug, -, hdebug⟩ := Column.nextWord?_of_follow hfollow r.isWord_debugFile hname
  rw [if_pos ⟨hs, hl, ha⟩]
  simp only [hreadStart, hplus, hreadLength, hreadId, hfile, hdebug, Option.bind_eq_bind,
    Option.bind_some, addCapped_ofNat hs hl]
  rfl

/-! ## All lines -/

variable {lines : List (List Char)} {records : List Record} {listing : String}

theorem hasFile_image (r : Record) : hasFile r.image = decide r.HasFile := by
  have hfile : r.image.file.toList = r.file := String.toList_ofList
  have hdot : ".".toList = ['.'] := rfl
  have hhyphen : "-".toList = ['-'] := rfl
  rw [Bool.eq_iff_iff, hasFile, Bool.and_eq_true, decide_eq_true_eq, decide_eq_true_eq,
    decide_eq_true_eq, Ne, Ne, ← String.toList_inj, ← String.toList_inj, hfile, hdot, hhyphen]
  rfl

/-- The images of a listing, of records that are printed on lines, are those of the records whose
numbers fit and whose images have a file, in the order of their first addresses, and in the order
of the records where these are the same. -/
theorem images_printed (hlines : Text.Laid lines listing.toList)
    (hrows : Text.Tabulated Record.IsRow (ofLine? · = none) lines records) :
    ImageList.InOrder ((records.filter fun r => r.Fits ∧ r.HasFile).map Record.image)
      (images listing).toList := by
  have hread : lines.filterMap ofLine? = (records.filter (·.Fits)).map Record.image := by
    rw [← List.filterMap_eq_map', List.filterMap_filter]
    simp only [decide_eq_true_eq]
    exact Text.filterMap_of_tabulated (fun _ _ => ofLine?_of_isRow) (fun _ h => h) hrows
  have hprinted : ((Text.lines listing.toList).filterMap ofLine?).filter hasFile =
      (records.filter fun r => r.Fits ∧ r.HasFile).map Record.image := by
    rw [Text.lines_of_laid hlines, hread, List.filter_map, List.filter_filter]
    refine congrArg _ (List.filter_congr fun r _ => ?_)
    rw [Function.comp_apply, hasFile_image, Bool.decide_and, Bool.and_comm]
  unfold images
  rw [hprinted]
  exact ImageList.inOrder_ofList _

/-- Two images start at one address, the second of them without a build id and up to the end of the
address space, and a third one starts before them. An image without a file and one whose build id
would stand at too great an address are left out. -/
theorem images_printed_ties :
    let lines := ["core file:", "0x2000+0x1000 ABcd@0x2004 /lib/b - b",
      "\t2000+FFFFFFFFFFFFFFFF -\t/lib/a /d/a ", "0x1000+0x1000 -@0x1000 . - vdso",
      "0x1000+0x1000 ab@10000000000000000 /lib/c - c", "0x1000+0x1000 0f /bin/a  - a b"].map
      String.toList
    let records : List Record := [
      ⟨0x2000, 0x1000, some "ABcd".toList, some 0x2004, "/lib/b".toList, "-".toList,
        by decide, by decide, by decide⟩,
      ⟨0x2000, 0xffffffffffffffff, none, none, "/lib/a".toList, "/d/a".toList,
        by decide, by decide, by decide⟩,
      ⟨0x1000, 0x1000, none, some 0x1000, ".".toList, "-".toList,
        by decide, by decide, by decide⟩,
      ⟨0x1000, 0x1000, some "ab".toList, some UInt64.size, "/lib/c".toList, "-".toList,
        by decide, by decide, by decide⟩,
      ⟨0x1000, 0x1000, some "0f".toList, none, "/bin/a".toList, "-".toList,
        by decide, by decide, by decide⟩]
    let listing := "core file:" ++ ("\r\n" ++ ("0x2000+0x1000 ABcd@0x2004 /lib/b - b" ++ ("\n" ++
      ("\t2000+FFFFFFFFFFFFFFFF -\t/lib/a /d/a " ++ ("\n" ++
      ("0x1000+0x1000 -@0x1000 . - vdso" ++ ("\r\n" ++
      ("0x1000+0x1000 ab@10000000000000000 /lib/c - c" ++ ("\n" ++
      "0x1000+0x1000 0f /bin/a  - a b")))))))))
    (Text.Laid lines listing.toList ∧
      Text.Tabulated Record.IsRow (ofLine? · = none) lines records) ∧
    ImageList.InOrder [⟨"/lib/b", 0x2000, 0x3000, some "abcd", false⟩,
        ⟨"/lib/a", 0x2000, 0xffffffffffffffff, none, true⟩,
        ⟨"/bin/a", 0x1000, 0x2000, some "0f", false⟩]
      (images listing).toList := by
  intro lines records listing
  have hlines : Text.Laid lines listing.toList := by
    simp only [listing, String.toList_append]
    exact .returnFeed (by decide) (.feed (by decide) (by decide) (.feed (by decide) (by decide)
      (.returnFeed (by decide) (.feed (by decide) (by decide) (.last (by decide) (by decide))))))
  have hblank : Separates " ".toList := by decide
  have hone : IsAddress "0x1000".toList 0x1000 :=
    .inr ⟨_, rfl, 0, "1000".toList, rfl, by decide⟩
  have htwo : IsAddress "0x2000".toList 0x2000 :=
    .inr ⟨_, rfl, 0, "2000".toList, rfl, by decide⟩
  have hrows : Text.Tabulated Record.IsRow (ofLine? · = none) lines records := by
    -- the header is no record; the others are taken apart column by column
    refine .other (by decide) (.row ?_ (.row ?_ (.row ?_ (.row ?_ (.row ?_ .nil)))))
    · refine ⟨[], _, _, _, " b".toList, ?_, by decide, htwo, hone,
        .cons hblank ⟨_, rfl, "0x2004".toList, rfl,
            .inr ⟨_, rfl, 0, "2004".toList, rfl, by decide⟩⟩
          (.cons hblank rfl (.cons hblank rfl .nil)), by decide⟩
      rfl
    · refine ⟨"\t".toList, "2000".toList, "FFFFFFFFFFFFFFFF".toList, _, " ".toList, ?_, by decide,
        .inl ⟨0, _, rfl, by decide⟩, .inl ⟨0, _, rfl, by decide⟩,
        .cons hblank ⟨[], rfl, rfl⟩
          (.cons (show Separates "\t".toList by decide) rfl (.cons hblank rfl .nil)), by decide⟩
      rfl
    · refine ⟨[], _, _, _, " vdso".toList, ?_, by decide, hone, hone,
        .cons hblank ⟨_, rfl, _, rfl, hone⟩ (.cons hblank rfl (.cons hblank rfl .nil)),
        by decide⟩
      rfl
    · refine ⟨[], _, _, _, " c".toList, ?_, by decide, hone, hone,
        .cons hblank ⟨_, rfl, "10000000000000000".toList, rfl,
            .inl ⟨0, _, rfl, by decide⟩⟩
          (.cons hblank rfl (.cons hblank rfl .nil)), by decide⟩
      rfl
    · refine ⟨[], _, _, _, " a b".toList, ?_, by decide, hone, hone,
        .cons hblank ⟨[], rfl, rfl⟩
          (.cons hblank rfl (.cons (show Separates "  ".toList by decide) rfl .nil)), by decide⟩
      rfl
  exact ⟨⟨hlines, hrows⟩, images_printed hlines hrows⟩

end CrashReport.Listing
