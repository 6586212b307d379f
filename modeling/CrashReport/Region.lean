import CrashReport.Text.Column

/-!
# Mapped regions

A running process is asked for its mappings. The report has one row for each segment,
`start end size offset [permissions] file`, and headers and blank lines that are no
rows. `Region.ofReport` joins the segments of each file to one region:

* rows without a file, with a pseudo file such as `[heap]`, of a device or of a memory
  file are left out;
* the region of a file reaches from its lowest start to its highest end;
* regions stand in the order in which their files first appear.
-/

namespace CrashReport

/-- The part of the address space into which a file is mapped, from `start` on and before `stop`. -/
structure Region where
  path : String
  start : UInt64
  stop : UInt64
  deriving DecidableEq, Repr

namespace Region

/-- The character stands in a column of permissions such as `r-xp`. -/
def isPermission (c : Char) : Bool := "rwxsp-".toList.contains c

/-- The line without the column of permissions, if its four characters follow. -/
def skipPermissions (line : List Char) : List Char :=
  match Column.gap? line with
  | some rest =>
    if (rest.takeWhile isPermission).length < 4 then line else rest.drop 4
  | none => line

/-- The row of a segment, whatever its file is. -/
def ofRow? (line : List Char) : Option Region := do
  let (start, line) ← Column.address? (Column.skip line)
  let (stop, line) ← Column.nextAddress? line
  let (_, line) ← Column.nextAddress? line
  let (_, line) ← Column.nextAddress? line
  return ⟨String.ofList (Text.trim (skipPermissions line)), start, stop⟩

/-- The region is part of a file that is worth reporting. -/
def isFile (r : Region) : Bool :=
  r.path.toList.head? = some '/' &&
    (Text.after? "/dev/".toList r.path.toList).isNone &&
    (Text.after? "/memfd".toList r.path.toList).isNone

/-- The smallest region that holds both. -/
def join (r s : Region) : Region :=
  { r with start := min r.start s.start, stop := max r.stop s.stop }

/-- The regions so far, and the place of each of them by its path. -/
structure Joining where
  regions : List Region := []
  places : List (String × Nat) := []

/-- One more segment is joined to the region of its file, or else is a new region. -/
def Joining.add (j : Joining) (segment : Region) : Joining :=
  match j.places.lookup segment.path with
  | some place => { j with regions := j.regions.modify place fun r => r.join segment }
  | none =>
    { regions := j.regions ++ [segment]
      places := (segment.path, j.regions.length) :: j.places }

/-- The regions of the files in a mappings report. -/
def ofReport (report : String) : List Region :=
  ((((Text.lines report.toList).filterMap ofRow?).filter isFile).foldl Joining.add {}).regions

end Region

end CrashReport
