import CrashReport.Image
import CrashReport.Text.Column

/-!
# Listings of a core image

The images of a core image are listed by a tool that prints one line for each,
`start+length id@address file debug-file name`. A hyphen in the place of the id says
that the image has none, one in the place of the debug file that no debug information
was found. Lines that are no such line are passed over, as are images without a file.
-/

namespace CrashReport.Listing

/-- The line without the address of the build id, if one follows. -/
def skipAddress (line : List Char) : List Char :=
  match line with
  | '@' :: after => ((Column.address? after).map (·.2)).getD line
  | line => line

/-- The column of the build id; its address is optional and not used. The id is given in
lower case, and `some none` stands for an image without one. -/
def buildId? (line : List Char) : Option (Option String × List Char) :=
  match line.takeWhile Hex.isDigit, line with
  | [], '-' :: rest => some (none, skipAddress rest)
  | [], _ => none
  | digits, line =>
    some (some (String.ofList (digits.map Char.toLower)),
      skipAddress (line.dropWhile Hex.isDigit))

/-- The least of a sum and the greatest address. -/
def addCapped (a b : UInt64) : UInt64 :=
  if a.toNat + b.toNat < UInt64.size then a + b else UInt64.ofNat (UInt64.size - 1)

/-- The image that a line lists, whatever its file is. -/
def ofLine? (line : List Char) : Option Image := do
  let (start, line) ← Column.address? (Column.skip line)
  let line ← Text.after? ['+'] line
  let (length, line) ← Column.address? line
  let (buildId, line) ← (Column.gap? line).bind buildId?
  let (file, line) ← Column.nextWord? line
  let (debugFile, _) ← Column.nextWord? line
  return {
    file := String.ofList file
    base := start
    limit := addCapped start length
    buildId := buildId
    hasDebugInfo := debugFile ≠ ['-'] }

/-- The image has a file of its own. -/
def hasFile (image : Image) : Bool := image.file ≠ "." && image.file ≠ "-"

/-- The images that the tool lists. -/
def images (text : String) : ImageList :=
  ImageList.ofList (((Text.lines text.toList).filterMap ofLine?).filter hasFile)

end CrashReport.Listing
