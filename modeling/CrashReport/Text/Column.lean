import CrashReport.Text.Blank
import CrashReport.Text.Hex

/-!
# Columns of a line

Debuggers and listing tools print tables whose columns are separated by blanks and
tabs. A column is read off the front of the line; each reader gives what it read and
the rest of the line, or nothing if the line is no row of the table.

* **`Column.address?`** — an address in hexadecimal, with or without `0x`;
* **`Column.word?`** — a word without blanks and tabs;
* **`Column.gap?`** — the white space between two columns.
-/

namespace CrashReport.Column

/-- The character separates columns. -/
def isGap (c : Char) : Bool := c = ' ' || c = '\t'

/-- The line without indentation. -/
def skip (line : List Char) : List Char := line.dropWhile isGap

/-- The line after the white space that must stand between two columns. -/
def gap? : List Char → Option (List Char)
  | c :: rest => if isGap c then some (skip rest) else none
  | [] => none

/-- A number below two to the power of 64 in hexadecimal digits. -/
def number? (line : List Char) : Option (UInt64 × List Char) :=
  match Hex.value? (line.takeWhile Hex.isDigit) with
  | some n => if n < UInt64.size then some (UInt64.ofNat n, line.dropWhile Hex.isDigit) else none
  | none => none

/-- An address; once `0x` has been read, digits must follow. -/
def address? (line : List Char) : Option (UInt64 × List Char) :=
  match line with
  | '0' :: 'x' :: rest => number? rest
  | line => number? line

/-- An address in the next column. -/
def nextAddress? (line : List Char) : Option (UInt64 × List Char) :=
  (gap? line).bind address?

/-- One or more characters other than blanks and tabs. -/
def word? (line : List Char) : Option (List Char × List Char) :=
  match line.takeWhile (!isGap ·) with
  | [] => none
  | word => some (word, line.dropWhile (!isGap ·))

/-- A word in the next column. -/
def nextWord? (line : List Char) : Option (List Char × List Char) :=
  (gap? line).bind word?

end CrashReport.Column
