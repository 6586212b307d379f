import CrashReport.Text.Scan

/-!
# White space

The characters with the Unicode property `White_Space`, and the operations that
only this class decides: taking it off the ends of a text, and splitting a text
into the words between it.
-/

namespace CrashReport.Text

/-- The character has the Unicode property `White_Space`. -/
def isBlank (c : Char) : Bool :=
  let n := c.toNat
  (0x9 ≤ n && n ≤ 0xd) || n == 0x20 || n == 0x85 || n == 0xa0 || n == 0x1680 ||
    (0x2000 ≤ n && n ≤ 0x200a) || n == 0x2028 || n == 0x2029 || n == 0x202f ||
    n == 0x205f || n == 0x3000

/-- The text without white space at its end. -/
def trimEnd (text : List Char) : List Char :=
  (text.reverse.dropWhile isBlank).reverse

/-- The text without white space at either end. -/
def trim (text : List Char) : List Char :=
  trimEnd (text.dropWhile isBlank)

/-- The words of a text, that is its longest runs without white space. -/
def words : List Char → List (List Char)
  | [] => []
  | c :: text =>
    if isBlank c then words text
    else
      match text with
      | [] => [[c]]
      | d :: _ =>
        if isBlank d then [c] :: words text
        else
          match words text with
          | [] => [[c]]
          | word :: rest => (c :: word) :: rest

end CrashReport.Text
