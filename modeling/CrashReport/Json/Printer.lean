import CrashReport.Json
import CrashReport.Text.Hex

/-!
# Writing JSON

A value is written on one line without blanks (`Json.compact`), or with one field or
element on each line, indented by two blanks for each level (`Json.pretty`). In texts
the quote, the backslash and the control characters are escaped and nothing else is.
-/

namespace CrashReport.Json

/-- How a character is written in a text. -/
def escapeChar (c : Char) : List Char :=
  match c with
  | '"' => ['\\', '"']
  | '\\' => ['\\', '\\']
  | '\x08' => ['\\', 'b']
  | '\x0c' => ['\\', 'f']
  | '\n' => ['\\', 'n']
  | '\r' => ['\\', 'r']
  | '\t' => ['\\', 't']
  | c =>
    if c.toNat < 0x20 then '\\' :: 'u' :: '0' :: '0' :: Hex.ofByte (UInt8.ofNat c.toNat)
    else [c]

/-- A text between quotes. -/
def writeText (s : String) : String :=
  String.ofList ('"' :: (s.toList.flatMap escapeChar ++ ['"']))

/-- A value that is neither array nor object. -/
def writeScalar : Json → String
  | null => "null"
  | bool true => "true"
  | bool false => "false"
  | number n => toString n
  | text s => writeText s
  | array _ => ""
  | object _ => ""

mutual

/-- A value on one line. -/
def compact : Json → String
  | array values => "[" ++ compactValues values ++ "]"
  | object fields => "\x7b" ++ compactFields fields ++ "\x7d"
  | scalar => writeScalar scalar

/-- Values on one line, with commas between them. -/
def compactValues : List Json → String
  | [] => ""
  | [value] => compact value
  | value :: rest => compact value ++ "," ++ compactValues rest

/-- Fields on one line, with commas between them. -/
def compactFields : List (String × Json) → String
  | [] => ""
  | [(name, value)] => writeText name ++ ":" ++ compact value
  | (name, value) :: rest =>
    writeText name ++ ":" ++ compact value ++ "," ++ compactFields rest

end

/-- A new line at a level of indentation. -/
def newline (level : Nat) : String := "\n" ++ String.ofList (List.replicate (2 * level) ' ')

mutual

/-- A value whose parts stand one level further in than `level`. -/
def prettyAt (level : Nat) : Json → String
  | array [] => "[]"
  | array values => "[" ++ prettyValues (level + 1) values ++ newline level ++ "]"
  | object [] => "\x7b\x7d"
  | object fields => "\x7b" ++ prettyFields (level + 1) fields ++ newline level ++ "\x7d"
  | scalar => writeScalar scalar

/-- Values on lines of their own. -/
def prettyValues (level : Nat) : List Json → String
  | [] => ""
  | [value] => newline level ++ prettyAt level value
  | value :: rest => newline level ++ prettyAt level value ++ "," ++ prettyValues level rest

/-- Fields on lines of their own. -/
def prettyFields (level : Nat) : List (String × Json) → String
  | [] => ""
  | [(name, value)] => newline level ++ writeText name ++ ": " ++ prettyAt level value
  | (name, value) :: rest =>
    newline level ++ writeText name ++ ": " ++ prettyAt level value ++ "," ++
      prettyFields level rest

end

/-- A value on lines. -/
def pretty (json : Json) : String := prettyAt 0 json

end CrashReport.Json
