import CrashReport.MachineInterface
import CrashReport.Text.Utf8

/-!
# Reading result records

A list of results is read from the front of a text:

    results  =  result *( "," result )
    result   =  name "=" value
    value    =  constant / "{" [ results ] "}" / "[" [ results / values ] "]"
    values   =  value *( "," value )

A constant stands between quotes, in which a backslash makes the next character stand
for itself, or for a line feed, tab or carriage return if it is `n`, `t` or `r`. A list
ends before a comma that no further element follows.

Each reader gives what it read and the rest of the text, or the place where it stopped
with what it expected there. `readValue` takes the greatest depth of nesting, which
`read` bounds by the length of the text.
-/

namespace CrashReport.MachineInterface

/-- The place where reading stopped, as the rest of the text, and what was expected. -/
structure Stop where
  rest : List Char
  expected : Expectation
  deriving DecidableEq, Repr

/-- Reads something from the front of a text. -/
abbrev Reader (α : Type) := List Char → Except Stop (α × List Char)

/-- The character may stand in a name. -/
def isNameChar (c : Char) : Bool := c.isAlphanum || c = '_' || c = '-'

/-- The character that an escaped character stands for. -/
def unescape (c : Char) : Char :=
  match c with
  | 'n' => '\n'
  | 't' => '\t'
  | 'r' => '\r'
  | c => c

/-- The text of a constant, up to the quote that ends it. -/
def constant? : List Char → Option (List Char × List Char)
  | '"' :: rest => some ([], rest)
  | '\\' :: c :: text => (constant? text).map fun (s, rest) => (unescape c :: s, rest)
  | ['\\'] => none
  | c :: text => (constant? text).map fun (s, rest) => (c :: s, rest)
  | [] => none

/-- Reads a result, given how to read its value. -/
def readResult (value : Reader Value) : Reader Result := fun text =>
  match text.takeWhile isNameChar, text.dropWhile isNameChar with
  | [], _ => .error ⟨text, .name⟩
  | name, '=' :: rest => (value rest).map fun (v, rest) => ((String.ofList name, v), rest)
  | _, rest => .error ⟨rest, .character⟩

/-- The elements that follow the first one, each after a comma, at most `fuel` of them. -/
def readMore {α : Type} (element : Reader α) : (fuel : Nat) → List Char → List α × List Char
  | fuel + 1, ',' :: text =>
    match element text with
    | .ok (x, rest) =>
      let (xs, rest) := readMore element fuel rest
      (x :: xs, rest)
    | .error _ => ([], ',' :: text)
  | _, text => ([], text)

/-- As many elements with commas between them as there are, maybe none. -/
def readMany {α : Type} (element : Reader α) (text : List Char) : List α × List Char :=
  match element text with
  | .ok (x, rest) =>
    let (xs, rest) := readMore element rest.length rest
    (x :: xs, rest)
  | .error _ => ([], text)

/-- Reads a value in which values are nested less than `depth` deep. -/
def readValue : (depth : Nat) → Reader Value
  | 0, text => .error ⟨text, .character⟩
  | depth + 1, text =>
    match text with
    | '"' :: body =>
      match constant? body with
      | some (s, rest) => .ok (.constant (String.ofList s), rest)
      | none => .error ⟨text, .character⟩
    | '\x7b' :: body =>
      match readMany (readResult (readValue depth)) body with
      | (results, '\x7d' :: rest) => .ok (.tuple results, rest)
      | _ => .error ⟨text, .character⟩
    | '[' :: body =>
      match readMany (readResult (readValue depth)) body with
      | ([], _) =>
        match readMany (readValue depth) body with
        | (values, ']' :: rest) => .ok (.list values, rest)
        | (_, rest) => .error ⟨rest, .character⟩
      | (results, ']' :: rest) => .ok (.named results, rest)
      | (_, rest) => .error ⟨rest, .character⟩
    | _ => .error ⟨text, .character⟩

/-- The error of a text in which reading stopped. -/
def ReadError.ofStop (text : List Char) (stop : Stop) : ReadError :=
  ⟨Utf8.size text - Utf8.size stop.rest, stop.expected⟩

/-- Reads one or more results that make up the whole text. -/
def readAll (text : List Char) : Except Stop (List Result) :=
  let result := readResult (readValue text.length)
  match result text with
  | .error stop => .error stop
  | .ok (first, rest) =>
    match readMore result rest.length rest with
    | (more, []) => .ok (first :: more)
    | (_, rest) => .error ⟨rest, .nothing⟩

/-- The results that a text lists. -/
def read (text : String) : Except ReadError (List Result) :=
  (readAll text.toList).mapError (ReadError.ofStop text.toList)

end CrashReport.MachineInterface
