import CrashReport.Json.Numeral
import CrashReport.Text.Hex
import CrashReport.Text.Utf8

/-!
# Scanning JSON text

JSON text is read from the front, and the first flaw that is met counts. There are
three kinds of flaw: the text is no JSON, it is JSON of the wrong shape, or it ends too
early. This module holds the parts below values:

* **`Flaw`**, **`Scan`** — the kinds of flaw, and readers that may meet one;
* **`textBody`** — a text up to its closing quote, with its escapes resolved;
* **`numeral`** — a number, whole or not;
* **`skipValue`** — any value, of which nothing but the grammar is checked.
-/

namespace CrashReport.Json

/-- What is wrong with a text: it is no JSON, it is JSON of the wrong shape, or it ends too early.
-/
inductive Flaw where
  | malformed
  | mismatch
  | unfinished
  deriving DecidableEq, Repr

/-- Reads something from the front of a text, or meets a flaw. -/
abbrev Scan (α : Type) := StateT (List Char) (Except Flaw) α

/-- The character may stand between the parts of a text. -/
def isSpace (c : Char) : Bool := c = ' ' || c = '\n' || c = '\t' || c = '\r'

/-- Skips white space and gives the next character, which stays. -/
def peek : Scan (Option Char) := do
  modify (List.dropWhile isSpace)
  return (← get).head?

/-- Takes the next character, which has been looked at before. -/
def advance : Scan Unit := modify List.tail

/-- Reads the rest of a word of which the first letter has been looked at. -/
def word (letters : List Char) : Scan Unit := fun text =>
  match letters, text with
  | [], text => .ok ((), text)
  | _ :: _, [] => .error .unfinished
  | l :: letters, c :: text => if l = c then word letters text else .error .malformed

/-- A character of a text: one that stands for itself or has an escape of its own, or a
unit of UTF-16 given by its number. -/
inductive TextUnit where
  | char (c : Char)
  | code (n : Nat)
  deriving DecidableEq, Repr

/-- The character of an escape of one letter. -/
def escaped? (c : Char) : Option Char :=
  match c with
  | '"' => some '"'
  | '\\' => some '\\'
  | '/' => some '/'
  | 'b' => some '\x08'
  | 'f' => some '\x0c'
  | 'n' => some '\n'
  | 'r' => some '\r'
  | 't' => some '\t'
  | _ => none

/-- The flaw of an escape that should have four digits: the text ends before them if not
even four octets follow. -/
def digitsFlaw (text : List Char) : Flaw :=
  if Utf8.size text < 4 then .unfinished else .malformed

/-- The units of a text up to the closing quote or the first flaw, and then the rest or
the flaw. -/
def textUnits : List Char → List TextUnit × Except Flaw (List Char)
  | [] => ([], .error .unfinished)
  | '"' :: rest => ([], .ok rest)
  | ['\\'] => ([], .error .unfinished)
  | '\\' :: 'u' :: a :: b :: c :: d :: rest =>
    match Hex.value? [a, b, c, d] with
    | some n =>
      let (units, ending) := textUnits rest
      (.code n :: units, ending)
    | none => ([], .error .malformed)
  | '\\' :: 'u' :: rest => ([], .error (digitsFlaw rest))
  | '\\' :: e :: rest =>
    match escaped? e with
    | some c =>
      let (units, ending) := textUnits rest
      (.char c :: units, ending)
    | none => ([], .error .malformed)
  | c :: rest =>
    if c.toNat < 0x20 then ([], .error .malformed)
    else
      let (units, ending) := textUnits rest
      (.char c :: units, ending)

/-- The characters of units, and then `ending`. A unit that is half of a character must be
followed by the other half. -/
def joinUnits (ending : Except Flaw (List Char)) :
    List TextUnit → Except Flaw (List Char × List Char)
  | [] => ending.map fun rest => ([], rest)
  | .char c :: units => (joinUnits ending units).map fun (s, rest) => (c :: s, rest)
  | .code n :: units =>
    if n < 0xd800 ∨ 0xdfff < n then
      (joinUnits ending units).map fun (s, rest) => (Char.ofNat n :: s, rest)
    else if 0xdc00 ≤ n then .error .malformed
    else
      match units with
      | .code m :: units =>
        if 0xdc00 ≤ m ∧ m ≤ 0xdfff then
          let c := Char.ofNat (0x10000 + 0x400 * (n - 0xd800) + (m - 0xdc00))
          (joinUnits ending units).map fun (s, rest) => (c :: s, rest)
        else .error .malformed
      | [] =>
        match ending with
        | .ok _ => .error .malformed
        | .error flaw => .error flaw
      | .char _ :: _ => .error .malformed

/-- A text after its opening quote. -/
def textBody : Scan String := fun text =>
  let (units, ending) := textUnits text
  (joinUnits ending units).map fun (s, rest) => (String.ofList s, rest)

/-- Skips a text after its opening quote; its escapes may be halves of characters. -/
def skipText : Scan Unit := fun text =>
  (textUnits text).2.map fun rest => ((), rest)

/-- One or more digits at a place where they must stand. -/
def digits : Scan (List Char) := fun text =>
  match text.takeWhile Char.isDigit, text with
  | [], [] => .error .unfinished
  | [], _ :: _ => .error .malformed
  | run, text => .ok (run, text.dropWhile Char.isDigit)

/-- The digits before the point: a zero, or digits that do not begin with one. -/
def wholeDigits : Scan (List Char) := do
  let run ← digits
  match run with
  | '0' :: _ :: _ => throw .malformed
  | run => return run

/-- The power of ten, if there is one. -/
def exponent : Scan (Option Int) := do
  match (← get).head? with
  | some e =>
    if e = 'e' ∨ e = 'E' then
      advance
      match (← get).head? with
      | some '-' =>
        advance
        return some (-(Decimal.valueFrom 0 (← digits) : Int))
      | some '+' =>
        advance
        return some (Decimal.valueFrom 0 (← digits))
      | _ => return some (Decimal.valueFrom 0 (← digits))
    else return none
  | none => return none

/-- The digits after the point, if there is one. -/
def fraction : Scan (List Char) := do
  match (← get).head? with
  | some '.' =>
    advance
    digits
  | _ => return []

/-- A number after its sign. -/
def numeral (negative : Bool) : Scan Numeral := do
  let whole ← wholeDigits
  let fraction ← fraction
  let exponent ← exponent
  return { negative, whole, fraction, exponent }

/-- A number with its sign; one of these is known to follow. -/
def signedNumeral : Scan Numeral := do
  match (← get).head? with
  | some '-' =>
    advance
    numeral true
  | _ => numeral false

/-- Skips a number; whatever is wrong with it, it is no number. -/
def skipNumeral : Scan Unit := fun text =>
  match signedNumeral text with
  | .ok (_, rest) => .ok ((), rest)
  | .error _ => .error .malformed

/-- Where a value is being skipped: before a value, before the name of a field, or after a
value. -/
inductive SkipPlace where
  | value
  | name
  | after
  deriving DecidableEq, Repr

/-- Skips the rest of a value inside the arrays and objects that are open, innermost first.
Every step but the last takes a character, so `fuel` is more than the length. -/
def skipFrom : (fuel : Nat) → SkipPlace → (opened : List Char) → Scan Unit
  | 0, _, _ => throw .unfinished
  | fuel + 1, .value, opened => do
    match ← peek with
    | none => throw .unfinished
    | some 'n' => advance; word ['u', 'l', 'l']; skipFrom fuel .after opened
    | some 't' => advance; word ['r', 'u', 'e']; skipFrom fuel .after opened
    | some 'f' => advance; word ['a', 'l', 's', 'e']; skipFrom fuel .after opened
    | some '"' => advance; skipText; skipFrom fuel .after opened
    | some '[' =>
      advance
      match ← peek with
      | none => throw .unfinished
      | some ']' => advance; skipFrom fuel .after opened
      | some _ => skipFrom fuel .value ('[' :: opened)
    | some '\x7b' =>
      advance
      match ← peek with
      | none => throw .unfinished
      | some '\x7d' => advance; skipFrom fuel .after opened
      | some _ => skipFrom fuel .name ('\x7b' :: opened)
    | some c =>
      if c = '-' ∨ c.isDigit then skipNumeral; skipFrom fuel .after opened
      else throw .malformed
  | fuel + 1, .name, opened => do
    match ← peek with
    | none => throw .unfinished
    | some '"' =>
      advance
      skipText
      match ← peek with
      | none => throw .unfinished
      | some ':' => advance; skipFrom fuel .value opened
      | some _ => throw .malformed
    | some _ => throw .malformed
  | _ + 1, .after, [] => return
  | fuel + 1, .after, '[' :: opened => do
    match ← peek with
    | none => throw .unfinished
    | some ',' => advance; skipFrom fuel .value ('[' :: opened)
    | some ']' => advance; skipFrom fuel .after opened
    | some _ => throw .malformed
  | fuel + 1, .after, bracket :: opened => do
    match ← peek with
    | none => throw .unfinished
    | some ',' => advance; skipFrom fuel .name (bracket :: opened)
    | some '\x7d' => advance; skipFrom fuel .after opened
    | some _ => throw .malformed

/-- Skips a value of any shape. -/
def skipValue : Scan Unit := do
  skipFrom (2 * (← get).length + 2) .value []

end CrashReport.Json
