import CrashReport.Text.Scan

/-!
# Result records of the machine interface

Debuggers print results for machines as `name=value` pairs with commas between them.

* **`Value`** — a constant, a tuple of results, a list of values, or a list of results;
* **`Value.field?`**, **`Value.constant?`** — the parts of a value;
* **`ReadError`** — where a text stops being a list of results, and what was expected.
-/

namespace CrashReport.MachineInterface

/-- A value of a result: a text, named values in braces, or values in brackets, with or without
names. -/
inductive Value where
  | constant (text : String)
  | tuple (results : List (String × Value))
  | list (values : List Value)
  | named (results : List (String × Value))

/-- A named value. -/
abbrev Result := String × Value

namespace Value

instance : Inhabited Value := ⟨constant ""⟩

/-- The text of a constant. -/
def constant? : Value → Option String
  | constant text => some text
  | _ => none

/-- The first value of a name in a tuple. -/
def field? (name : String) : Value → Option Value
  | tuple results => (results.find? (·.1 = name)).map (·.2)
  | _ => none

end Value

/-- What should have stood where a text stops being a list of results: a character of a name, a
certain character, or nothing more. -/
inductive Expectation where
  | name
  | character
  | nothing
  deriving DecidableEq, Repr

/-- The word for an expectation in messages. -/
def Expectation.word : Expectation → String
  | name => "TakeWhile1"
  | character => "Char"
  | nothing => "Eof"

/-- Why a text is no list of results: how many octets of it stand before the place, and what should
stand there. -/
structure ReadError where
  offset : Nat
  expected : Expectation
  deriving DecidableEq, Repr

/-- What is said about a text that is no list of results. -/
def ReadError.message (e : ReadError) : String :=
  "malformed result list at offset " ++ toString e.offset ++ " (" ++ e.expected.word ++ ")"

end CrashReport.MachineInterface
