import CrashReport.Json.Scan
import CrashReport.Table

/-!
# Reading typed values from JSON text

A `Scan α` at the place of a value reads a value of the shape that `α` asks for. Shapes
are built up from those of truth values, numbers and texts:

* **`optional`**, **`list`**, **`table`**, **`oneOf`** — null or a value, arrays, objects
  of texts, and one name out of several;
* **`record`** — an object with known fields, in any order. Unknown fields are skipped, a
  field given twice is a mismatch, and so is a missing one that is required. An array may
  stand in the place of the object, with the fields in their order;
* **`ofText`** — the value that makes up a whole text.

A value of another shape is a mismatch once it has been found to be a value.
-/

namespace CrashReport.Json

/-- The flaw of a value that has not the shape that is asked for. A scalar is read to its
end first, and may turn out to be malformed; of an array or object the first character is
enough. -/
def mismatch {α : Type} : Scan α := do
  match ← peek with
  | none => throw .unfinished
  | some 'n' => advance; word ['u', 'l', 'l']; throw .mismatch
  | some 't' => advance; word ['r', 'u', 'e']; throw .mismatch
  | some 'f' => advance; word ['a', 'l', 's', 'e']; throw .mismatch
  | some '"' => advance; let _ ← textBody; throw .mismatch
  | some '[' => throw .mismatch
  | some '\x7b' => throw .mismatch
  | some c =>
    if c = '-' ∨ c.isDigit then
      let n ← signedNumeral
      if n.overflows then throw .malformed else throw .mismatch
    else throw .malformed

/-- A truth value. -/
def truth : Scan Bool := do
  match ← peek with
  | some 't' => advance; word ['r', 'u', 'e']; return true
  | some 'f' => advance; word ['a', 'l', 's', 'e']; return false
  | _ => mismatch

/-- A whole number between two bounds. -/
def integer (low high : Int) : Scan Int := do
  match ← peek with
  | none => throw .unfinished
  | some c =>
    if c = '-' ∨ c.isDigit then
      let n ← signedNumeral
      if n.overflows then throw .malformed
      match n.integer? with
      | some value => if low ≤ value ∧ value ≤ high then return value else throw .mismatch
      | none => throw .mismatch
    else mismatch

/-- A number of 32 bits without sign. -/
def uint32 : Scan UInt32 := do
  return UInt32.ofNat (← integer 0 (UInt32.size - 1 : Nat)).toNat

/-- A number of 64 bits without sign. -/
def uint64 : Scan UInt64 := do
  return UInt64.ofNat (← integer 0 (UInt64.size - 1 : Nat)).toNat

/-- A number of 64 bits with sign. -/
def int64 : Scan Int64 := do
  return Int64.ofInt (← integer Int64.minValue.toInt Int64.maxValue.toInt)

/-- A text. -/
def string : Scan String := do
  match ← peek with
  | some '"' => advance; textBody
  | _ => mismatch

/-- Null, or a value. -/
def optional? {α : Type} (value : Scan α) : Scan (Option α) := do
  match ← peek with
  | some 'n' => advance; word ['u', 'l', 'l']; return none
  | _ => return some (← value)

/-- Moves to the next element of an array, if there is one; `first` says that none has been
read. -/
def nextElement (first : Bool) : Scan Bool := do
  match ← peek with
  | none => throw .unfinished
  | some ']' => return false
  | some c =>
    if first then return true
    else if c = ',' then
      advance
      match ← peek with
      | none => throw .unfinished
      | some ']' => throw .malformed
      | some _ => return true
    else throw .malformed

/-- Ends an array of which no more elements are expected. -/
def endArray : Scan Unit := do
  match ← peek with
  | none => throw .unfinished
  | some ']' => advance
  | some _ => throw .malformed

/-- The elements of an array. Each of them takes a character at least, so `fuel` is more than
the length. -/
def elements {α : Type} (value : Scan α) : (fuel : Nat) → (first : Bool) → Scan (List α)
  | 0, _ => throw .unfinished
  | fuel + 1, first => do
    if ← nextElement first then
      let x ← value
      return x :: (← elements value fuel false)
    else return []

/-- An array of values. -/
def list {α : Type} (value : Scan α) : Scan (List α) := do
  match ← peek with
  | some '[' =>
    advance
    let values ← elements value ((← get).length + 1) true
    endArray
    return values
  | _ => mismatch

/-- The name of the next field of an object, if there is one; `first` says that none has
been read. -/
def nextName (first : Bool) : Scan (Option String) := do
  match ← peek with
  | none => throw .unfinished
  | some '\x7d' => return none
  | some c =>
    if first then
      if c = '"' then advance; return some (← textBody) else throw .malformed
    else if c = ',' then
      advance
      match ← peek with
      | none => throw .unfinished
      | some '"' => advance; return some (← textBody)
      | some _ => throw .malformed
    else throw .malformed

/-- The colon between the name and the value of a field. -/
def colon : Scan Unit := do
  match ← peek with
  | none => throw .unfinished
  | some ':' => advance
  | some _ => throw .malformed

/-- The fields of an object of texts. Each of them takes a character at least, so `fuel` is
more than the length. -/
def entries : (fuel : Nat) → (first : Bool) → Table String → Scan (Table String)
  | 0, _, _ => throw .unfinished
  | fuel + 1, first, table => do
    match ← nextName first with
    | none => return table
    | some name =>
      colon
      let value ← string
      entries fuel false (table.insert name value)

/-- An object of texts; of several fields with one name the last counts. -/
def table : Scan (Table String) := do
  match ← peek with
  | some '\x7b' =>
    advance
    let table ← entries ((← get).length + 1) true {}
    advance
    return table
  | _ => mismatch

/-- The value of a name, or a mismatch. -/
def named {α : Type} (names : List (String × α)) (name : String) : Scan α :=
  match names.find? (·.1 = name) with
  | some (_, value) => return value
  | none => throw .mismatch

/-- One of several names, as a text or as an object whose only field has the name and the
value null. -/
def oneOf {α : Type} (names : List (String × α)) : Scan α := do
  match ← peek with
  | none => throw .unfinished
  | some '"' => advance; named names (← textBody)
  | some '\x7b' =>
    advance
    match ← peek with
    | none => throw .unfinished
    | some '"' => advance
    | some _ => throw .malformed
    let value ← named names (← textBody)
    colon
    match ← peek with
    | some 'n' => advance; word ['u', 'l', 'l']
    | _ => mismatch
    match ← peek with
    | none => throw .unfinished
    | some '\x7d' => advance; return value
    | some _ => throw .malformed
  | some _ => throw .malformed

/-- What is done without a field: it is refused, it counts as null in an object but must stand in an
array, or it keeps its default. -/
inductive Absence where
  | refused
  | asNull
  | allowed
  deriving DecidableEq, Repr

/-- A field of a record of type `ρ`. Its value is read, and says how it changes the record. -/
structure RecordField (ρ : Type) where
  name : String
  absence : Absence
  value : Scan (ρ → ρ)

/-- A field that must be there. -/
def RecordField.required {ρ α : Type} (name : String) (value : Scan α) (set : α → ρ → ρ) :
    RecordField ρ :=
  ⟨name, .refused, return set (← value)⟩

/-- A field that may be missing or null. -/
def RecordField.nullable {ρ α : Type} (name : String) (value : Scan α) (set : Option α → ρ → ρ) :
    RecordField ρ :=
  ⟨name, .asNull, return set (← optional? value)⟩

/-- A field that has a default. -/
def RecordField.defaulted {ρ α : Type} (name : String) (value : Scan α) (set : α → ρ → ρ) :
    RecordField ρ :=
  ⟨name, .allowed, return set (← value)⟩

/-- The fields of a record in the places of an array. -/
def placedFields {ρ : Type} : List (RecordField ρ) → (first : Bool) → ρ → Scan ρ
  | [], _, record => return record
  | field :: rest, first, record => do
    if ← nextElement first then
      let change ← field.value
      placedFields rest false (change record)
    else if field.absence = .allowed then placedFields rest first record
    else throw .mismatch

/-- The fields of a record by their names. Each of them takes a character at least, so `fuel`
is more than the length. -/
def namedFields {ρ : Type} (fields : List (RecordField ρ)) :
    (fuel : Nat) → (seen : List String) → ρ → Scan ρ
  | 0, _, _ => throw .unfinished
  | fuel + 1, seen, record => do
    match ← nextName seen.isEmpty with
    | none =>
      if fields.any fun field => field.absence = .refused && !seen.contains field.name then
        throw .mismatch
      else return record
    | some name =>
      match fields.find? (·.name = name) with
      | none =>
        colon
        skipValue
        namedFields fields fuel (name :: seen) record
      | some field =>
        if seen.contains name then throw .mismatch
        else
          colon
          let change ← field.value
          namedFields fields fuel (name :: seen) (change record)

/-- A record with known fields, whose defaults are those of `blank`. -/
def record {ρ : Type} (blank : ρ) (fields : List (RecordField ρ)) : Scan ρ := do
  match ← peek with
  | some '[' =>
    advance
    let value ← placedFields fields true blank
    endArray
    return value
  | some '\x7b' =>
    advance
    let value ← namedFields fields ((← get).length + 1) [] blank
    advance
    return value
  | _ => mismatch

/-- The value that a whole text holds. -/
def ofText {α : Type} (value : Scan α) (text : String) : Except Flaw α := do
  let (x, rest) ← value text.toList
  match rest.dropWhile isSpace with
  | [] => return x
  | _ :: _ => throw .malformed

end CrashReport.Json
