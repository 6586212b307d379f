import CrashReport.Table

/-!
# JSON values

The values that reports are made of. The fields of an object stand in the order of
the code points of their names, and of several fields of one name the last counts
(`Json.ofFields`). Numbers are whole.
-/

namespace CrashReport

/-- A JSON value. -/
inductive Json where
  | null
  | bool (value : Bool)
  | number (value : Int)
  | text (value : String)
  | array (values : List Json)
  | object (fields : List (String × Json))

namespace Json

instance : Inhabited Json := ⟨null⟩

/-- The object of the fields, put in order. -/
def ofFields (fields : List (String × Json)) : Json :=
  object (Table.ofList fields).entries

/-- The object of a table of texts. -/
def ofTable (table : Table String) : Json :=
  object (table.entries.map fun p => (p.1, text p.2))

/-- A text, or null. -/
def ofOption : Option String → Json
  | some s => text s
  | none => null

/-- A field that is there only if it has a value. -/
def optional {α : Type} (name : String) (write : α → Json) (value : Option α) :
    List (String × Json) :=
  (value.map fun v => (name, write v)).toList

/-- The field of a name, if the value is an object that has it. -/
def field? (json : Json) (name : String) : Option Json :=
  match json with
  | object fields => (fields.find? (·.1 = name)).map (·.2)
  | _ => none

/-- Of several fields of one name the last is found. -/
theorem field?_ofFields (fields : List (String × Json)) (name : String) :
    (ofFields fields).field? name = (fields.reverse.find? (·.1 = name)).map (·.2) :=
  Table.find?_ofList fields name

theorem field?_append (fields more : List (String × Json)) (name : String) :
    (ofFields (fields ++ more)).field? name =
      ((ofFields more).field? name).or ((ofFields fields).field? name) := by
  rw [field?_ofFields, field?_ofFields, field?_ofFields, List.reverse_append, List.find?_append,
    Option.map_or]

theorem field?_optional {α : Type} (name : String) (write : α → Json) (value : Option α)
    (other : String) :
    (ofFields (optional name write value)).field? other =
      if name = other then value.map write else none := by
  rw [field?_ofFields]
  unfold optional
  cases value with
  | none => split <;> rfl
  | some v =>
      by_cases h : name = other
      · rw [if_pos h]
        exact congrArg (Option.map Prod.snd) (List.find?_cons_of_pos (decide_eq_true h))
      · rw [if_neg h]
        exact congrArg (Option.map Prod.snd) (List.find?_cons_of_neg (by simpa using h))

end Json

end CrashReport
