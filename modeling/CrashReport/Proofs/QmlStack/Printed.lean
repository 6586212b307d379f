import CrashReport.Proofs.MachineInterface.Grammar
import CrashReport.Proofs.Text.Scanning
import CrashReport.QmlStack
import Mathlib.Data.List.Forall2

/-!
# Stacks as the engine prints them

The engine writes its stack as records, and the debugger prints the records inside a C
string. So the characters of a value are escaped twice, in different ways:

* **`writeFrames`** — the records of a stack, with the characters of values escaped;
* **`printed`** — the answer of the debugger, with every quote escaped once more;
* **`Describes`** — the fields of a record say what a frame says, in any order and among
  others.

`printed_reads_back` says that both are undone. The debugger's quotes go first
(`unescapeQuotes_escapeQuotes`), without any look at the values; then the records are read
as the grammar has them (`denotesResults_writeFrames`).
-/

namespace CrashReport

namespace MachineInterface

/-- A character of a value, as records have it between quotes. -/
def escapeChar (c : Char) : List Char :=
  match c with
  | '\\' => ['\\', '\\']
  | '"' => ['\\', '"']
  | '\n' => ['\\', 'n']
  | '\t' => ['\\', 't']
  | '\r' => ['\\', 'r']
  | c => [c]

/-- A field: its name, and its value between quotes. -/
def writeField (field : String × String) : List Char :=
  field.1.toList ++ '=' :: '"' :: (field.2.toList.flatMap escapeChar ++ ['"'])

/-- Parts with commas between them. -/
def joined : List (List Char) → List Char
  | [] => []
  | [part] => part
  | part :: rest => part ++ ',' :: joined rest

/-- The characters of a name of a field; there is at least one. -/
def IsName (name : String) : Prop := name.toList ≠ [] ∧ ∀ c ∈ name.toList, NameChar c

theorem quoted_flatMap_escapeChar (s : List Char) : Quoted (s.flatMap escapeChar) s := by
  induction s with
  | nil => exact .nil
  | cons c s ih =>
      rw [List.flatMap_cons]
      unfold escapeChar
      split
      · exact .escaped (.itself (by decide) (by decide) (by decide)) ih
      · exact .escaped (.itself (by decide) (by decide) (by decide)) ih
      · exact .escaped .lineFeed ih
      · exact .escaped .tab ih
      · exact .escaped .carriageReturn ih
      · rename_i hback hquote _ _ _
        exact .plain hquote hback ih

theorem named_writeField {field : String × String} (h : IsName field.1) :
    Named Denotes (writeField field) (field.1, .constant field.2) := by
  have hvalue := Named.mk h.1 h.2 (Denotes.constant (quoted_flatMap_escapeChar field.2.toList))
  rwa [String.ofList_toList, String.ofList_toList] at hvalue

/-- Texts of one kind, put together with commas, are a separated list. -/
theorem separated_joined {α β : Type} {P : List Char → β → Prop} (write : α → List Char)
    (meaning : α → β) {xs : List α} (hne : xs ≠ []) (h : ∀ x ∈ xs, P (write x) (meaning x)) :
    Separated P (joined (xs.map write)) (xs.map meaning) := by
  induction xs with
  | nil => exact absurd rfl hne
  | cons x xs ih =>
      have hx : P (write x) (meaning x) := h x List.mem_cons_self
      cases xs with
      | nil => exact .one hx
      | cons y ys =>
          exact .more hx (ih (List.cons_ne_nil y ys)
            fun z hz => h z (List.mem_cons_of_mem x hz))

end MachineInterface

namespace QmlStack

open MachineInterface

/-! ## Writing -/

/-- The record of a frame with the fields. -/
def writeFrame (fields : List (String × String)) : List Char :=
  "frame=\x7b".toList ++ joined (fields.map writeField) ++ ['\x7d']

/-- The records of a stack. -/
def writeFrames (frames : List (List (String × String))) : List Char :=
  joined (frames.map writeFrame)

/-- Every quote with a backslash before it. -/
def escapeQuotes (text : List Char) : List Char :=
  text.flatMap fun c => if c = '"' then ['\\', '"'] else [c]

/-- The word after which the records stand in an answer. -/
def marker : List Char := "\"stack=[".toList

/-- The answer of a debugger that holds a text, with what it prints before and after it. -/
def printed (before text after : List Char) : String :=
  String.ofList (before ++ marker ++ (escapeQuotes text ++ "]\"".toList ++ after))

/-- The fields that say what a frame says, and nothing else. -/
def Frame.fields (frame : Frame) : List (String × String) :=
  (frame.file.map fun file => ("file", file)).toList ++
  (frame.function.map fun function => ("func", function)).toList ++
  (frame.line.map fun line => ("line", toString line)).toList

/-- The names of fields that say something about a frame. -/
def fieldNames : List String := ["file", "func", "line"]

/-- The fields are those of the frame, among others of other names, in any order. The line
is a number of 64 bits with sign. -/
structure Describes (fields : List (String × String)) (frame : Frame) : Prop where
  perm : ∃ others, fields.Perm (frame.fields ++ others) ∧
    ∀ field ∈ others, IsName field.1 ∧ field.1 ∉ fieldNames
  line : ∀ line ∈ frame.line, Int64.minValue.toInt ≤ line ∧ line ≤ Int64.maxValue.toInt

/-! ## The quotes of the debugger -/

theorem escapeQuotes_ne_quote (text rest : List Char) : escapeQuotes text ≠ '"' :: rest := by
  cases text with
  | nil =>
      intro h
      cases h
  | cons c text =>
      unfold escapeQuotes
      rw [List.flatMap_cons]
      split
      · intro h
        exact absurd (List.cons.inj h).1 (by decide)
      · rename_i hc
        intro h
        exact hc (List.cons.inj h).1

/-- Every quote stands after the backslash that was put before it, so no other backslash is
taken away, not even one of the text. -/
theorem unescapeQuotes_escapeQuotes (text : List Char) :
    unescapeQuotes (escapeQuotes text) = text := by
  induction text with
  | nil => rfl
  | cons c text ih =>
      have hcons : escapeQuotes (c :: text) =
          (if c = '"' then ['\\', '"'] else [c]) ++ escapeQuotes text := rfl
      rw [hcons]
      split
      · rename_i hc
        show '"' :: unescapeQuotes (escapeQuotes text) = c :: text
        rw [ih, hc]
      · show unescapeQuotes (c :: escapeQuotes text) = c :: text
        rw [unescapeQuotes]
        · rw [ih]
        · intro rest _ h
          exact escapeQuotes_ne_quote text rest h

theorem payload?_printed {before after : List Char} (text : List Char)
    (hbefore : ¬ marker <:+: before) (hafter : ∀ c ∈ after, Text.isBlank c = true) :
    payload? (printed before text after) = some (String.ofList text) := by
  have hcut : Text.cut marker (printed before text after).toList =
      some (before, escapeQuotes text ++ "]\"".toList ++ after) := by
    unfold printed
    rw [String.toList_ofList]
    exact Text.cut_append (by decide) hbefore _
  have htrim : Text.trimEnd (escapeQuotes text ++ "]\"".toList ++ after) =
      escapeQuotes text ++ "]\"".toList := by
    have hquote := Text.trimEnd_append (escapeQuotes text ++ [']'])
      (show Text.isBlank '"' = false by decide) hafter
    simpa using hquote
  have hbefore? : Text.before? "]\"".toList (escapeQuotes text ++ "]\"".toList) =
      some (escapeQuotes text) := Text.before?_eq_some.2 rfl
  unfold payload?
  rw [show "\"stack=[".toList = marker from rfl, hcut]
  show (Text.before? _ (Text.trimEnd _)).bind _ = _
  rw [htrim, hbefore?]
  exact congrArg (some ∘ String.ofList) (unescapeQuotes_escapeQuotes text)

/-! ## The records -/

/-- The record that fields denote. -/
def record (fields : List (String × String)) : Result :=
  ("frame", .tuple (fields.map fun field => (field.1, .constant field.2)))

theorem named_writeFrame {fields : List (String × String)}
    (h : ∀ field ∈ fields, IsName field.1) : Named Denotes (writeFrame fields) (record fields) := by
  have hname : ∀ c ∈ "frame".toList, NameChar c := by
    intro c hc
    exact (isNameChar_iff c).1 (List.all_eq_true.1 (by decide : "frame".toList.all isNameChar) c hc)
  have hvalue : Denotes ('\x7b' :: (joined (fields.map writeField) ++ ['\x7d']))
      (.tuple (fields.map fun field => (field.1, .constant field.2))) := by
    cases fields with
    | nil => exact .emptyTuple
    | cons field fields =>
        exact .tuple (separated_joined writeField _ (List.cons_ne_nil field fields)
          fun f hf => named_writeField (h f hf))
  exact Named.mk (by decide) hname hvalue

theorem denotesResults_writeFrames {written : List (List (String × String))}
    (hne : written ≠ []) (h : ∀ fields ∈ written, ∀ field ∈ fields, IsName field.1) :
    DenotesResults (writeFrames written) (written.map record) :=
  separated_joined writeFrame record hne fun fields hf => named_writeFrame (h fields hf)

/-! ## The fields of a frame -/

theorem isName_of_mem_fieldNames {name : String} (h : name ∈ fieldNames) : IsName name := by
  have hall : ∀ n ∈ fieldNames, n.toList ≠ [] ∧ n.toList.all isNameChar = true := by decide
  obtain ⟨hne, hchars⟩ := hall name h
  exact ⟨hne, fun c hc => (isNameChar_iff c).1 (List.all_eq_true.1 hchars c hc)⟩

/-- What a frame says under the name of a field. -/
def Frame.value? (frame : Frame) (name : String) : Option String :=
  if name = "file" then frame.file
  else if name = "func" then frame.function
  else if name = "line" then frame.line.map fun line => toString line
  else none

theorem Frame.filter_fields (frame : Frame) {name : String} (h : name ∈ fieldNames) :
    frame.fields.filter (·.1 = name) = ((frame.value? name).map fun v => (name, v)).toList := by
  obtain ⟨file, function, line⟩ := frame
  simp only [fieldNames, List.mem_cons, List.not_mem_nil, or_false] at h
  rcases h with rfl | rfl | rfl <;> cases file <;> cases function <;> cases line <;> rfl

theorem Frame.isName_of_mem_fields {frame : Frame} {field : String × String}
    (h : field ∈ frame.fields) : IsName field.1 := by
  apply isName_of_mem_fieldNames
  unfold Frame.fields at h
  rcases List.mem_append.1 h with h | h
  · rcases List.mem_append.1 h with h | h
    · obtain ⟨file, _, rfl⟩ := Option.map_eq_some_iff.1 (Option.mem_toList.1 h)
      exact (by decide : "file" ∈ fieldNames)
    · obtain ⟨function, _, rfl⟩ := Option.map_eq_some_iff.1 (Option.mem_toList.1 h)
      exact (by decide : "func" ∈ fieldNames)
  · obtain ⟨line, _, rfl⟩ := Option.map_eq_some_iff.1 (Option.mem_toList.1 h)
    exact (by decide : "line" ∈ fieldNames)

theorem Describes.isName {fields : List (String × String)} {frame : Frame}
    (h : Describes fields frame) : ∀ field ∈ fields, IsName field.1 := by
  obtain ⟨others, hperm, hothers⟩ := h.perm
  intro field hfield
  rcases List.mem_append.1 (hperm.mem_iff.1 hfield) with hmem | hmem
  · exact Frame.isName_of_mem_fields hmem
  · exact (hothers field hmem).1

/-- A field that says something about the frame is found wherever it stands, because no other
field has its name. -/
theorem Describes.find? {fields : List (String × String)} {frame : Frame}
    (h : Describes fields frame) {name : String} (hname : name ∈ fieldNames) :
    fields.find? (·.1 = name) = (frame.value? name).map fun v => (name, v) := by
  obtain ⟨others, hperm, hothers⟩ := h.perm
  have hnone : others.filter (·.1 = name) = [] := by
    rw [List.filter_eq_nil_iff]
    intro field hfield heq
    exact (hothers field hfield).2 (of_decide_eq_true heq ▸ hname)
  have hfilter := hperm.filter (·.1 = name)
  rw [List.filter_append, hnone, List.append_nil, frame.filter_fields hname] at hfilter
  rw [← List.head?_filter]
  cases hvalue : frame.value? name with
  | none =>
      rw [hvalue] at hfilter
      rw [List.perm_nil.1 hfilter]
      rfl
  | some v =>
      rw [hvalue] at hfilter
      rw [List.perm_singleton.1 hfilter]
      rfl

theorem Describes.textField {fields : List (String × String)} {frame : Frame}
    (h : Describes fields frame) {name : String} (hname : name ∈ fieldNames) :
    textField name (.tuple (fields.map fun field => (field.1, .constant field.2))) =
      frame.value? name := by
  show ((fields.map _).find? _ |>.map _).bind _ = _
  rw [List.find?_map]
  show ((fields.find? (·.1 = name)).map _ |>.map _).bind _ = _
  rw [h.find? hname]
  cases frame.value? name <;> rfl

/-- The record of a frame is taken for that frame. -/
theorem Describes.frameOf? {fields : List (String × String)} {frame : Frame}
    (h : Describes fields frame) : frameOf? none (record fields) = some frame := by
  have hline : (frame.value? "line").bind (fun line => Decimal.int64? (Text.trim line.toList)) =
      frame.line := by
    show (frame.line.map _).bind _ = _
    cases hn : frame.line with
    | none => rfl
    | some n =>
        show Decimal.int64? (Text.trim (toString n).toList) = some n
        rw [Text.trim_of_no_blank (Decimal.no_blank_toString n),
          Decimal.int64?_toString (h.line n hn)]
  unfold QmlStack.frameOf? record
  simp only
  rw [h.textField (by decide), h.textField (by decide), h.textField (by decide), hline]
  have hhide : Path.hideHome none = id := funext Path.hideHome_none
  rw [hhide, Option.map_id]
  rfl

theorem filterMap_frameOf? {written : List (List (String × String))} {frames : List Frame}
    (h : List.Forall₂ Describes written frames) :
    (written.map record).filterMap (QmlStack.frameOf? none) = frames := by
  induction h with
  | nil => rfl
  | cons hframe _ ih => rw [List.map_cons, List.filterMap_cons, hframe.frameOf?, ih]

theorem isName_of_forall₂ {written : List (List (String × String))} {frames : List Frame}
    (h : List.Forall₂ Describes written frames) :
    ∀ fields ∈ written, ∀ field ∈ fields, IsName field.1 := by
  induction h with
  | nil => simp
  | cons hframe _ ih =>
      intro fields hfields
      rcases List.mem_cons.1 hfields with rfl | hfields
      · exact hframe.isName
      · exact ih fields hfields

/-! ## The whole way -/

/-- The frames of the stack in a report. -/
def reportedFrames (thread : Json) : Option Json :=
  (thread.field? "stacktrace").bind (·.field? "frames")

theorem reportedFrames_toJson (stack : QmlStack) :
    reportedFrames stack.toJson = some (.array (stack.frames.reverse.map Frame.toJson)) := by
  have hframes (values : Json) : (Json.ofFields [("frames", values)]).field? "frames" =
      some values := by
    rw [Json.field?_ofFields]
    rfl
  have htrace : stack.toJson.field? "stacktrace" =
      some (.ofFields [("frames", .array (stack.frames.reverse.map Frame.toJson))]) := by
    unfold toJson
    rw [Json.field?_ofFields]
    rfl
  unfold reportedFrames
  rw [htrace]
  exact hframes _

theorem ofPayload?_writeFrames {written : List (List (String × String))} {frames : List Frame}
    (hne : frames ≠ []) (h : List.Forall₂ Describes written frames) :
    ofPayload? none (String.ofList (writeFrames written)) = some ⟨frames⟩ := by
  have hwritten : written ≠ [] := by
    rintro rfl
    cases h
    exact hne rfl
  have hnames := isName_of_forall₂ h
  have hread : readAll (writeFrames written) = .ok (written.map record) :=
    (readAll_eq_ok_iff _ _).2 (denotesResults_writeFrames hwritten hnames)
  have hrecords : MachineInterface.read (String.ofList (writeFrames written)) =
      .ok (written.map record) := by
    unfold MachineInterface.read
    rw [String.toList_ofList, hread]
    rfl
  unfold ofPayload?
  rw [hrecords]
  dsimp only
  rw [filterMap_frameOf? h]
  cases frames with
  | nil => exact absurd rfl hne
  | cons frame frames => rfl

/-- **The stack that the engine has written is the one that is read**, whatever the values
are and whatever the debugger prints around the records. In the report its oldest frame
stands first. -/
theorem printed_reads_back {written : List (List (String × String))} {frames : List Frame}
    (before after : List Char) (hne : frames ≠ []) (h : List.Forall₂ Describes written frames)
    (hbefore : ¬ marker <:+: before) (hafter : ∀ c ∈ after, Text.isBlank c = true) :
    payload? (printed before (writeFrames written) after) =
        some (String.ofList (writeFrames written)) ∧
      ofPayload? none (String.ofList (writeFrames written)) = some ⟨frames⟩ ∧
      reportedFrames (QmlStack.mk frames).toJson =
        some (.array (frames.reverse.map Frame.toJson)) := by
  refine ⟨?_, ?_, ?_⟩
  · exact payload?_printed _ hbefore hafter
  · exact ofPayload?_writeFrames hne h
  · exact reportedFrames_toJson ⟨frames⟩

/-- A function whose name has the marker, the closing word and a backslash at its end in it,
the line below zero, a field of another name, and a frame of which nothing is said. -/
theorem printed_reads_back_quotes :
    let written := [[("line", "-3"), ("level", "0"), ("func", "f \"stack=[ ]\"\\")], []]
    let frames : List Frame := [⟨none, some "f \"stack=[ ]\"\\", some (-3)⟩, {}]
    (frames ≠ [] ∧ List.Forall₂ Describes written frames ∧
        ¬ marker <:+: "$1 = \"".toList ∧ ∀ c ∈ "\n ".toList, Text.isBlank c = true) ∧
      payload? (printed "$1 = \"".toList (writeFrames written) "\n ".toList) =
        some (String.ofList (writeFrames written)) ∧
      ofPayload? none (String.ofList (writeFrames written)) = some ⟨frames⟩ ∧
      reportedFrames (QmlStack.mk frames).toJson =
        some (.array (frames.reverse.map Frame.toJson)) := by
  intro written frames
  have hbefore : ¬ marker <:+: "$1 = \"".toList := by decide
  have hfirst : Describes [("line", "-3"), ("level", "0"), ("func", "f \"stack=[ ]\"\\")]
      ⟨none, some "f \"stack=[ ]\"\\", some (-3)⟩ := by
    refine ⟨⟨[("level", "0")], by decide, ?_⟩, by simp; decide⟩
    intro field hfield
    rw [List.mem_singleton.1 hfield]
    refine ⟨⟨by decide, fun c hc => (isNameChar_iff c).1 ?_⟩, by decide⟩
    exact List.all_eq_true.1 (by decide : "level".toList.all isNameChar) c hc
  have hsecond : Describes [] {} := ⟨⟨[], by decide, by simp⟩, by simp⟩
  have hdescribes : List.Forall₂ Describes written frames := .cons hfirst (.cons hsecond .nil)
  have hne : frames ≠ [] := by simp [frames]
  have hafter : ∀ c ∈ "\n ".toList, Text.isBlank c = true :=
    List.all_eq_true.1 (by decide : "\n ".toList.all Text.isBlank)
  exact ⟨⟨hne, hdescribes, hbefore, hafter⟩,
    printed_reads_back _ _ hne hdescribes hbefore hafter⟩

end QmlStack

end CrashReport
