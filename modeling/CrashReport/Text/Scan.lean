/-!
# Scanning text

Text is scanned as a list of characters. This module holds the few scans the
rest of the library shares:

* **`cut`** — the text before and after the first place a word stands;
* **`after?`**, **`before?`** — the rest of a text that starts or ends with a word;
* **`lines`** — the lines of a text, with their line ends taken off;
* **`Decimal.whole?`** — the whole number that decimal digits with an optional sign denote.
  No white space, no separator and no empty run of digits is accepted.

The laws beside the first of them say that a scan loses nothing of the text.
-/

namespace CrashReport.Text

/-- The text without `word` at its start, if it starts with `word`. -/
def after? : (word text : List Char) → Option (List Char)
  | [], text => some text
  | _ :: _, [] => none
  | w :: word, c :: text => if w = c then after? word text else none

/-- The text without `word` at its end, if it ends with `word`. -/
def before? (word : List Char) (text : List Char) : Option (List Char) :=
  (after? word.reverse text.reverse).map List.reverse

/-- What stands before and after the first occurrence of `word`. -/
def cut (word : List Char) : List Char → Option (List Char × List Char)
  | [] => if word = [] then some ([], []) else none
  | c :: text =>
    match after? word (c :: text) with
    | some rest => some ([], rest)
    | none => (cut word text).map fun (front, rest) => (c :: front, rest)

/-- The lines of a text. A line ends with a line feed, which may have one carriage
return before it; the last line may have no end at all. -/
def lines : List Char → List (List Char)
  | [] => []
  | '\n' :: text => [] :: lines text
  | '\r' :: '\n' :: text => [] :: lines text
  | c :: text =>
    match lines text with
    | [] => [[c]]
    | line :: rest => (c :: line) :: rest

theorem after?_eq_some {word text rest : List Char} :
    after? word text = some rest ↔ text = word ++ rest := by
  induction word generalizing text with
  | nil => simp [after?, eq_comm]
  | cons w word ih =>
    cases text with
    | nil => simp [after?]
    | cons c text => by_cases h : w = c <;> simp [after?, h, ih, eq_comm]

theorem before?_eq_some {word text rest : List Char} :
    before? word text = some rest ↔ text = rest ++ word := by
  simp only [before?, Option.map_eq_some_iff, after?_eq_some]
  constructor
  · rintro ⟨front, hfront, rfl⟩
    have := congrArg List.reverse hfront
    simpa using this
  · rintro rfl
    exact ⟨rest.reverse, by simp, by simp⟩

/-- Cutting loses nothing: the text is what stands before, the word, and what stands after. -/
theorem eq_of_cut {word text front rest : List Char} (h : cut word text = some (front, rest)) :
    text = front ++ word ++ rest := by
  induction text generalizing front with
  | nil =>
    by_cases hw : word = []
    · simp [cut, hw] at h; simp [h, hw]
    · simp [cut, hw] at h
  | cons c text ih =>
    simp only [cut] at h
    split at h
    · next r hr =>
      cases h
      simpa using after?_eq_some.1 hr
    · obtain ⟨⟨f, r⟩, hf, he⟩ := Option.map_eq_some_iff.1 h
      cases he
      simp [ih hf]

end CrashReport.Text

namespace CrashReport.Decimal

/-- The value of a run of digits read after the value `acc`. -/
def valueFrom (acc : Nat) (digits : List Char) : Nat :=
  digits.foldl (fun n c => 10 * n + (c.toNat - '0'.toNat)) acc

/-- The number that one or more ASCII digits denote. -/
def natural? (digits : List Char) : Option Nat :=
  if digits ≠ [] ∧ digits.all Char.isDigit then some (valueFrom 0 digits) else none

/-- The whole number that digits after an optional sign denote. -/
def whole? : List Char → Option Int
  | '+' :: digits => (natural? digits).map Int.ofNat
  | '-' :: digits => (natural? digits).map fun n => -Int.ofNat n
  | digits => (natural? digits).map Int.ofNat

/-- A whole number of 64 bits with sign. -/
def int64? (text : List Char) : Option Int :=
  (whole? text).filter fun n =>
    Int64.minValue.toInt ≤ n ∧ n ≤ Int64.maxValue.toInt

/-- A number of 32 bits without sign; a plus sign may stand before it. -/
def uint32? (text : List Char) : Option UInt32 :=
  let digits := match text with
    | '+' :: digits => digits
    | digits => digits
  ((natural? digits).filter (· < UInt32.size)).map UInt32.ofNat

/-- A number written with at least two characters, a blank filling the place of the first digit. -/
def padded (n : Nat) : String :=
  if n < 10 then " " ++ toString n else toString n

end CrashReport.Decimal
