import CrashReport.Proofs.Text.Hex
import CrashReport.Proofs.Text.Scanning
import CrashReport.Text.Column
import Mathlib.Data.List.Basic

/-!
# Tables as they are printed

The columns of a printed table, said without the readers, and what the readers make of them.

* **`Column.IsAddress`** — an address, with or without `0x`. It reads back if 64 bits hold it, and
  is refused otherwise (`Column.address?_append`);
* **`Column.Follow`** — columns that follow each other after gaps. The readers take them off the
  front one by one (`Column.nextAddress?_of_follow`, `Column.nextWord?_of_follow`).
-/

namespace CrashReport

namespace Column

/-- The text is an address: a numeral of it, with or without `0x`. -/
def IsAddress (text : List Char) (n : Nat) : Prop :=
  Hex.IsNumeral text n ∨ ∃ numeral, text = '0' :: 'x' :: numeral ∧ Hex.IsNumeral numeral n

/-- Blanks and tabs, or nothing. -/
def IsIndent (text : List Char) : Prop := ∀ c ∈ text, isGap c = true

/-- One or more blanks and tabs. -/
def Separates (gap : List Char) : Prop := gap ≠ [] ∧ IsIndent gap

instance (text : List Char) : Decidable (IsIndent text) :=
  List.decidableBAll (isGap · = true) text

instance (gap : List Char) : Decidable (Separates gap) :=
  inferInstanceAs (Decidable (_ ∧ IsIndent gap))

/-- The text can stand as a word in a column. -/
def IsWord (text : List Char) : Prop := text ≠ [] ∧ ∀ c ∈ text, isGap c = false

instance (text : List Char) : Decidable (IsWord text) :=
  have : Decidable (∀ c ∈ text, isGap c = false) := List.decidableBAll (isGap · = false) text
  inferInstanceAs (Decidable (_ ∧ _))

/-- A column ends here: nothing follows, or a blank or a tab. -/
def Ends (text : List Char) : Prop := ∀ c ∈ text.head?, isGap c = true

instance (text : List Char) : Decidable (Ends text) :=
  (Option.decidableForallMem text.head? : Decidable (∀ c ∈ text.head?, isGap c = true))

/-- Columns that follow each other in a text, each of them after a gap, and what is left of the
text after them. A column is given as what may stand in it. -/
inductive Follow : List (List Char → Prop) → (text rest : List Char) → Prop
  | nil {rest : List Char} : Follow [] rest rest
  | cons {P : List Char → Prop} {columns : List (List Char → Prop)}
      {gap column text rest : List Char} (hgap : Separates gap) (hcolumn : P column)
      (h : Follow columns text rest) : Follow (P :: columns) (gap ++ (column ++ text)) rest

variable {text rest gap word : List Char} {columns : List (List Char → Prop)} {n : Nat}

theorem ends_of_separates (h : Separates gap) (text : List Char) : Ends (gap ++ text) := by
  obtain ⟨hne, hgap⟩ := h
  cases gap with
  | nil => exact absurd rfl hne
  | cons c gap =>
      rintro d ⟨⟩
      exact hgap c List.mem_cons_self

theorem Follow.ends (h : Follow columns text rest) (hrest : Ends rest) : Ends text := by
  cases h with
  | nil => exact hrest
  | cons hgap => exact ends_of_separates hgap _

/-- A blank or a tab is neither a digit nor the `x` of `0x`. -/
theorem not_isDigit_of_isGap {c : Char} (h : isGap c = true) :
    Hex.isDigit c = false ∧ c ≠ 'x' := by
  unfold isGap at h
  rw [Bool.or_eq_true, decide_eq_true_eq, decide_eq_true_eq] at h
  rcases h with rfl | rfl
  · decide
  · decide

theorem not_isGap_of_isDigit {c : Char} (h : Hex.isDigit c = true) : isGap c = false := by
  cases hgap : isGap c with
  | false => rfl
  | true => exact absurd h (by simp [(not_isDigit_of_isGap hgap).1])

theorem skip_append {indent : List Char} (hindent : IsIndent indent)
    (htext : ∀ c ∈ text.head?, isGap c = false) : skip (indent ++ text) = text :=
  dropWhile_append_of_head? hindent htext

theorem gap?_append (hgap : Separates gap) (htext : ∀ c ∈ text.head?, isGap c = false) :
    gap? (gap ++ text) = some text := by
  obtain ⟨hne, hindent⟩ := hgap
  cases gap with
  | nil => exact absurd rfl hne
  | cons c gap =>
      rw [IsIndent, List.forall_mem_cons] at hindent
      show (if isGap c then some (skip (gap ++ text)) else none) = some text
      rw [if_pos hindent.1, skip_append hindent.2 htext]

theorem number?_append (h : Hex.IsNumeral text n)
    (hrest : ∀ c ∈ rest.head?, Hex.isDigit c = false) :
    number? (text ++ rest) =
      if n < UInt64.size then some (UInt64.ofNat n, rest) else none := by
  unfold number?
  rw [takeWhile_append_of_head? h.isDigits.2 hrest, dropWhile_append_of_head? h.isDigits.2 hrest,
    Hex.value?_of_isNumeral h]

/-- An address reads back if 64 bits hold it, and is refused otherwise. -/
theorem address?_append (h : IsAddress text n)
    (hrest : ∀ c ∈ rest.head?, Hex.isDigit c = false ∧ c ≠ 'x') :
    address? (text ++ rest) =
      if n < UInt64.size then some (UInt64.ofNat n, rest) else none := by
  have hdigit : ∀ c ∈ rest.head?, Hex.isDigit c = false := fun c hc => (hrest c hc).1
  rcases h with hnumeral | ⟨numeral, rfl, hnumeral⟩
  · rw [← number?_append hnumeral hdigit]
    unfold address?
    split
    · -- a numeral has no `x` in it, and none follows
      rename_i more heq
      cases text with
      | nil => exact absurd rfl hnumeral.isDigits.1
      | cons c text =>
          cases text with
          | nil =>
              have hx : rest = 'x' :: more := (List.cons.inj heq).2
              exact absurd rfl (hrest 'x' (by rw [hx]; rfl)).2
          | cons d text =>
              have hd : d = 'x' := (List.cons.inj (List.cons.inj heq).2).1
              have hdigit := hnumeral.isDigits.2 d (List.mem_cons_of_mem c List.mem_cons_self)
              rw [hd] at hdigit
              cases hdigit
    · rfl
  · exact number?_append hnumeral hdigit

/-- A column begins here, whatever follows it. -/
theorem not_isGap_of_head?_append {column : List Char} (hne : column ≠ [])
    (hfirst : ∀ c ∈ column.head?, isGap c = false) (rest : List Char) :
    ∀ c ∈ (column ++ rest).head?, isGap c = false := by
  rwa [List.head?_append_of_ne_nil column hne]

theorem IsAddress.ne_nil (h : IsAddress text n) : text ≠ [] := by
  rcases h with hnumeral | ⟨numeral, rfl, -⟩
  · exact hnumeral.isDigits.1
  · exact List.cons_ne_nil _ _

/-- An address begins with a digit. -/
theorem IsAddress.not_isGap (h : IsAddress text n) : ∀ c ∈ text.head?, isGap c = false := by
  have hdigit : ∀ c ∈ text.head?, Hex.isDigit c = true := by
    rcases h with hnumeral | ⟨numeral, rfl, -⟩
    · exact fun c hc => hnumeral.isDigits.2 c (List.mem_of_mem_head? hc)
    · rintro _ ⟨⟩
      rfl
  exact fun c hc => not_isGap_of_isDigit (hdigit c hc)

/-- So does an address after indentation. -/
theorem address?_skip_append {indent : List Char} (hindent : IsIndent indent)
    (h : IsAddress text n) (hrest : ∀ c ∈ rest.head?, Hex.isDigit c = false ∧ c ≠ 'x') :
    address? (skip (indent ++ (text ++ rest))) =
      if n < UInt64.size then some (UInt64.ofNat n, rest) else none := by
  rw [skip_append hindent (not_isGap_of_head?_append h.ne_nil h.not_isGap rest),
    address?_append h hrest]

/-- And an address in the next column. -/
theorem nextAddress?_of_follow (h : Follow ((IsAddress · n) :: columns) text rest)
    (hrest : Ends rest) :
    ∃ more, Follow columns more rest ∧ nextAddress? text =
      if n < UInt64.size then some (UInt64.ofNat n, more) else none := by
  cases h with
  | @cons _ _ gap column more _ hgap hcolumn hmore =>
      refine ⟨more, hmore, ?_⟩
      unfold nextAddress?
      rw [gap?_append hgap (not_isGap_of_head?_append hcolumn.ne_nil hcolumn.not_isGap more),
        Option.bind_some]
      exact address?_append hcolumn fun c hc => not_isDigit_of_isGap (hmore.ends hrest c hc)

/-- A word is read whole. -/
theorem nextWord?_of_follow (h : Follow ((· = word) :: columns) text rest) (hword : IsWord word)
    (hrest : Ends rest) :
    ∃ more, Follow columns more rest ∧ nextWord? text = some (word, more) := by
  obtain ⟨hne, hword⟩ := hword
  cases h with
  | @cons _ _ gap column more _ hgap hcolumn hmore =>
      obtain rfl : column = word := hcolumn
      have hinside : ∀ c ∈ column, (!isGap c) = true := fun c hc => by rw [hword c hc]; rfl
      have hafter : ∀ c ∈ more.head?, (!isGap c) = false := fun c hc => by
        rw [hmore.ends hrest c hc]
        rfl
      have hfirst : ∀ c ∈ (column ++ more).head?, isGap c = false :=
        not_isGap_of_head?_append hne (fun c hc => hword c (List.mem_of_mem_head? hc)) more
      refine ⟨more, hmore, ?_⟩
      unfold nextWord? word?
      rw [gap?_append hgap hfirst, Option.bind_some, takeWhile_append_of_head? hinside hafter,
        dropWhile_append_of_head? hinside hafter]
      cases column with
      | nil => exact absurd rfl hne
      | cons c column => rfl

end Column

end CrashReport
