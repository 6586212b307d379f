import CrashReport.Text.Hex

/-!
# Hexadecimal numerals

The ways in which a number is written, said without the reader, and that all of them read back.

* **`Hex.IsNumeral`** — a numeral: the digits of the number in either case, with zeros before them
  or not;
* **`Hex.value?_of_isNumeral`** — a numeral denotes its number;
* **`Hex.valueFrom_ofNat`** — so do the digits that are written. So no two addresses are written
  alike (`Hex.address_inj`).
-/

namespace CrashReport.Hex

/-- The text is a numeral of the number: its digits in either case, perhaps after zeros. -/
def IsNumeral (text : List Char) (n : Nat) : Prop :=
  ∃ zeros digits, text = List.replicate zeros '0' ++ digits ∧ digits.map Char.toLower = ofNat n

/-- One or more digits. -/
def IsDigits (text : List Char) : Prop := text ≠ [] ∧ ∀ c ∈ text, isDigit c = true

instance (text : List Char) : Decidable (IsDigits text) :=
  have : Decidable (∀ c ∈ text, isDigit c = true) := List.decidableBAll (isDigit · = true) text
  inferInstanceAs (Decidable (_ ∧ _))

/-- A digit is the same in both cases. -/
theorem digit?_toLower (c : Char) : digit? c.toLower = digit? c := by
  have hcapitals : ∀ n < 26, digit? (Char.ofNat (65 + n)).toLower = digit? (Char.ofNat (65 + n)) := by
    decide
  by_cases hc : 65 ≤ c.toNat ∧ c.toNat ≤ 90
  · have hchar : Char.ofNat (65 + (c.toNat - 65)) = c := by
      rw [Nat.add_sub_cancel' hc.1, Char.ofNat_toNat]
    rw [← hchar]
    exact hcapitals _ (by omega)
  · have hsame : c.toLower = c := by
      unfold Char.toLower
      refine dif_neg fun h => hc ?_
      exact ⟨UInt32.le_iff_toNat_le.1 h.1, UInt32.le_iff_toNat_le.1 h.2⟩
    rw [hsame]

theorem valueFrom_append (acc : Nat) (digits more : List Char) :
    valueFrom acc (digits ++ more) = valueFrom (valueFrom acc digits) more := List.foldl_append

theorem valueFrom_map_toLower (acc : Nat) (digits : List Char) :
    valueFrom acc (digits.map Char.toLower) = valueFrom acc digits := by
  unfold valueFrom
  rw [List.foldl_map]
  simp only [digit?_toLower]

theorem valueFrom_zeros (zeros : Nat) : valueFrom 0 (List.replicate zeros '0') = 0 := by
  induction zeros with
  | zero => rfl
  | succ zeros ih => exact ih

theorem valueFrom_ofNat (n : Nat) : valueFrom 0 (ofNat n) = n := by
  induction n using Nat.strongRecOn with
  | ind n ih =>
      unfold ofNat at ih ⊢
      rcases Nat.lt_or_ge n 16 with hlt | hge
      · rw [Nat.toDigits_of_lt_base hlt]
        show 16 * 0 + (digit? n.digitChar).getD 0 = n
        rw [digit?_digitChar hlt, Option.getD_some, Nat.mul_zero, Nat.zero_add]
      · have hlast : digit? (n % 16).digitChar = some (n % 16) := digit?_digitChar (by omega)
        rw [Nat.toDigits_of_base_le (by decide) hge, valueFrom_append, ih (n / 16) (by omega)]
        show 16 * (n / 16) + (digit? (n % 16).digitChar).getD 0 = n
        rw [hlast, Option.getD_some]
        omega

/-- No two addresses are written alike. -/
theorem address_inj {a b : UInt64} : address a = address b ↔ a = b := by
  constructor
  · intro h
    have hdigits : ofNat a.toNat = ofNat b.toNat := by
      have hchars := congrArg String.toList h
      simpa [address] using hchars
    have hnat : a.toNat = b.toNat := by
      rw [← valueFrom_ofNat a.toNat, hdigits, valueFrom_ofNat]
    exact UInt64.toNat_inj.1 hnat
  · rintro rfl
    rfl

theorem isDigit_of_mem_ofNat (n : Nat) : ∀ c ∈ ofNat n, isDigit c = true := by
  induction n using Nat.strongRecOn with
  | ind n ih =>
      unfold ofNat at ih ⊢
      intro c hc
      rcases Nat.lt_or_ge n 16 with hlt | hge
      · rw [Nat.toDigits_of_lt_base hlt, List.mem_singleton] at hc
        rw [hc, isDigit, digit?_digitChar hlt]
        rfl
      · rw [Nat.toDigits_of_base_le (by decide) hge, List.mem_append, List.mem_singleton] at hc
        rcases hc with hc | rfl
        · exact ih (n / 16) (by omega) c hc
        · rw [isDigit, digit?_digitChar (by omega : n % 16 < 16)]
          rfl

variable {text : List Char} {n : Nat}

theorem IsNumeral.isDigits (h : IsNumeral text n) : IsDigits text := by
  obtain ⟨zeros, digits, rfl, hdigits⟩ := h
  constructor
  · intro hnil
    rw [(List.append_eq_nil_iff.1 hnil).2] at hdigits
    exact Nat.toDigits_ne_nil hdigits.symm
  · intro c hc
    rcases List.mem_append.1 hc with hc | hc
    · rw [List.eq_of_mem_replicate hc]
      rfl
    · have hlower : c.toLower ∈ ofNat n := hdigits ▸ List.mem_map_of_mem hc
      have hdigit := isDigit_of_mem_ofNat n _ hlower
      unfold Hex.isDigit at hdigit ⊢
      rwa [digit?_toLower] at hdigit

theorem value?_of_isNumeral (h : IsNumeral text n) : value? text = some n := by
  have hall : text.all Hex.isDigit = true := List.all_eq_true.2 h.isDigits.2
  unfold value?
  rw [if_pos ⟨h.isDigits.1, hall⟩]
  obtain ⟨zeros, digits, rfl, hdigits⟩ := h
  rw [valueFrom_append, valueFrom_zeros, ← valueFrom_map_toLower, hdigits, valueFrom_ofNat]

end CrashReport.Hex
