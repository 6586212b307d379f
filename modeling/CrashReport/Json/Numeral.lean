import CrashReport.Text.Scan

/-!
# Rounding, and numbers in JSON text

Quotients are rounded to whole numbers, and whole numbers to as many significant bits as
binary floating point of 64 bits has:

* **`Rounding.even`**, **`Rounding.up`** — the nearest whole number; they differ in what is
  exactly between two;
* **`Rounding.significant`** — the nearest number of 53 significant bits.

A `Numeral` is a number as it is written: digits, a point, a power of ten. It stands for

* a whole number of 64 bits, if it is written as one (`Numeral.integer?`);
* otherwise a number in binary floating point of 64 bits, which is refused if it is too
  great (`Numeral.overflows`).

The second is computed from the digits that fit into 64 bits and the power of ten that is
left to multiply them with. Both are rounded to 53 significant bits, and so is their
product; so the greatest numbers are refused although they could be held.
-/

namespace CrashReport.Rounding

/-- The whole number nearest to a quotient; of two the even one. -/
def even (num den : Nat) : Nat :=
  let q := num / den
  let r := num % den
  if 2 * r < den then q
  else if den < 2 * r then q + 1
  else q + q % 2

/-- The whole number nearest to a quotient; of two the greater one. -/
def up (num den : Nat) : Nat := (2 * num + den) / (2 * den)

/-- The number of 53 significant bits that is nearest to a whole number; of two the one whose
last significant bit is clear. -/
def significant (n : Nat) : Nat :=
  let dropped := n.log2 - 52
  even n (1 <<< dropped) <<< dropped

theorem even_one (n : Nat) : even n 1 = n := by
  have : n % 1 = 0 := Nat.mod_one n
  simp [even, this]

/-- Numbers of at most 53 bits stay as they are. -/
theorem significant_of_log2_le {n : Nat} (h : n.log2 ≤ 52) : significant n = n := by
  simp [significant, Nat.sub_eq_zero_of_le h, even_one]

end CrashReport.Rounding

namespace CrashReport.Json

/-- A number as it is written: whether a minus sign stands before it, the digits before and after
its point, and the power of ten, if one is given. -/
structure Numeral where
  negative : Bool
  whole : List Char
  fraction : List Char := []
  exponent : Option Int := none
  deriving DecidableEq, Repr

namespace Numeral

/-- Appends digits to a number as long as it stays within 64 bits, and gives the digits that
are left. -/
def fill : Nat → List Char → Nat × List Char
  | n, [] => (n, [])
  | n, digit :: digits =>
    let longer := Decimal.valueFrom n [digit]
    if longer < UInt64.size then fill longer digits else (n, digit :: digits)

/-- The digits that fit into 64 bits, the point left out, and the power of ten that remains:
a digit that is left before the point raises it, one that is taken after the point lowers it. -/
def scaled (n : Numeral) : Nat × Int :=
  let (whole, wholeLeft) := fill 0 n.whole
  let (significand, fractionLeft) := fill whole n.fraction
  (significand,
    n.exponent.getD 0 + wholeLeft.length - (n.fraction.length - fractionLeft.length : Nat))

/-- The least number that is too great for binary floating point of 64 bits: it lies half a
unit above the greatest that can be held. -/
def bound : Nat := 1 <<< 1024 - 1 <<< 970

/-- The number is too great for binary floating point of 64 bits. -/
def overflows (n : Numeral) : Bool :=
  let (significand, scale) := n.scaled
  if significand = 0 ∨ scale < 0 then false
  else if 308 < scale then true
  else bound ≤ Rounding.significant significand * Rounding.significant (Nat.pow 10 scale.toNat)

/-- The whole number that the numeral writes in 64 bits, without sign, or with one if it is
negative. Any other form, and minus zero, stands for a number in floating point. -/
def integer? (n : Numeral) : Option Int :=
  match fill 0 n.whole, n.fraction, n.exponent with
  | (value, []), [], none =>
    if n.negative then
      if value = 0 ∨ 1 <<< 63 < value then none else some (-value)
    else some value
  | _, _, _ => none

end Numeral

end CrashReport.Json
