/-!
# Hexadecimal text

Numbers are written in lowercase hexadecimal and read in either case. The main
definitions:

* **`Hex.value?`** — the number a run of digits denotes;
* **`Hex.ofNat`**, **`Hex.address`** — the digits of a number, and the form `0x…`
  in which every address of a report is written;
* **`Hex.bytes?`**, **`Hex.ofBytes`** — octets as pairs of digits.

`bytes?_ofBytes` says that octets read back as they were written.
-/

namespace CrashReport.Hex

/-- The value of one digit, in either case. -/
def digit? (c : Char) : Option Nat :=
  if '0' ≤ c ∧ c ≤ '9' then some (c.toNat - 48)
  else if 'a' ≤ c ∧ c ≤ 'f' then some (c.toNat - 87)
  else if 'A' ≤ c ∧ c ≤ 'F' then some (c.toNat - 55)
  else none

/-- The character is a hexadecimal digit. -/
def isDigit (c : Char) : Bool := (digit? c).isSome

/-- The value of a run of digits read after the value `acc`. -/
def valueFrom (acc : Nat) (digits : List Char) : Nat :=
  digits.foldl (fun n c => 16 * n + (digit? c).getD 0) acc

/-- The number that one or more digits denote. -/
def value? (digits : List Char) : Option Nat :=
  if digits ≠ [] ∧ digits.all isDigit then some (valueFrom 0 digits) else none

/-- The lowercase digits of a number, without leading zeros. -/
def ofNat (n : Nat) : List Char := Nat.toDigits 16 n

/-- An address as reports write it: `0x` and its lowercase digits. -/
def address (a : UInt64) : String := String.ofList ('0' :: 'x' :: ofNat a.toNat)

/-- The two lowercase digits of an octet. -/
def ofByte (b : UInt8) : List Char :=
  [Nat.digitChar (b.toNat / 16), Nat.digitChar (b.toNat % 16)]

/-- The octets as lowercase digits, two for each. -/
def ofBytes (bytes : List UInt8) : List Char := bytes.flatMap ofByte

/-- The octets that pairs of digits denote. -/
def bytes? : List Char → Option (List UInt8)
  | [] => some []
  | [_] => none
  | high :: low :: text =>
    match digit? high, digit? low, bytes? text with
    | some h, some l, some rest => some (UInt8.ofNat (16 * h + l) :: rest)
    | _, _, _ => none

theorem digit?_digitChar {d : Nat} (h : d < 16) : digit? (Nat.digitChar d) = some d := by
  revert d
  decide

theorem bytes?_ofBytes (bytes : List UInt8) : bytes? (ofBytes bytes) = some bytes := by
  induction bytes with
  | nil => rfl
  | cons b bytes ih =>
    have hb : b.toNat < 256 := b.toNat_lt
    have high := digit?_digitChar (show b.toNat / 16 < 16 by omega)
    have low := digit?_digitChar (show b.toNat % 16 < 16 by omega)
    have back : 16 * (b.toNat / 16) + b.toNat % 16 = b.toNat := by omega
    simp only [ofBytes, List.flatMap_cons] at ih ⊢
    simp [ofByte, bytes?, high, low, ih, back]

end CrashReport.Hex
