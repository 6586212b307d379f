/-!
# Reading octets as text

The output of a tool is a string of octets that should be UTF-8. `Utf8.decode`
reads it whatever it is: each longest run of octets that starts a character but does
not finish it, and each octet that can start none, becomes one replacement character.
-/

namespace CrashReport.Utf8

/-- The character that stands for octets that are no text. -/
def replacement : Char := '\ufffd'

/-- The octets that may follow `first` as the second of a character, and how many
octets the character has after `first`. An octet that starts no character of several
octets has none. -/
def second? (first : UInt8) : Option (UInt8 × UInt8 × Nat) :=
  if 0xc2 ≤ first && first ≤ 0xdf then some (0x80, 0xbf, 1)
  else if first == 0xe0 then some (0xa0, 0xbf, 2)
  else if first == 0xed then some (0x80, 0x9f, 2)
  else if 0xe1 ≤ first && first ≤ 0xef then some (0x80, 0xbf, 2)
  else if first == 0xf0 then some (0x90, 0xbf, 3)
  else if 0xf1 ≤ first && first ≤ 0xf3 then some (0x80, 0xbf, 3)
  else if first == 0xf4 then some (0x80, 0x8f, 3)
  else none

/-- The part of the character's number that its first octet holds. -/
def leadBits (first : UInt8) (count : Nat) : Nat :=
  first.toNat % (if count = 1 then 0x20 else if count = 2 then 0x10 else 0x08)

/-- What is still missing of a character that has begun: `value` is the number read so far, the next
octet must lie between `low` and `high`, and `more` octets are missing after it. -/
structure Pending where
  value : Nat
  low : UInt8
  high : UInt8
  more : Nat

/-- Reads an octet with no character begun: the characters it gives, and what it begins. -/
def begin? (b : UInt8) : List Char × Option Pending :=
  if b < 0x80 then ([Char.ofNat b.toNat], none)
  else
    match second? b with
    | some (low, high, count) => ([], some ⟨leadBits b count, low, high, count - 1⟩)
    | none => ([replacement], none)

/-- Reads the octets that follow, given what has begun. -/
def decodeFrom : Option Pending → List UInt8 → List Char
  | none, [] => []
  | some _, [] => [replacement]
  | none, b :: rest =>
    let (chars, pending) := begin? b
    chars ++ decodeFrom pending rest
  | some p, b :: rest =>
    if p.low ≤ b && b ≤ p.high then
      let value := 64 * p.value + b.toNat % 64
      match p.more with
      | 0 => Char.ofNat value :: decodeFrom none rest
      | more + 1 => decodeFrom (some ⟨value, 0x80, 0xbf, more⟩) rest
    else
      let (chars, pending) := begin? b
      replacement :: (chars ++ decodeFrom pending rest)

/-- The text that the octets stand for. -/
def decode (bytes : List UInt8) : String := String.ofList (decodeFrom none bytes)

/-- The number of octets of a text. -/
def size : List Char → Nat
  | [] => 0
  | c :: text => c.utf8Size + size text

theorem size_toList (text : String) : size text.toList = text.utf8ByteSize := by
  suffices ∀ chars : List Char, size chars = (String.ofList chars).utf8ByteSize by
    rw [this, String.ofList_toList]
  intro chars
  induction chars with
  | nil => rfl
  | cons c rest ih =>
    rw [size, ih, String.ofList_cons, String.utf8ByteSize_append, String.utf8ByteSize_singleton]

/-- Octets of ASCII stand for themselves. -/
theorem decodeFrom_ascii {bytes : List UInt8} (h : ∀ b ∈ bytes, b < 0x80) :
    decodeFrom none bytes = bytes.map fun b => Char.ofNat b.toNat := by
  induction bytes with
  | nil => rfl
  | cons b rest ih =>
    have hb : b < 0x80 := h b List.mem_cons_self
    have hrest := ih fun c hc => h c (List.mem_cons_of_mem b hc)
    simp [decodeFrom, begin?, hb, hrest]

end CrashReport.Utf8
