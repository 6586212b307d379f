/-!
# Points in time

A point in time is counted in seconds from the beginning of 1970 in universal time. It
is written as RFC 3339 prescribes, `2023-11-14T22:13:20.12Z`: the fraction of the second
has as many digits as it needs, and the year must have four.
`Timestamp.ofNanos` makes one from a single number.

The date of a day is found by counting from the first of March of the year 0, so that the
day that leap years add is the last of its year.
-/

namespace CrashReport

/-- A point in time: the seconds since the beginning of 1970, counted down before it, and the
nanoseconds after them. -/
structure Timestamp where
  seconds : Int
  nanos : Nat := 0
  deriving DecidableEq, Repr

namespace Timestamp

/-- The nanoseconds in a second. -/
def nanosInSecond : Nat := 1000000000

/-- The point in time so many nanoseconds after the beginning of 1970; a negative number
counts back. -/
def ofNanos (nanos : Int) : Timestamp :=
  { seconds := nanos / nanosInSecond, nanos := (nanos % nanosInSecond).toNat }

/-- No nanosecond is lost. -/
theorem ofNanos_total (nanos : Int) :
    (ofNanos nanos).seconds * nanosInSecond + (ofNanos nanos).nanos = nanos := by
  simp only [ofNanos, nanosInSecond]
  omega

/-- The nanoseconds of a point in time do not fill a second. -/
theorem ofNanos_nanos_lt (nanos : Int) : (ofNanos nanos).nanos < nanosInSecond := by
  simp only [ofNanos, nanosInSecond]
  omega

/-- A day of the calendar. -/
structure Date where
  year : Int
  month : Nat
  day : Nat
  deriving DecidableEq, Repr

/-- The number of days in 400 years. -/
def daysInCycle : Nat := 146097

/-- The date of a day, counted from the first of January 1970. -/
def Date.ofDays (days : Int) : Date :=
  let sinceMarch := days + 719468
  let cycle := sinceMarch / daysInCycle
  let day := (sinceMarch % daysInCycle).toNat
  let year := (day - day / 1460 + day / 36524 - day / 146096) / 365
  let dayOfYear := day - (365 * year + year / 4 - year / 100)
  let monthFromMarch := (5 * dayOfYear + 2) / 153
  let month := if monthFromMarch < 10 then monthFromMarch + 3 else monthFromMarch - 9
  { year := cycle * 400 + year + (if month ≤ 2 then 1 else 0)
    month := month
    day := dayOfYear - (153 * monthFromMarch + 2) / 5 + 1 }

/-- A number in at least `width` digits. -/
def padded (width n : Nat) : String :=
  let digits := Nat.toDigits 10 n
  String.ofList (List.replicate (width - digits.length) '0' ++ digits)

/-- The fraction of a second, with its point, unless it is zero. -/
def fraction (nanos : Nat) : String :=
  if nanos = 0 then ""
  else
    let digits := (padded 9 nanos).toList
    String.ofList ('.' :: (digits.reverse.dropWhile (· = '0')).reverse)

/-- The point in time as RFC 3339 prescribes it, if its year has four digits. -/
def text? (t : Timestamp) : Option String :=
  let date := Date.ofDays (t.seconds / 86400)
  let second := (t.seconds % 86400).toNat
  if 0 ≤ date.year ∧ date.year ≤ 9999 then
    some (padded 4 date.year.toNat ++ "-" ++ padded 2 date.month ++ "-" ++ padded 2 date.day ++
      "T" ++ padded 2 (second / 3600) ++ ":" ++ padded 2 (second / 60 % 60) ++ ":" ++
      padded 2 (second % 60) ++ fraction t.nanos ++ "Z")
  else none

/-- Just before 1970. -/
example : ofNanos (-1) = ⟨-1, 999999999⟩ := by decide

example : Date.ofDays 0 = ⟨1970, 1, 1⟩ := by decide

/-- The last day of February of a leap year. -/
example : Date.ofDays 11016 = ⟨2000, 2, 29⟩ := by decide

end Timestamp

end CrashReport
