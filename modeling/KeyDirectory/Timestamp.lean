import KeyDirectory.Text.Number

/-!
# Points in time, as answers show them

A timestamp counts seconds from the beginning of 1970 in universal time.  It is written as a
date and a time of the proleptic Gregorian calendar; years of more or fewer than four digits
carry a sign.  A leap second is the second after the one that it follows: the count stays and
the part of a second goes on beyond a whole one.
-/

namespace KeyDirectory

/-- A point in time. -/
structure Timestamp where
  /-- Whole seconds since the beginning of 1970, leap seconds left out. -/
  seconds : Int
  /-- The part of a second after them; a whole second or more within a leap second. -/
  nanoseconds : Nat
  deriving DecidableEq, Repr

namespace Timestamp

/-- The beginning of a second that is no leap second. -/
def ofSeconds (seconds : Int) : Timestamp :=
  ⟨seconds, 0⟩

/-- A day of the calendar. -/
structure Date where
  year : Int
  month : Nat
  day : Nat
  deriving DecidableEq, Repr

/-- The date a number of days after the first of January 1970.  Years are counted from March, so
that the leap day is the last of its year, in eras of four hundred years. -/
def dateOfDays (days : Int) : Date :=
  let shifted := days + 719468
  let era := shifted / 146097
  let dayOfEra := (shifted % 146097).toNat
  let yearOfEra := (dayOfEra - dayOfEra / 1460 + dayOfEra / 36524 - dayOfEra / 146096) / 365
  let dayOfYear := dayOfEra - (365 * yearOfEra + yearOfEra / 4 - yearOfEra / 100)
  let marchMonth := (5 * dayOfYear + 2) / 153
  let day := dayOfYear - (153 * marchMonth + 2) / 5 + 1
  let month := if marchMonth < 10 then marchMonth + 3 else marchMonth - 9
  ⟨yearOfEra + era * 400 + (if month ≤ 2 then 1 else 0), month, day⟩

/-- A year with four digits, or with a sign when four digits without one do not do. -/
def yearText (year : Int) : String :=
  if 0 ≤ year ∧ year ≤ 9999 then Text.padded 4 year.toNat
  else (if year < 0 then "-" else "+") ++ Text.padded 4 year.natAbs

/-- The date and time to the second, with `Z` for universal time; a leap second has the number
after that of the second before it. -/
def text (t : Timestamp) : String :=
  let date := dateOfDays (t.seconds / 86400)
  let second := (t.seconds % 86400).toNat
  yearText date.year ++ "-" ++ Text.padded 2 date.month ++ "-" ++ Text.padded 2 date.day ++ "T" ++
    Text.padded 2 (second / 3600) ++ ":" ++ Text.padded 2 (second / 60 % 60) ++ ":" ++
    Text.padded 2 (second % 60 + t.nanoseconds / 1000000000) ++ "Z"

end Timestamp

end KeyDirectory
