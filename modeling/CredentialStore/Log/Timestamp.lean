import CredentialStore.Text.Basic

namespace CredentialStore.Log

/-- A date of the Gregorian calendar, carried on into the years before it was introduced. -/
structure Date where
  year : Int
  month : Nat
  day : Nat
  deriving DecidableEq, Repr

namespace Date

/-- Days from 1 March of the year 0 to 1 January 1970. -/
def daysToEpoch : Int := 719468

/-- Days of four hundred years, after which the calendar repeats. -/
def daysOfCycle : Int := 146097

/-- The year, within its cycle, of a day of the cycle. Years begin on 1 March, so that a leap day is
    the last day of its year. -/
def yearOfCycle (day : Nat) : Nat := (day - day / 1460 + day / 36524 - day / 146096) / 365

/-- The day of a year that begins on 1 March. -/
def dayOfYear (day : Nat) : Nat :=
  let year := yearOfCycle day
  day - (365 * year + year / 4 - year / 100)

/-- The date that lies a number of days after 1 January 1970. -/
def ofDays (days : Int) : Date :=
  let shifted := days + daysToEpoch
  let day := (shifted % daysOfCycle).toNat
  let dayOfYear := dayOfYear day
  let march := (5 * dayOfYear + 2) / 153
  let month := if march < 10 then march + 3 else march - 9
  let year := 400 * (shifted / daysOfCycle) + yearOfCycle day
  { year := if month ≤ 2 then year + 1 else year
    month
    day := dayOfYear - (153 * march + 2) / 5 + 1 }

end Date

namespace Timestamp

/-- Why a count of seconds has no date. -/
inductive Problem
  /-- The count exceeds what a clock counts. -/
  | outOfRange
  /-- The year exceeds what a calendar date holds. -/
  | noSuchYear
  /-- The year can be held, but not be written out. -/
  | unwritableYear
  deriving DecidableEq, Repr

def secondsOfDay : Int := 86400

/-- A count of seconds in the form `YYYY-MM-DDThh:mm:ssZ`. The year has as many digits as it needs. -/
def render (seconds : Int) : Text :=
  let date := Date.ofDays (seconds / secondsOfDay)
  let second := (seconds % secondsOfDay).toNat
  let two := Text.decimalPadded 2
  Text.signedDecimal date.year ++ text "-" ++ two date.month ++ text "-" ++ two date.day ++ text "T" ++
    two (second / 3600) ++ text ":" ++ two (second / 60 % 60) ++ text ":" ++ two (second % 60) ++ text "Z"

/-- A count of seconds as a timestamp, if a clock of 64 bits can show it and the year, counted from
    1900 or from 0, fits into 32 bits. -/
def ofSeconds (seconds : Int) : Except Problem Text :=
  let year := (Date.ofDays (seconds / secondsOfDay)).year
  if seconds < -0x8000000000000000 ∨ 0x8000000000000000 ≤ seconds then throw .outOfRange
  else if year - 1900 < -0x80000000 ∨ 0x80000000 ≤ year - 1900 then throw .noSuchYear
  else if 0x80000000 ≤ year then throw .unwritableYear
  else pure (render seconds)

end Timestamp

end CredentialStore.Log
