/-
The proleptic Gregorian calendar. A day is a number of days since the first
of January of the year 1; years before that one go on with 0, -1, and so on.
-/
import FilterCriteria.Number.Digits

namespace FilterCriteria

-- =============================================================== years

/-- Every fourth year is a leap year, but of the centuries only every
fourth. -/
def isLeapYear (year : Int) : Bool :=
  (year % 4 == 0 && year % 100 != 0) || year % 400 == 0

/-- The lengths of the months of a common or a leap year. -/
def monthLengths (leap : Bool) : List Nat :=
  [31, if leap then 29 else 28, 31, 30, 31, 30, 31, 31, 30, 31, 30, 31]

/-- The number of days of a month, counted from 1; none has a month that
there is not. -/
def daysInMonth (year : Int) : Nat → Nat
  | 0 => 0
  | month + 1 => (monthLengths (isLeapYear year)).getD month 0

/-- The days from the first of January of the year 1 to that of `year`. -/
def daysBeforeYear (year : Int) : Int :=
  let past := year - 1
  365 * past + past / 4 - past / 100 + past / 400

/-- The days of the year in front of a month, counted from 1. -/
def daysBeforeMonth (year : Int) (month : Nat) : Nat :=
  ((monthLengths (isLeapYear year)).take (month - 1)).foldr (· + ·) 0

-- ================================================================ dates

/-- A calendar date. -/
structure Date where
  year : Int
  month : Nat
  day : Nat
deriving DecidableEq

namespace Date

/-- Is there such a day in the calendar? -/
def isValid (d : Date) : Bool :=
  1 ≤ d.month && d.month ≤ 12 && 1 ≤ d.day
    && d.day ≤ daysInMonth d.year d.month

/-- The date's place in its year, counted from 1. -/
def dayOfYear (d : Date) : Nat :=
  daysBeforeMonth d.year d.month + d.day

/-- The days since the first of January of the year 1. -/
def toDayNumber (d : Date) : Int :=
  daysBeforeYear d.year + d.dayOfYear - 1

/-- Finds the month, counted from `month`, and the day of the month, by
walking over the lengths of the months. -/
def walkMonths : (lengths : List Nat) → (month days : Nat) → Nat × Nat
  | [], month, days => (month, days + 1)
  | length :: rest, month, days =>
    if days < length then (month, days + 1)
    else walkMonths rest (month + 1) (days - length)

/-- The date of a day number. A period of 400 years has 146097 days; in it
come centuries of 36524 days, with 1461 days to every four years. The last
century of a period and the last year of four are a day longer, so that
their counts stop at 3. -/
def ofDayNumber (n : Int) : Date :=
  let period := n / 146097
  let days := (n % 146097).toNat
  let century := min (days / 36524) 3
  let days := days - century * 36524
  let four := days / 1461
  let days := days % 1461
  let one := min (days / 365) 3
  let days := days - one * 365
  let year := period * 400 + century * 100 + four * 4 + one + 1
  let (month, day) := walkMonths (monthLengths (isLeapYear year)) 1 days
  ⟨year, month, day⟩

/-- The date so many months later, or earlier for a negative number. A day
past the end of the new month becomes its last day. -/
def addMonths (d : Date) (months : Int) : Date :=
  let n := d.year * 12 + (d.month - 1) + months
  let year := n / 12
  let month := (n % 12).toNat + 1
  ⟨year, month, min d.day (daysInMonth year month)⟩

/-- Years in at least four places, and with a sign where they are more or
the year is negative. -/
def yearText (year : Int) : String :=
  if 0 ≤ year ∧ year ≤ 9999 then padded 4 year.toNat
  else (if year < 0 then "-" else "+") ++ padded 4 year.natAbs

end Date

end FilterCriteria
