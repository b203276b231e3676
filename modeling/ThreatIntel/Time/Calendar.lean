/-!
# The civil calendar

Dates of the proleptic Gregorian calendar and the number of days from the first of January 1970 to
each of them. Year 0 is the year before year 1, and years before it are negative.
-/

namespace ThreatIntel
namespace Time

/-- A year, a month from 1 to 12, and a day of the month. -/
structure CivilDate where
  /-- The year. -/
  year : Int
  /-- The month, from 1. -/
  month : Nat
  /-- The day of the month, from 1. -/
  day : Nat
  deriving DecidableEq, Repr

/-- Whether a year has a 29th of February. -/
def isLeapYear (year : Int) : Bool :=
  year % 4 == 0 && (year % 100 != 0 || year % 400 == 0)

/-- Number of days in a month. -/
def monthLength (leap : Bool) : Nat → Nat
  | 2 => if leap then 29 else 28
  | 4 | 6 | 9 | 11 => 30
  | _ => 31

/-- Number of days of the year before a month. -/
def daysBeforeMonth (leap : Bool) : Nat → Nat
  | 0 | 1 => 0
  | month + 1 => daysBeforeMonth leap month + monthLength leap month

/-- Number of days from the first day of year 1 to the first day of a year. -/
def daysBeforeYear (year : Int) : Int :=
  365 * (year - 1) + (year - 1) / 4 - (year - 1) / 100 + (year - 1) / 400

/-- Number of days from the first day of year 1 to the first of January 1970. -/
def epochDays : Int := 719162

/-- The year in which a day lies, and the number of days of that year before it. The day is counted
from the first day of year 1; a cycle of the calendar has 400 years, and its last century and the
last year of each four are a day longer than the others. -/
def yearOfDay (day : Int) : Int × Nat :=
  let cycle := day / 146097
  let inCycle := (day % 146097).toNat
  let century := min (inCycle / 36524) 3
  let inCentury := inCycle - century * 36524
  let quad := inCentury / 1461
  let inQuad := inCentury - quad * 1461
  let year := min (inQuad / 365) 3
  (cycle * 400 + century * 100 + quad * 4 + year + 1, inQuad - year * 365)

/-- The month in which a day of the year lies: the last that begins no later. -/
def monthOfDay (leap : Bool) (ordinal : Nat) : Nat :=
  ([12, 11, 10, 9, 8, 7, 6, 5, 4, 3, 2].find? fun month =>
    daysBeforeMonth leap month ≤ ordinal).getD 1

namespace CivilDate

/-- Whether the date exists. -/
def exists? (date : CivilDate) : Bool :=
  1 ≤ date.month && date.month ≤ 12 && 1 ≤ date.day &&
    date.day ≤ monthLength (isLeapYear date.year) date.month

/-- Number of days since the first of January 1970. -/
def toDays (date : CivilDate) : Int :=
  daysBeforeYear date.year + daysBeforeMonth (isLeapYear date.year) date.month + date.day - 1 -
    epochDays

/-- The date that lies a number of days after the first of January 1970. -/
def ofDays (days : Int) : CivilDate :=
  let (year, ordinal) := yearOfDay (days + epochDays)
  let leap := isLeapYear year
  let month := monthOfDay leap ordinal
  ⟨year, month, ordinal - daysBeforeMonth leap month + 1⟩

/-- The date a number of months later, or earlier if negative; a day beyond the end of the month
becomes its last day. -/
def addMonths (date : CivilDate) (months : Int) : CivilDate :=
  let total := date.year * 12 + (date.month - 1 : Int) + months
  let year := total / 12
  let month := (total % 12).toNat + 1
  ⟨year, month, min date.day (monthLength (isLeapYear year) month)⟩

end CivilDate
end Time
end ThreatIntel
