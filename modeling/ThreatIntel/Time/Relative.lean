import ThreatIntel.Text.Blank
import ThreatIntel.Text.Decimal
import ThreatIntel.Time.Instant

/-!
# Relative dates

Phrases such as `3 days ago` and `in 2 hours`, which count from a given instant.
-/

namespace ThreatIntel
namespace Time

/-- A unit in which dates are counted. -/
inductive TimeUnit where
  /-- Seconds. -/
  | second
  /-- Minutes. -/
  | minute
  /-- Hours. -/
  | hour
  /-- Days. -/
  | day
  /-- Weeks. -/
  | week
  /-- Months of the calendar. -/
  | month
  /-- Years of the calendar. -/
  | year
  deriving DecidableEq, Repr

namespace TimeUnit

/-- Every unit. -/
def all : List TimeUnit :=
  [second, minute, hour, day, week, month, year]

/-- The singular spellings of a unit. -/
def spellings : TimeUnit → List String
  | second => ["second", "sec"]
  | minute => ["minute", "min"]
  | hour => ["hour", "hr"]
  | day => ["day"]
  | week => ["week", "wk"]
  | month => ["month"]
  | year => ["year", "yr"]

/-- Read a unit; any row of `s` at the end marks the plural. -/
def ofSpelling? (word : List Char) : Option TimeUnit :=
  let singular := (word.reverse.dropWhile (· == 's')).reverse
  all.find? fun unit => unit.spellings.any fun spelling => spelling.toList == singular

/-- Number of seconds in a unit of fixed length. -/
def seconds : TimeUnit → Nat
  | second => 1
  | minute => 60
  | hour => 3600
  | day => 86400
  | week => 604800
  | month | year => 0

/-- The instant a number of units later, or earlier if negative. -/
def shift (unit : TimeUnit) (amount : Int) (now : Instant) : Option Instant :=
  match unit with
  | month => now.addMonths amount
  | year => now.addMonths (12 * amount)
  | _ => now.addSeconds (amount * unit.seconds)

end TimeUnit

namespace Relative

/-- The words of a text: what stands between its blanks. -/
def words (cs : List Char) : List (List Char) :=
  (cs.splitOnP Text.isBlank).filter fun word => !word.isEmpty

/-- A count and its unit. -/
def distance? (amount unit : List Char) : Option (Nat × TimeUnit) := do
  let amount ← Text.readInt? amount
  let unit ← TimeUnit.ofSpelling? unit
  if amount < 0 then none else pure (amount.toNat, unit)

/-- Read a phrase in lower case that counts from `now`. -/
def read? (now : Instant) (cs : List Char) : Option Instant :=
  match words cs with
  | [first, second, third] =>
      if third = "ago".toList then do
        let (amount, unit) ← distance? first second
        unit.shift (-(amount : Int)) now
      else if first = "in".toList then do
        let (amount, unit) ← distance? second third
        unit.shift amount now
      else none
  | _ => none

end Relative
end Time
end ThreatIntel
