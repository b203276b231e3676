import ThreatIntel.Time.Calendar

/-!
# Instants

Points in time to the nanosecond, within the years -262143 to 262142. A leap second is part of the
last second of its minute: its nanoseconds count on from one thousand million.
-/

namespace ThreatIntel
namespace Time

/-- The first second of the calendar. -/
def minSeconds : Int := -8334601228800

/-- The last second of the calendar. -/
def maxSeconds : Int := 8210266876799

/-- Number of nanoseconds in a second. -/
def nanosPerSecond : Nat := 1000000000

/-- A point in time. -/
structure Instant where
  /-- Whole seconds since the beginning of 1970. -/
  seconds : Int
  /-- Nanoseconds within the second, more than a second's worth in a leap second. -/
  nanos : Nat
  /-- The second lies in the calendar. -/
  seconds_inRange : minSeconds ≤ seconds ∧ seconds ≤ maxSeconds
  /-- A leap second stands only at the end of a minute. -/
  nanos_inRange :
    nanos < nanosPerSecond ∨ (nanos < 2 * nanosPerSecond ∧ seconds % 60 = 59)
  deriving DecidableEq

/-- The time of day, in which a leap second is written as the sixtieth. -/
structure Clock where
  /-- The hour, from 0 to 23. -/
  hour : Nat
  /-- The minute, from 0 to 59. -/
  minute : Nat
  /-- The second, from 0 to 60. -/
  second : Nat
  /-- The nanoseconds of the second. -/
  nanos : Nat
  deriving DecidableEq, Repr

namespace Instant

/-- The instant of a second and its nanoseconds, if it exists. -/
def ofParts? (seconds : Int) (nanos : Nat) : Option Instant :=
  if seconds_inRange : minSeconds ≤ seconds ∧ seconds ≤ maxSeconds then
    if nanos_inRange : nanos < nanosPerSecond ∨
        (nanos < 2 * nanosPerSecond ∧ seconds % 60 = 59) then
      some ⟨seconds, nanos, seconds_inRange, nanos_inRange⟩
    else none
  else none

/-- The beginning of 1970. -/
def epoch : Instant := ⟨0, 0, by decide, by decide⟩

instance : Inhabited Instant := ⟨epoch⟩

/-- The date of an instant. -/
def date (instant : Instant) : CivilDate :=
  CivilDate.ofDays (instant.seconds / 86400)

/-- The second of the day of an instant. -/
def secondOfDay (instant : Instant) : Nat :=
  (instant.seconds % 86400).toNat

/-- The time of day of an instant. -/
def clock (instant : Instant) : Clock :=
  let second := instant.secondOfDay
  ⟨second / 3600, second / 60 % 60, second % 60 + instant.nanos / nanosPerSecond,
    instant.nanos % nanosPerSecond⟩

/-- The beginning of an instant's day. -/
def midnight (instant : Instant) : Instant :=
  ⟨instant.seconds - instant.seconds % 86400, 0, by
    have bounds := instant.seconds_inRange
    unfold minSeconds maxSeconds at *
    omega, .inl (by decide)⟩

/-- The instant without its fraction of a second; a leap second stays one. -/
def truncate (instant : Instant) : Instant :=
  ⟨instant.seconds, instant.nanos / nanosPerSecond * nanosPerSecond, instant.seconds_inRange, by
    have bounds := instant.nanos_inRange
    unfold nanosPerSecond at *
    omega⟩

/-- The instant a number of seconds later, or earlier if negative. Leaving a leap second forward
counts from the beginning of its second, leaving it backward from the end. -/
def addSeconds (instant : Instant) (delta : Int) : Option Instant :=
  if instant.nanos < nanosPerSecond ∨ delta = 0 then
    ofParts? (instant.seconds + delta) instant.nanos
  else
    let start := if delta < 0 then instant.seconds + 1 else instant.seconds
    ofParts? (start + delta) (instant.nanos - nanosPerSecond)

/-- The instant a number of months later, or earlier if negative, at the same time of day. -/
def addMonths (instant : Instant) (months : Int) : Option Instant :=
  ofParts? ((instant.date.addMonths months).toDays * 86400 + instant.secondOfDay) instant.nanos

/-- The first year of the calendar. -/
def minYear : Int := -262143

/-- The last year of the calendar. -/
def maxYear : Int := 262142

/-- The instant of a date and a time of day at a place whose clocks are `offset` seconds ahead. -/
def ofCivil? (date : CivilDate) (clock : Clock) (offset : Int) : Option Instant :=
  if date.exists? ∧ minYear ≤ date.year ∧ date.year ≤ maxYear ∧ clock.hour < 24 ∧
      clock.minute < 60 ∧ clock.second ≤ 60 ∧ clock.nanos < nanosPerSecond then
    let leap := if clock.second = 60 then 1 else 0
    ofParts?
      (date.toDays * 86400 + clock.hour * 3600 + clock.minute * 60 + (clock.second - leap : Nat) -
        offset)
      (clock.nanos + leap * nanosPerSecond)
  else none

@[simp] theorem ofParts?_parts (instant : Instant) :
    ofParts? instant.seconds instant.nanos = some instant := by
  simp [ofParts?, instant.seconds_inRange, instant.nanos_inRange]

@[simp] theorem seconds_truncate (instant : Instant) :
    instant.truncate.seconds = instant.seconds := rfl

/-- An instant made of parts has these parts. -/
theorem parts_of_ofParts? {seconds : Int} {nanos : Nat} {instant : Instant}
    (made : ofParts? seconds nanos = some instant) :
    instant.seconds = seconds ∧ instant.nanos = nanos := by
  unfold ofParts? at made
  split at made
  · split at made
    · cases made
      exact ⟨rfl, rfl⟩
    · cases made
  · cases made

end Instant
end Time
end ThreatIntel
