import ThreatIntel.Text.Decimal
import ThreatIntel.Time.Instant
import ThreatIntel.Time.Scan

/-!
# Layouts of dates

A layout says which parts of a date stand where. It serves to write an instant and to read one:
where a number is expected blanks may stand before it, and where a blank is expected any number of
them may stand, or none.
-/

namespace ThreatIntel
namespace Time

/-- One part of a layout. -/
inductive Part where
  /-- The year, in four digits, or with a sign in more. -/
  | year
  /-- The month in two digits. -/
  | month
  /-- The day of the month in two digits. -/
  | day
  /-- The hour in two digits. -/
  | hour
  /-- The minute in two digits. -/
  | minute
  /-- The second in two digits. -/
  | second
  /-- A point and the fraction of a second, or nothing. -/
  | fraction
  /-- A blank. -/
  | blank
  /-- A fixed character. -/
  | literal (c : Char)
  deriving DecidableEq, Repr

/-- The parts of a date in order. -/
abbrev Layout := List Part

/-- What has been read of a date. -/
structure Fields where
  /-- The year. -/
  year : Option Int := none
  /-- The month. -/
  month : Option Nat := none
  /-- The day of the month. -/
  day : Option Nat := none
  /-- The hour. -/
  hour : Option Nat := none
  /-- The minute. -/
  minute : Option Nat := none
  /-- The second, which may be the sixtieth. -/
  second : Option Nat := none
  /-- The nanoseconds. -/
  nanos : Option Nat := none
  deriving DecidableEq, Repr

/-- A year as it is written: four digits, with a sign where they do not suffice. -/
def yearChars (year : Int) : List Char :=
  if 0 ≤ year ∧ year ≤ 9999 then Text.padDigits 4 year.toNat
  else (if year < 0 then '-' else '+') :: Text.padDigits 4 year.natAbs

/-- A fraction of a second as it is written: in three, six or nine digits, as few as hold it. -/
def fractionChars (nanos : Nat) : List Char :=
  if nanos = 0 then []
  else if nanos % 1000000 = 0 then '.' :: Text.padDigits 3 (nanos / 1000000)
  else if nanos % 1000 = 0 then '.' :: Text.padDigits 6 (nanos / 1000)
  else '.' :: Text.padDigits 9 nanos

namespace Part

/-- Write one part of an instant. -/
def write (date : CivilDate) (clock : Clock) : Part → List Char
  | year => yearChars date.year
  | month => Text.padDigits 2 date.month
  | day => Text.padDigits 2 date.day
  | hour => Text.padDigits 2 clock.hour
  | minute => Text.padDigits 2 clock.minute
  | second => Text.padDigits 2 clock.second
  | fraction => fractionChars clock.nanos
  | blank => [' ']
  | literal c => [c]

/-- Read a year: with a sign any number of digits, without one at most four. -/
def readYear : Scan Int := fun cs =>
  match Text.trimStart cs with
  | '-' :: rest => (Scan.digits 1 rest).map fun (n, rest) => (-(n : Int), rest)
  | '+' :: rest => (Scan.digits 1 rest).map fun (n, rest) => ((n : Int), rest)
  | rest => (Scan.number 1 4 rest).map fun (n, rest) => ((n : Int), rest)

/-- Read a number of one or two digits. -/
def readShort : Scan Nat := fun cs =>
  Scan.number 1 2 (Text.trimStart cs)

/-- Read one part of a date. -/
def read (fields : Fields) : Part → Scan Fields
  | year, cs => (readYear cs).map fun (n, rest) => ({ fields with year := some n }, rest)
  | month, cs => (readShort cs).map fun (n, rest) => ({ fields with month := some n }, rest)
  | day, cs => (readShort cs).map fun (n, rest) => ({ fields with day := some n }, rest)
  | hour, cs => (readShort cs).map fun (n, rest) => ({ fields with hour := some n }, rest)
  | minute, cs => (readShort cs).map fun (n, rest) => ({ fields with minute := some n }, rest)
  | second, cs => (readShort cs).map fun (n, rest) => ({ fields with second := some n }, rest)
  | fraction, cs =>
      (Scan.optionalFraction cs).map fun (n, rest) => ({ fields with nanos := n }, rest)
  | blank, cs => some (fields, Text.trimStart cs)
  | literal c, cs => (Scan.char c cs).map fun (_, rest) => (fields, rest)

end Part

namespace Layout

/-- Write an instant. -/
def write (layout : Layout) (instant : Instant) : List Char :=
  layout.flatMap (Part.write instant.date instant.clock)

/-- Read the parts of a layout one after the other. -/
def read (layout : Layout) (fields : Fields) (cs : List Char) : Option (Fields × List Char) :=
  match layout with
  | [] => some (fields, cs)
  | part :: parts =>
      match part.read fields cs with
      | some (fields, rest) => read parts fields rest
      | none => none

/-- Read a whole text. -/
def readAll (layout : Layout) (cs : List Char) : Option Fields :=
  match layout.read {} cs with
  | some (fields, []) => some fields
  | _ => none

end Layout

namespace Fields

/-- The date, if all of it has been read. -/
def date? (fields : Fields) : Option CivilDate := do
  pure ⟨← fields.year, ← fields.month, ← fields.day⟩

/-- The time of day, if at least hour and minute have been read. -/
def clock? (fields : Fields) : Option Clock := do
  pure ⟨← fields.hour, ← fields.minute, fields.second.getD 0, fields.nanos.getD 0⟩

/-- The instant at a place whose clocks are `offset` seconds ahead. -/
def instant? (fields : Fields) (offset : Int) : Option Instant := do
  Instant.ofCivil? (← fields.date?) (← fields.clock?) offset

/-- The beginning of the day in universal time. -/
def midnight? (fields : Fields) : Option Instant := do
  Instant.ofCivil? (← fields.date?) ⟨0, 0, 0, 0⟩ 0

end Fields

namespace Layout

/-- Year, month and day with hyphens between them. -/
def isoDate : Layout := [.year, .literal '-', .month, .literal '-', .day]

/-- Hour, minute and second with colons between them. -/
def isoClock : Layout := [.hour, .literal ':', .minute, .literal ':', .second]

/-- The layout in which the server takes dates. -/
def canonical : Layout := isoDate ++ [.literal 'T'] ++ isoClock

/-- The layouts of a date with a time of day, in the order in which they are tried. -/
def dateTimes : List Layout :=
  [canonical, canonical ++ [.fraction], isoDate ++ [.blank] ++ isoClock,
    isoDate ++ [.blank] ++ isoClock ++ [.fraction],
    isoDate ++ [.blank, .hour, .literal ':', .minute]]

/-- The layouts of a date alone, in the order in which they are tried. -/
def dates : List Layout :=
  [isoDate, [.year, .literal '/', .month, .literal '/', .day],
    [.month, .literal '/', .day, .literal '/', .year],
    [.month, .literal '-', .day, .literal '-', .year]]

@[simp] theorem write_nil (instant : Instant) : write [] instant = [] := rfl

@[simp] theorem write_cons (part : Part) (layout : Layout) (instant : Instant) :
    write (part :: layout) instant =
      part.write instant.date instant.clock ++ write layout instant := rfl

@[simp] theorem read_nil (fields : Fields) (cs : List Char) :
    read [] fields cs = some (fields, cs) := rfl

end Layout

/-- An instant as the server takes it. -/
def Instant.canonical (instant : Instant) : String :=
  String.ofList (Layout.canonical.write instant)

end Time
end ThreatIntel
