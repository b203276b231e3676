import ThreatIntel.Time.Layout

/-!
# Timestamps

Dates with a time of day and an offset from universal time, as internet protocols write them. The
strict reader takes each number in its full width. The lenient reader also takes shorter numbers,
signed years, blanks between the parts, an offset without a colon, and the name of universal time.
-/

namespace ThreatIntel
namespace Time
namespace Timestamp

/-- The letter or blank between date and time of day. -/
def divider : Scan Unit
  | c :: rest => if c = 'T' ∨ c = 't' ∨ c = ' ' then some ((), rest) else none
  | [] => none

/-- Read a colon. -/
def colon (cs : List Char) : Option (List Char) :=
  (Scan.char ':' cs).map Prod.snd

/-- Drop any row of colons and blanks. -/
def colonsOrBlanks (cs : List Char) : Option (List Char) :=
  some (cs.dropWhile fun c => c == ':' || Text.isBlank c)

/-- Offsets of strict timestamps. -/
def strictOffset : Scan.OffsetForm := ⟨colon, true, true⟩

/-- Offsets of lenient timestamps. -/
def lenientOffset : Scan.OffsetForm := ⟨colonsOrBlanks, true, true⟩

/-- Whether an offset is less than a day. -/
def offsetInRange (offset : Int) : Bool :=
  -86400 < offset && offset < 86400

/-- Read a timestamp in full width at the front of a text. -/
def scanStrict : Scan (Fields × Int) := fun cs => do
  let (year, cs) ← Scan.number 4 4 cs
  let (_, cs) ← Scan.char '-' cs
  let (month, cs) ← Scan.twoDigits cs
  let (_, cs) ← Scan.char '-' cs
  let (day, cs) ← Scan.twoDigits cs
  let (_, cs) ← divider cs
  let (hour, cs) ← Scan.twoDigits cs
  let (_, cs) ← Scan.char ':' cs
  let (minute, cs) ← Scan.twoDigits cs
  let (_, cs) ← Scan.char ':' cs
  let (second, cs) ← Scan.twoDigits cs
  let (nanos, cs) ← Scan.optionalFraction cs
  let (offset, cs) ← Scan.offset strictOffset cs
  pure ((⟨some year, some month, some day, some hour, some minute, some second, nanos⟩, offset), cs)

/-- Read a whole text as a timestamp in full width. -/
def readStrict? (cs : List Char) : Option Instant := do
  let ((fields, offset), rest) ← scanStrict cs
  if rest.isEmpty ∧ offsetInRange offset then fields.instant? offset else none

/-- The date of a lenient timestamp. -/
def lenientDate : Layout :=
  [.year, .blank, .literal '-', .month, .blank, .literal '-', .day]

/-- The time of day of a lenient timestamp. -/
def lenientClock : Layout :=
  [.hour, .blank, .literal ':', .minute, .blank, .literal ':', .second, .fraction, .blank]

/-- Read an offset or the name of universal time. -/
def scanLenientOffset : Scan Int := fun cs =>
  match Scan.word ["utc"] cs with
  | some (_, rest) => some (0, rest)
  | none => Scan.offset lenientOffset cs

/-- Read a whole text as a timestamp in any width. -/
def readLenient? (cs : List Char) : Option Instant := do
  let (fields, cs) ← lenientDate.read {} cs
  let (_, cs) ← divider cs
  let (fields, cs) ← lenientClock.read fields cs
  let (offset, rest) ← scanLenientOffset cs
  if (Text.trimStart rest).isEmpty ∧ offsetInRange offset then fields.instant? offset else none

/-- The layout in which timestamps are written, in universal time. -/
def layout : Layout :=
  Layout.canonical ++ [.fraction, .literal 'Z']

/-- Write a timestamp. -/
def write (instant : Instant) : String :=
  String.ofList (layout.write instant)

end Timestamp
end Time
end ThreatIntel
