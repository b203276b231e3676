import ThreatIntel.Time.Layout

/-!
# Dates of mail headers

Dates with the name of a month, an optional weekday, and an offset or the name of a time zone, such
as `Tue, 2 Jan 2024 03:04:05 GMT`. Comments in parentheses may follow.
-/

namespace ThreatIntel
namespace Time
namespace MailDate

/-- The weekdays by their first three letters, from Monday. -/
def weekdays : List String :=
  ["mon", "tue", "wed", "thu", "fri", "sat", "sun"]

/-- The months by their first three letters. -/
def months : List String :=
  ["jan", "feb", "mar", "apr", "may", "jun", "jul", "aug", "sep", "oct", "nov", "dec"]

/-- The names of time zones and the hours they are ahead of universal time. -/
def zones : List (String × Int) :=
  [("gmt", 0), ("ut", 0), ("z", 0), ("edt", -4), ("est", -5), ("cdt", -5), ("cst", -6), ("mdt", -6),
    ("mst", -7), ("pdt", -7), ("pst", -8)]

/-- The place of a date in the week, from Monday. -/
def weekdayOf (date : CivilDate) : Nat :=
  ((date.toDays + 3) % 7).toNat

/-- Read a weekday and the comma behind it, if a weekday stands there. -/
def scanWeekday : Scan (Option Nat) := fun cs =>
  match Scan.word weekdays cs with
  | some (weekday, ',' :: rest) => some (some weekday, rest)
  | some _ => none
  | none => some (none, cs)

/-- The year meant by a written year: two digits mean the years 1950 to 2049, three count from 1900.
-/
def fullYear (digits value : Nat) : Nat :=
  if digits = 2 then (if value ≤ 49 then value + 2000 else value + 1900)
  else if digits = 3 then value + 1900
  else value

/-- Offsets written without a colon. -/
def offsetForm : Scan.OffsetForm := ⟨some, false, false⟩

/-- Read an offset or the name of a time zone; a single letter means universal time. -/
def scanZone : Scan Int := fun cs =>
  let letters := cs.takeWhile Char.isAlpha
  if letters.isEmpty then Scan.offset offsetForm cs
  else
    let name := letters.map Char.toLower
    let rest := cs.drop letters.length
    match zones.find? fun zone => zone.1.toList == name with
    | some (_, hours) => some (hours * 3600, rest)
    | none => if name.length = 1 ∧ name ≠ ['j'] then some (0, rest) else none

/-- Skip the inside of a comment; `depth` more parentheses are open than the outermost. -/
def skipComment : Nat → List Char → Option (List Char)
  | _, [] => none
  | _, ['\\'] => none
  | depth, '\\' :: _ :: rest => skipComment depth rest
  | depth, '(' :: rest => skipComment (depth + 1) rest
  | 0, ')' :: rest => some rest
  | depth + 1, ')' :: rest => skipComment depth rest
  | depth, _ :: rest => skipComment depth rest

/-- Skip the comments at the front of a text, `fuel` of them at most; blanks may stand before each.
-/
def skipComments (cs : List Char) : Nat → List Char
  | 0 => cs
  | fuel + 1 =>
      match Text.trimStart cs with
      | '(' :: rest =>
          match skipComment 0 rest with
          | some rest => skipComments rest fuel
          | none => cs
      | _ => cs

/-- Read the seconds, if a colon announces them. -/
def scanSeconds : Scan (Option Nat) := fun cs =>
  match Text.trimStart cs with
  | ':' :: rest => (Scan.twoDigits rest).map fun (second, rest) => (some second, rest)
  | _ => some (none, cs)

/-- Read a date at the front of a text. -/
def scan : Scan (Option Nat × Fields × Int) := fun cs => do
  let (weekday, cs) ← scanWeekday (Text.trimStart cs)
  let (day, cs) ← Scan.number 1 2 (Text.trimStart cs)
  let (_, cs) ← Scan.blanks cs
  let (month, cs) ← Scan.word months cs
  let (_, cs) ← Scan.blanks cs
  let (year, rest) ← Scan.digits 2 cs
  let year := fullYear (cs.length - rest.length) year
  let (_, cs) ← Scan.blanks rest
  let (hour, cs) ← Scan.twoDigits cs
  let (_, cs) ← Scan.char ':' (Text.trimStart cs)
  let (minute, cs) ← Scan.twoDigits (Text.trimStart cs)
  let (second, cs) ← scanSeconds cs
  let (_, cs) ← Scan.blanks cs
  let (offset, cs) ← scanZone cs
  pure ((weekday,
    ⟨some year, some (month + 1), some day, some hour, some minute, second, none⟩, offset), cs)

/-- Whether a weekday that was read is that of the date. -/
def weekdayFits (weekday : Option Nat) (fields : Fields) : Bool :=
  match weekday, fields.date? with
  | some weekday, some date => weekday == weekdayOf date
  | _, _ => true

/-- Read a whole text as a date. -/
def read? (cs : List Char) : Option Instant := do
  let ((weekday, fields, offset), rest) ← scan cs
  if (skipComments rest rest.length).isEmpty ∧ -86400 < offset ∧ offset < 86400 ∧
      weekdayFits weekday fields then
    fields.instant? offset
  else none

end MailDate
end Time
end ThreatIntel
