import ThreatIntel.Error
import ThreatIntel.Text.Lowercase
import ThreatIntel.Time.MailDate
import ThreatIntel.Time.Relative
import ThreatIntel.Time.Timestamp

/-!
# Reading dates

Any spelling of a date that people use: timestamps, dates of mail headers, a handful of layouts in
universal time, seconds or milliseconds since 1970, and words and phrases that count from now. The
spellings are tried in this order and the first that fits decides.
-/

namespace ThreatIntel
namespace Time

/-- Why a text or number is no date. -/
inductive Refusal where
  /-- Nothing but blanks was given. -/
  | blank
  /-- The number of seconds or milliseconds lies outside the calendar. -/
  | epochOutOfRange (epoch : Int)
  /-- No spelling fits. -/
  | unrecognized (input : String)
  /-- The neighbouring day lies outside the calendar, which no caller can recover from. -/
  | beyondCalendar
  deriving DecidableEq, Repr

namespace Refusal

/-- The text of a refusal. -/
def message : Refusal → String
  | blank => "Empty value is not a date"
  | epochOutOfRange epoch => s!"Epoch value {epoch} is out of range"
  | unrecognized input => s!"Could not parse '{input}' as a date"
  | beyondCalendar => "The neighbouring day lies outside the calendar"

/-- A refusal as the error of a call. -/
def error : Refusal → Error
  | beyondCalendar => .internal beyondCalendar.message
  | refusal => .validation refusal.message

end Refusal

/-- Numbers of this magnitude and above count milliseconds instead of seconds. -/
def millisecondThreshold : Nat := 100000000000

/-- The instant a number of seconds or milliseconds after the beginning of 1970. -/
def ofEpoch (epoch : Int) : Except Refusal Instant :=
  let parts : Int × Nat :=
    if epoch.natAbs < millisecondThreshold then (epoch, 0)
    else (epoch / 1000, (epoch % 1000).toNat * 1000000)
  match Instant.ofParts? parts.1 parts.2 with
  | some instant => .ok instant
  | none => .error (.epochOutOfRange epoch)

/-- The first layout that fits gives the fields of a date. -/
def readLayouts? (layouts : List Layout) (instantOf : Fields → Option Instant)
    (cs : List Char) : Option Instant :=
  layouts.findSome? fun layout => (layout.readAll cs).bind instantOf

/-- Read a date that does not depend on the present. -/
def readAbsolute? (cs : List Char) : Option Instant :=
  Timestamp.readStrict? cs <|> MailDate.read? cs <|>
    readLayouts? Layout.dateTimes (·.instant? 0) cs <|>
    readLayouts? Layout.dates (·.midnight?) cs

/-- The day next to that of `now`, at its beginning. -/
def neighbour (now : Instant) (days : Int) : Except Refusal Instant :=
  match now.midnight.addSeconds (days * 86400) with
  | some instant => .ok instant
  | none => .error .beyondCalendar

/-- Read a word or phrase that counts from `now`. -/
def readFromNow (now : Instant) (input : String) (cs : List Char) : Except Refusal Instant :=
  let word := Text.lower cs
  if word = "now".toList then .ok now
  else if word = "today".toList then .ok now.midnight
  else if word = "yesterday".toList then neighbour now (-1)
  else if word = "tomorrow".toList then neighbour now 1
  else
    match Relative.read? now word with
    | some instant => .ok instant
    | none => .error (.unrecognized input)

/-- Read any spelling of a date. -/
def read (now : Instant) (input : String) : Except Refusal Instant :=
  let cs := Text.trim input.toList
  if cs.isEmpty then .error .blank
  else
    match readAbsolute? cs with
    | some instant => .ok instant
    | none =>
        match Text.readInt64? cs with
        | some epoch => ofEpoch epoch.toInt
        | none => readFromNow now input cs

end Time
end ThreatIntel
