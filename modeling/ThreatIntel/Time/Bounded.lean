import ThreatIntel.Time.Reading

/-!
# Dates in words of bounded width

Dates can be counted with products in words of 64 bits, months in words of 32, and spans of time in
milliseconds. What does not fit these is refused. Two steps have no check: the magnitude of a number
and the step to the next day.
-/

namespace ThreatIntel
namespace Time
namespace Bounded

open Text

/-- The result of a step, if it fits the words in which it is taken. -/
def checked (fits : Int → Bool) (n : Int) : Option Int :=
  if fits n then some n else none

/-- Whether a number of months fits an unsigned word of 32 bits. -/
def fitsMonths (n : Int) : Bool :=
  0 ≤ n && n < 4294967296

/-- Whether a span of time fits: its milliseconds are counted in a word of 64 bits. -/
def fitsSpan (seconds : Int) : Bool :=
  fitsInt64 (seconds * 1000)

/-- A distance forward or backward. -/
def directed (later : Bool) (n : Int) : Int :=
  if later then n else -n

/-- The instant a number of units later or earlier, with every product in a word of 64 bits. -/
def shift (unit : TimeUnit) (later : Bool) (amount : Int64) (now : Instant) : Option Instant :=
  match unit with
  | .month => (checked fitsMonths amount.toInt).bind fun months =>
      now.addMonths (directed later months)
  | .year => (checked fitsInt64 (amount.toInt * 12)).bind fun total =>
      (checked fitsMonths total).bind fun months => now.addMonths (directed later months)
  | unit => (checked fitsInt64 (amount.toInt * unit.seconds)).bind fun total =>
      (checked fitsSpan total).bind fun seconds => now.addSeconds (directed later seconds)

/-- A count in a word of 64 bits, and its unit. -/
def distance? (amount unit : List Char) : Option (Int64 × TimeUnit) := do
  let amount ← readInt64? amount
  let unit ← TimeUnit.ofSpelling? unit
  if amount.toInt < 0 then none else pure (amount, unit)

/-- Read a phrase in lower case that counts from `now`. -/
def relative? (now : Instant) (cs : List Char) : Option Instant :=
  match Relative.words cs with
  | [first, second, third] =>
      if third = "ago".toList then
        (distance? first second).bind fun (amount, unit) => shift unit false amount now
      else if first = "in".toList then
        (distance? second third).bind fun (amount, unit) => shift unit true amount now
      else none
  | _ => none

/-- A step that nothing checks, and that does not fit. -/
inductive Overrun where
  /-- The magnitude of a number of seconds or milliseconds. -/
  | magnitude
  /-- The day before or after. -/
  | neighbour
  deriving DecidableEq, Repr

/-- The instant a number of seconds or milliseconds after the beginning of 1970. -/
def ofEpoch (epoch : Int64) : Except Overrun (Except Refusal Instant) :=
  match checked fitsInt64 epoch.toInt.natAbs with
  | some _ => .ok (Time.ofEpoch epoch.toInt)
  | none => .error .magnitude

/-- The day next to that of `now`, at its beginning. -/
def neighbour (now : Instant) (days : Int) : Except Overrun (Except Refusal Instant) :=
  match now.midnight.addSeconds (days * 86400) with
  | some instant => .ok (.ok instant)
  | none => .error .neighbour

/-- Read a word or phrase that counts from `now`. -/
def readFromNow (now : Instant) (input : String) (cs : List Char) :
    Except Overrun (Except Refusal Instant) :=
  let word := lower cs
  if word = "now".toList then .ok (.ok now)
  else if word = "today".toList then .ok (.ok now.midnight)
  else if word = "yesterday".toList then neighbour now (-1)
  else if word = "tomorrow".toList then neighbour now 1
  else
    match relative? now word with
    | some instant => .ok (.ok instant)
    | none => .ok (.error (.unrecognized input))

/-- Read any spelling of a date in words of bounded width. -/
def read (now : Instant) (input : String) : Except Overrun (Except Refusal Instant) :=
  let cs := trim input.toList
  if cs.isEmpty then .ok (.error .blank)
  else
    match readAbsolute? cs with
    | some instant => .ok (.ok instant)
    | none =>
        match readInt64? cs with
        | some epoch => ofEpoch epoch
        | none =>
            readFromNow now input cs

end Bounded
end Time
end ThreatIntel
