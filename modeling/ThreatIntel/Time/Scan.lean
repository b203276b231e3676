import ThreatIntel.Text.Blank

/-!
# Reading pieces of dates

Small readers that take a piece off the front of a text and return the rest.
-/

namespace ThreatIntel
namespace Time

/-- A reader takes a value off the front of a text, or refuses it. -/
abbrev Scan (α : Type) := List Char → Option (α × List Char)

namespace Scan

/-- Take between `least` and `most` decimal digits, as many as there are. -/
def number (least most : Nat) : Scan Nat := fun cs =>
  let digits := (cs.takeWhile Char.isDigit).take most
  if digits.length < least then none
  else some (Nat.ofDigitChars 10 digits 0, cs.drop digits.length)

/-- Take at least one decimal digit, as many as there are. -/
def digits (least : Nat) : Scan Nat := fun cs =>
  number least cs.length cs

/-- Take one given character. -/
def char (expected : Char) : Scan Unit
  | c :: rest => if c = expected then some ((), rest) else none
  | [] => none

/-- Take at least one blank, as many as there are. -/
def blanks : Scan Unit := fun cs =>
  match cs with
  | c :: rest => if Text.isBlank c then some ((), Text.trimStart rest) else none
  | [] => none

/-- Take a fraction of a second: nine digits count and any further ones are dropped. -/
def fraction : Scan Nat := fun cs => do
  let (value, rest) ← number 1 9 cs
  let taken := cs.length - rest.length
  pure (value * Nat.pow 10 (9 - taken), rest.dropWhile Char.isDigit)

/-- Take a fraction of a second behind a point, if a point stands there. -/
def optionalFraction : Scan (Option Nat)
  | '.' :: rest => do
      let (nanos, rest) ← fraction rest
      pure (some nanos, rest)
  | rest => some (none, rest)

/-- How an offset from universal time may be written. -/
structure OffsetForm where
  /-- What stands between hours and minutes is dropped by this, or refused. -/
  separator : List Char → Option (List Char)
  /-- Whether the letter `Z` stands for no offset. -/
  zulu : Bool
  /-- Whether the true minus sign is taken beside the hyphen. -/
  minusSign : Bool

/-- Two decimal digits as a number. -/
def twoDigits : Scan Nat :=
  number 2 2

/-- Take a sign; negative is `true`. -/
def sign (minusSign : Bool) : Scan Bool
  | '+' :: rest => some (false, rest)
  | '-' :: rest => some (true, rest)
  | c :: rest => if minusSign ∧ c = Char.ofNat 0x2212 then some (true, rest) else none
  | [] => none

/-- Take an offset from universal time, in seconds. -/
def offset (form : OffsetForm) : Scan Int := fun cs =>
  let signed : Option (Int × List Char) := do
    let (negative, rest) ← sign form.minusSign cs
    let (hours, rest) ← twoDigits rest
    let rest ← form.separator rest
    let (minutes, rest) ← twoDigits rest
    if minutes < 60 then
      let seconds : Int := hours * 3600 + minutes * 60
      pure (if negative then -seconds else seconds, rest)
    else none
  match cs with
  | c :: rest => if form.zulu ∧ (c = 'Z' ∨ c = 'z') then some (0, rest) else signed
  | [] => none

/-- Take one of the given words of ASCII letters, in any case, and return its place in the list. -/
def word (words : List String) : Scan Nat := fun cs =>
  match words.findIdx? fun word =>
      word.toList.length ≤ cs.length &&
        (cs.take word.toList.length).map Char.toLower == word.toList with
  | some index => some (index, cs.drop ((words[index]?.getD "").toList.length))
  | none => none

end Scan
end Time
end ThreatIntel
