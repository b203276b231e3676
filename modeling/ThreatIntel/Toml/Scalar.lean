import ThreatIntel.Binary64.Text
import ThreatIntel.Json.Basic
import ThreatIntel.Time.Calendar
import ThreatIntel.Time.Scan
import ThreatIntel.Toml.Text

/-!
# Scalars in settings files

Numbers, truth values and dates, each a row of letters, digits and a few signs. Underscores may
stand between digits. Dates are kept as texts, in one spelling.
-/

namespace ThreatIntel
namespace Toml

/-- Whether a character may stand in a scalar. -/
def isScalarChar (c : Char) : Bool :=
  c.isAlphanum || c == '+' || c == '-' || c == '_' || c == '.' || c == ':'

/-- Digits without the underscores between them; no underscore may stand at an end or beside
another. -/
def digitsOf? (isDigit : Char → Bool) : List Char → Option (List Char)
  | [] => none
  | [c] => if isDigit c then some [c] else none
  | c :: '_' :: d :: rest =>
      if isDigit c && isDigit d then (digitsOf? isDigit (d :: rest)).map (c :: ·) else none
  | c :: rest => if isDigit c then (digitsOf? isDigit rest).map (c :: ·) else none

/-- Decimal digits of which the first is no zero, unless it is the only one. -/
def wholeDigits? (cs : List Char) : Option (List Char) :=
  match digitsOf? Char.isDigit cs with
  | some ('0' :: _ :: _) => none
  | digits => digits

/-- A whole number, if it fits a signed word of 64 bits. -/
def word? (n : Int) : Option Json :=
  if Text.fitsInt64 n then some (.whole n) else none

/-- The sign of a number, and what follows it. -/
def splitSign : List Char → Bool × List Char
  | '-' :: rest => (true, rest)
  | '+' :: rest => (false, rest)
  | cs => (false, cs)

/-- Read digits to a base. -/
def readBase? (base : Nat) (cs : List Char) : Option Json := do
  let inBase := fun (c : Char) => (Text.hexValue? c).any (· < base)
  let digits ← digitsOf? inBase cs
  let values ← digits.mapM Text.hexValue?
  word? (values.foldl (fun n digit => n * base + digit) 0 : Nat)

/-- Read a whole number: decimal with a sign, or to base two, eight or sixteen without one. -/
def readInteger? (cs : List Char) : Option Json :=
  match cs with
  | '0' :: 'x' :: rest => readBase? 16 rest
  | '0' :: 'o' :: rest => readBase? 8 rest
  | '0' :: 'b' :: rest => readBase? 2 rest
  | cs => do
      let (negative, cs) := splitSign cs
      let digits ← wholeDigits? cs
      let n := Nat.ofDigitChars 10 digits 0
      word? (if negative then -n else n)

/-- Read an exponent behind its letter. -/
def readPower? (cs : List Char) : Option Int := do
  let (negative, cs) := splitSign cs
  let digits ← digitsOf? Char.isDigit cs
  let n := Nat.ofDigitChars 10 digits 0
  pure (if negative then -n else n)

/-- Read the part of a number behind its whole digits: a fraction, an exponent, or both. -/
def readTail? (cs : List Char) : Option (List Char × Int) :=
  match cs with
  | '.' :: rest => do
      let isPower := fun (c : Char) => c == 'e' || c == 'E'
      let fraction ← digitsOf? Char.isDigit (rest.takeWhile (!isPower ·))
      match rest.dropWhile (!isPower ·) with
      | [] => pure (fraction, 0)
      | _ :: power => pure (fraction, ← readPower? power)
  | c :: rest => if c = 'e' ∨ c = 'E' then (readPower? rest).map ([], ·) else none
  | [] => none

/-- Read a number that is not whole. -/
def readReal? (cs : List Char) : Option Json := do
  let (negative, cs) := splitSign cs
  if cs = "inf".toList then pure (.number (.real (.infinity negative)))
  else if cs = "nan".toList then
    pure (.number (.real { Binary64.notANumber with negative := negative }))
  else
    let isWhole := fun (c : Char) => c.isDigit || c == '_'
    let whole ← wholeDigits? (cs.takeWhile isWhole)
    let (fraction, power) ← readTail? (cs.dropWhile isWhole)
    let digits := Nat.ofDigitChars 10 (whole ++ fraction) 0
    let value := Binary64.ofDecimal negative digits (power - fraction.length)
    if value.isFinite then pure (.number (.real value)) else none

/-- Read a calendar date at the front of a text. -/
def readDate : Reader (List Char) := fun cs => do
  let (year, rest) ← Time.Scan.number 4 4 cs
  let (_, rest) ← Time.Scan.char '-' rest
  let (month, rest) ← Time.Scan.twoDigits rest
  let (_, rest) ← Time.Scan.char '-' rest
  let (day, rest) ← Time.Scan.twoDigits rest
  if Time.CivilDate.exists? ⟨year, month, day⟩ then pure (cs.take 10, rest) else none

/-- A fraction of a second as it is shown: at most nine digits count, zeros at the end are left out,
and one digit stays. -/
def shownFraction (digits : List Char) : List Char :=
  let shown := ((digits.take 9).reverse.dropWhile (· == '0')).reverse
  '.' :: if shown.isEmpty then ['0'] else shown

/-- Read a fraction of a second; there may be none. -/
def readFraction : Reader (List Char)
  | '.' :: rest =>
      let digits := rest.takeWhile Char.isDigit
      if digits.isEmpty then none else some (shownFraction digits, rest.drop digits.length)
  | rest => some ([], rest)

/-- Read the seconds of a time of day, with their fraction; there may be none. -/
def readSeconds : Reader (List Char)
  | ':' :: rest => do
      let (second, afterSecond) ← Time.Scan.twoDigits rest
      if 60 < second then none
      else
        let (fraction, afterFraction) ← readFraction afterSecond
        pure (':' :: rest.take 2 ++ fraction, afterFraction)
  | rest => some ([], rest)

/-- Read a time of day at the front of a text. -/
def readClock : Reader (List Char) := fun cs => do
  let (hour, rest) ← Time.Scan.twoDigits cs
  let (_, rest) ← Time.Scan.char ':' rest
  let (minute, rest) ← Time.Scan.twoDigits rest
  if 23 < hour ∨ 59 < minute then none
  else
    let (seconds, rest) ← readSeconds rest
    pure (cs.take 5 ++ seconds, rest)

/-- Read an offset from universal time that is the whole of a text; there may be none. No offset has
a plus sign. -/
def readOffset? : List Char → Option (List Char)
  | [] => some []
  | ['Z'] | ['z'] => some ['Z']
  | sign :: rest => do
      let (hour, rest') ← Time.Scan.twoDigits rest
      let (_, rest') ← Time.Scan.char ':' rest'
      let (minute, rest') ← Time.Scan.twoDigits rest'
      if (sign = '+' ∨ sign = '-') ∧ hour ≤ 23 ∧ minute ≤ 59 ∧ rest'.isEmpty then
        pure ((if hour = 0 ∧ minute = 0 then '+' else sign) :: rest)
      else none

/-- Read a date, a time of day, or both. -/
def readMoment? (cs : List Char) : Option Json :=
  match readDate cs with
  | some (date, []) => some (.text (String.ofList date))
  | some (date, divider :: rest) => do
      if divider ≠ 'T' ∧ divider ≠ 't' ∧ divider ≠ ' ' then none
      let (clock, rest) ← readClock rest
      let offset ← readOffset? rest
      pure (.text (String.ofList (date ++ 'T' :: clock ++ offset)))
  | none =>
      match readClock cs with
      | some (clock, []) => some (.text (String.ofList clock))
      | _ => none

/-- Whether a text goes on with a blank and a time of day. -/
def clockFollows : List Char → Bool
  | ' ' :: a :: b :: ':' :: _ => a.isDigit && b.isDigit
  | _ => false

/-- The characters of a scalar at the front of a text: a blank may stand in it between a date and a
time of day. -/
def spanScalar (cs : List Char) : List Char × List Char :=
  let front := cs.takeWhile isScalarChar
  let rest := cs.drop front.length
  if front.length = 10 ∧ (readDate front).isSome ∧ clockFollows rest then
    let clock := (rest.drop 1).takeWhile isScalarChar
    (front ++ ' ' :: clock, rest.drop (clock.length + 1))
  else (front, rest)

/-- Read a scalar. -/
def readScalar : Reader Json := fun cs => do
  let (word, rest) := spanScalar cs
  let value ←
    if word = "true".toList then some (.boolean true)
    else if word = "false".toList then some (.boolean false)
    else readInteger? word <|> readReal? word <|> readMoment? word
  pure (value, rest)

end Toml
end ThreatIntel
