import ThreatIntel.Binary64.Shortest
import ThreatIntel.Text.Decimal

/-!
# Numbers as plain text

The usual written forms of binary numbers: digits with an optional point and exponent, or a name for
infinity and for what is no number. They are written without an exponent, however long that makes
them.
-/

namespace ThreatIntel
namespace Binary64

/-- Read the digits of a magnitude: at least one before or behind the point. -/
def readMantissa (cs : List Char) : Option ((List Char × List Char) × List Char) :=
  let whole := cs.takeWhile Char.isDigit
  let rest := cs.drop whole.length
  match rest with
  | '.' :: rest =>
      let fraction := rest.takeWhile Char.isDigit
      if whole.isEmpty && fraction.isEmpty then none
      else some ((whole, fraction), rest.drop fraction.length)
  | rest => if whole.isEmpty then none else some ((whole, []), rest)

/-- Read the whole rest of a text as an exponent; without one it is zero. -/
def readExponent? : List Char → Option Int
  | [] => some 0
  | c :: rest => if c = 'e' ∨ c = 'E' then Text.readInt? rest else none

/-- Read a magnitude that is the whole of a text. -/
def readMagnitude? (negative : Bool) (cs : List Char) : Option Binary64 :=
  let name := String.ofList (cs.map Char.toLower)
  if name = "inf" ∨ name = "infinity" then some (infinity negative)
  else if name = "nan" then some { notANumber with negative := negative }
  else do
    let ((whole, fraction), rest) ← readMantissa cs
    let exponent ← readExponent? rest
    let digits := Nat.ofDigitChars 10 (whole ++ fraction) 0
    pure (ofDecimal negative digits (exponent - fraction.length))

/-- Read a number that is the whole of a text. -/
def ofChars? : List Char → Option Binary64
  | '-' :: rest => readMagnitude? true rest
  | '+' :: rest => readMagnitude? false rest
  | cs => readMagnitude? false cs

/-- The digits of a decimal, with a point where it has a fraction. -/
def Decimal.plainChars (decimal : Decimal) : List Char :=
  let digits := Text.natDigits decimal.digits
  let places := (-decimal.exponent).toNat
  if places = 0 then
    if decimal.digits = 0 then digits else digits ++ List.replicate decimal.exponent.toNat '0'
  else if places < digits.length then
    digits.take (digits.length - places) ++ '.' :: digits.drop (digits.length - places)
  else '0' :: '.' :: (List.replicate (places - digits.length) '0' ++ digits)

/-- The plain text of a number. -/
def plainChars (x : Binary64) : List Char :=
  if x.isNaN then "NaN".toList
  else
    let magnitude := if x.isFinite then x.shortest.plainChars else "inf".toList
    if x.negative then '-' :: magnitude else magnitude

end Binary64
end ThreatIntel
