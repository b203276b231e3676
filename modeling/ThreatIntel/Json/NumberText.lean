import ThreatIntel.Json.Basic

/-!
# Numbers in JSON text

The written form of a number and the value it stands for. Whole numbers of the 64-bit words are read
exactly. Of any other number the first digits that fit a word are kept and scaled by one power of
ten, so that a result may differ from the nearest binary number in its last bit.
-/

namespace ThreatIntel
namespace Json

/-- The parts of a written number. -/
structure NumberText where
  /-- Whether a minus sign stands before it. -/
  negative : Bool
  /-- The digits before the point. -/
  whole : List Char
  /-- The digits after the point, if there is one. -/
  fraction : Option (List Char)
  /-- The sign and the digits of the exponent, if there is one. -/
  exponent : Option (Bool × List Char)
  deriving DecidableEq, Repr

namespace NumberText

/-- The digits at the front of a text, and the rest. -/
def spanDigits (cs : List Char) : List Char × List Char :=
  (cs.takeWhile Char.isDigit, cs.dropWhile Char.isDigit)

/-- Read the part after the point; at least one digit must stand there. -/
def readFraction : List Char → Option (Option (List Char) × List Char)
  | '.' :: rest =>
      let (digits, rest) := spanDigits rest
      if digits.isEmpty then none else some (some digits, rest)
  | rest => some (none, rest)

/-- Read the exponent's sign and digits; at least one digit must stand there. -/
def readExponentDigits (negative : Bool) (cs : List Char) :
    Option (Option (Bool × List Char) × List Char) :=
  let (digits, rest) := spanDigits cs
  if digits.isEmpty then none else some (some (negative, digits), rest)

/-- Read the part after the letter of the exponent. -/
def readExponent : List Char → Option (Option (Bool × List Char) × List Char)
  | c :: rest =>
      if c = 'e' ∨ c = 'E' then
        match rest with
        | '+' :: digits => readExponentDigits false digits
        | '-' :: digits => readExponentDigits true digits
        | digits => readExponentDigits false digits
      else some (none, c :: rest)
  | [] => some (none, [])

/-- Read a number at the front of a text: no digit may follow a leading zero. -/
def read (cs : List Char) : Option (NumberText × List Char) := do
  let (negative, cs) := match cs with
    | '-' :: rest => (true, rest)
    | rest => (false, rest)
  let (whole, cs) := spanDigits cs
  if whole.isEmpty then none
  else if whole.head? = some '0' ∧ whole.length ≠ 1 then none
  else
    let (fraction, cs) ← readFraction cs
    let (exponent, cs) ← readExponent cs
    pure (⟨negative, whole, fraction, exponent⟩, cs)

/-- One more than the greatest unsigned word of 64 bits. -/
def wordBound : Nat := UInt64.size

/-- Take digits into a significand as long as it fits a word; what is left over is returned. -/
def accumulate (significand : Nat) : List Char → Nat × List Char
  | [] => (significand, [])
  | c :: rest =>
      let next := significand * 10 + (c.toNat - 48)
      if next < wordBound then accumulate next rest else (significand, c :: rest)

/-- One power of ten as a binary number. -/
def powerOfTen (exponent : Nat) : Binary64 :=
  Binary64.ofNat (Nat.pow 10 exponent)

/-- A significand divided by powers of ten, the greatest of them while they last. -/
def scaleDown (x : Binary64) (exponent : Nat) : Nat → Binary64
  | 0 => x
  | fuel + 1 =>
      if exponent ≤ 308 then x.div (powerOfTen exponent)
      else if x.isZero then x
      else scaleDown (x.div (powerOfTen 308)) (exponent - 308) fuel

/-- A significand times a power of ten, if the result is finite. -/
def scale (significand : Nat) (exponent : Int) : Option Binary64 :=
  let x := Binary64.ofNat significand
  if exponent < 0 then some (scaleDown x exponent.natAbs 4)
  else if exponent ≤ 308 then
    let product := x.mul (powerOfTen exponent.toNat)
    if product.isFinite then some product else none
  else if x.isZero then some x
  else none

/-- The number that an exponent's digits stand for, if it fits a signed word of 32 bits. -/
def exponentValue (digits : List Char) : Option Nat :=
  let value := Nat.ofDigitChars 10 digits 0
  if value < 2147483648 then some value else none

/-- The value of a number with a point, an exponent, or more digits than a word holds. -/
def toReal (text : NumberText) : Option Binary64 := do
  let (significand, wholeLeft) := accumulate 0 text.whole
  let (significand, fractionLeft) := accumulate significand (text.fraction.getD [])
  let fractionTaken := (text.fraction.getD []).length - fractionLeft.length
  let shift : Int := (wholeLeft.length : Int) - fractionTaken
  let magnitude ← match text.exponent with
    | none => scale significand shift
    | some (negative, digits) =>
        match exponentValue digits with
        | some exponent =>
            scale significand (if negative then shift - exponent else shift + exponent)
        | none => if significand ≠ 0 ∧ !negative then none else some (Binary64.zero false)
  pure (if text.negative then magnitude.negate else magnitude)

/-- The value of a written number, if it has one. -/
def value? (text : NumberText) : Option Number :=
  match text.fraction, text.exponent with
  | none, none =>
      let magnitude := Nat.ofDigitChars 10 text.whole 0
      if !text.negative ∧ magnitude < wordBound then some (.whole magnitude)
      else if text.negative ∧ 0 < magnitude ∧ magnitude ≤ wordBound / 2 then
        some (.whole (-magnitude))
      else text.toReal.map .real
  | _, _ => text.toReal.map .real

end NumberText
end Json
end ThreatIntel
