/-!
# Binary floating point

Numbers of the 64-bit binary format, kept as a sign and a magnitude code: the exponent field
followed by the fraction field, so that codes are ordered as the magnitudes are. Arithmetic is exact
on rationals and rounded once, to the nearest number and to the even code on a tie.
-/

namespace ThreatIntel

/-- A number of the 64-bit binary format. -/
structure Binary64 where
  /-- Whether the sign is negative. -/
  negative : Bool
  /-- Exponent and fraction fields read as one number. -/
  code : Nat
  deriving DecidableEq, Repr

namespace Binary64

/-- Number of fractions per exponent: two to the power of 52. -/
def fractions : Nat := 4503599627370496

/-- The code of infinity; larger codes are no numbers. -/
def infinityCode : Nat := 2047 * fractions

/-- Zero with a sign. -/
def zero (negative : Bool) : Binary64 := ⟨negative, 0⟩

/-- Infinity with a sign. -/
def infinity (negative : Bool) : Binary64 := ⟨negative, infinityCode⟩

/-- The value that is no number. -/
def notANumber : Binary64 := ⟨false, infinityCode + fractions / 2⟩

/-- Whether the value is a finite number. -/
def isFinite (x : Binary64) : Bool := x.code < infinityCode

/-- Whether the value is no number. -/
def isNaN (x : Binary64) : Bool := infinityCode < x.code

/-- Whether the value is zero, of either sign. -/
def isZero (x : Binary64) : Bool := x.code == 0

/-- The other sign. -/
def negate (x : Binary64) : Binary64 := { x with negative := !x.negative }

/-- The integer factor of the magnitude. -/
def mantissa (x : Binary64) : Nat :=
  if x.code < fractions then x.code else fractions + x.code % fractions

/-- The power of two that the integer factor is multiplied by. -/
def exponent (x : Binary64) : Int :=
  if x.code < fractions then -1074 else (x.code / fractions : Nat) - 1075

/-- A quotient rounded to the nearest integer, to the even one on a tie. -/
def roundDiv (num den : Nat) : Nat :=
  let quotient := num / den
  let remainder := num % den
  if 2 * remainder < den then quotient
  else if 2 * remainder > den then quotient + 1
  else if quotient % 2 = 0 then quotient
  else quotient + 1

/-- A natural number shifted left by an exponent that counts only when positive. -/
def shiftUp (n : Nat) (exponent : Int) : Nat :=
  n * Nat.pow 2 exponent.toNat

/-- The number nearest to a quotient of natural numbers; a zero divisor gives infinity. -/
def ofRatio (negative : Bool) (num den : Nat) : Binary64 :=
  if num = 0 then zero negative
  else if den = 0 then infinity negative
  else
    let guess : Int := (num.log2 : Int) - den.log2 - 52
    let scaled := shiftUp num (-guess) / shiftUp den guess
    let exponent := max (if scaled < fractions then guess - 1 else guess) (-1074)
    let rounded := roundDiv (shiftUp num (-exponent)) (shiftUp den exponent)
    ⟨negative, min (rounded + (exponent + 1074).toNat * fractions) infinityCode⟩

/-- The number nearest to a natural number. -/
def ofNat (n : Nat) : Binary64 := ofRatio false n 1

/-- The number nearest to an integer. -/
def ofInt (n : Int) : Binary64 := ofRatio (n < 0) n.natAbs 1

/-- The number nearest to digits times a power of ten. A magnitude beyond every finite number, or
below every positive one, is decided without computing the power. -/
def ofDecimal (negative : Bool) (digits : Nat) (exponent : Int) : Binary64 :=
  if digits = 0 then zero negative
  else if exponent > 400 then infinity negative
  else if (Nat.toDigits 10 digits).length + exponent < -400 then zero negative
  else ofRatio negative (digits * Nat.pow 10 exponent.toNat) (Nat.pow 10 (-exponent).toNat)

/-- The rounded product of finite numbers. -/
def mul (x y : Binary64) : Binary64 :=
  let exponent := x.exponent + y.exponent
  ofRatio (x.negative != y.negative) (shiftUp (x.mantissa * y.mantissa) exponent)
    (shiftUp 1 (-exponent))

/-- The rounded quotient of finite numbers. -/
def div (x y : Binary64) : Binary64 :=
  let exponent := x.exponent - y.exponent
  ofRatio (x.negative != y.negative) (shiftUp x.mantissa exponent)
    (shiftUp y.mantissa (-exponent))

@[simp] theorem isFinite_zero (negative : Bool) : (zero negative).isFinite = true := by
  cases negative <;> decide

@[simp] theorem negate_negate (x : Binary64) : x.negate.negate = x := by
  cases x
  simp [negate]

/-- Rounding a quotient stays within half a unit. -/
theorem roundDiv_near (num den : Nat) (positive : 0 < den) :
    2 * (roundDiv num den * den) ≤ 2 * num + den ∧
      2 * num ≤ 2 * (roundDiv num den * den) + den := by
  have split : den * (num / den) + num % den = num := Nat.div_add_mod num den
  have small : num % den < den := Nat.mod_lt num positive
  unfold roundDiv
  simp only
  have expand : (num / den + 1) * den = den * (num / den) + den := by
    rw [Nat.add_mul, Nat.one_mul, Nat.mul_comm]
  have flip : num / den * den = den * (num / den) := Nat.mul_comm _ _
  repeat' split
  all_goals simp only [expand, flip]
  all_goals omega

end Binary64
end ThreatIntel
