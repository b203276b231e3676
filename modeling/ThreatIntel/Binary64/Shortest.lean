import ThreatIntel.Binary64.Basic

/-!
# Shortest decimals

The fewest decimal digits that read back as a given binary number, and of those the digits nearest
to it. A number with `n` digits lies on the grid of multiples of a power of ten; on each grid only
the two neighbours of the number can be nearest, so the first grid on which one of them reads back
gives the answer.
-/

namespace ThreatIntel
namespace Binary64

/-- A magnitude in decimal: digits times a power of ten. -/
structure Decimal where
  /-- The digits read as a number. -/
  digits : Nat
  /-- The power of ten of the last digit. -/
  exponent : Int
  deriving DecidableEq, Repr

/-- A positive magnitude with the ends of the interval that rounds to it, all over one divisor. -/
structure Interval where
  /-- Numerator of the lower end. -/
  low : Nat
  /-- Numerator of the magnitude itself. -/
  value : Nat
  /-- Numerator of the upper end. -/
  high : Nat
  /-- The common divisor. -/
  divisor : Nat
  /-- Whether the ends belong to the interval. -/
  closed : Bool

/-- The interval of the reals that round to a finite positive number. Below a power of two the
neighbours are half as far apart. -/
def interval (x : Binary64) : Interval :=
  let m := x.mantissa
  let below := if m = fractions ∧ x.code ≥ 2 * fractions then 1 else 2
  let exponent := x.exponent - 2
  let up := Nat.pow 2 exponent.toNat
  ⟨(4 * m - below) * up, 4 * m * up, (4 * m + 2) * up, Nat.pow 2 (-exponent).toNat, m % 2 = 0⟩

/-- Whether `digits` times the grid's unit lies in the interval; the unit is `num / den`. -/
def Interval.holds (i : Interval) (digits num den : Nat) : Bool :=
  let point := digits * num * i.divisor
  if i.closed then i.low * den ≤ point && point ≤ i.high * den
  else i.low * den < point && point < i.high * den

/-- The nearer of the neighbours on a grid that reads back, the even one on a tie. -/
def Interval.onGrid (i : Interval) (exponent : Int) : Option Decimal :=
  let num := Nat.pow 10 exponent.toNat
  let den := Nat.pow 10 (-exponent).toNat
  let lower := i.value * den / (num * i.divisor)
  let lowerFits := 0 < lower && i.holds lower num den
  let upperFits := i.holds (lower + 1) num den
  let rest := i.value * den - lower * (num * i.divisor)
  let unit := num * i.divisor
  match lowerFits, upperFits with
  | false, false => none
  | true, false => some ⟨lower, exponent⟩
  | false, true => some ⟨lower + 1, exponent⟩
  | true, true =>
      if 2 * rest < unit then some ⟨lower, exponent⟩
      else if 2 * rest > unit then some ⟨lower + 1, exponent⟩
      else if lower % 2 = 0 then some ⟨lower, exponent⟩
      else some ⟨lower + 1, exponent⟩

/-- Try grids of ever smaller units, `fuel` of them. -/
def Interval.search (i : Interval) (exponent : Int) : Nat → Decimal
  | 0 => ⟨i.value, 0⟩
  | fuel + 1 => (i.onGrid exponent).getD (i.search (exponent - 1) fuel)

/-- A decimal without trailing zeros among its digits, `fuel` of them at most. -/
def Decimal.dropZeros (d : Decimal) : Nat → Decimal
  | 0 => d
  | fuel + 1 =>
      if d.digits % 10 = 0 ∧ d.digits ≠ 0 then
        Decimal.dropZeros ⟨d.digits / 10, d.exponent + 1⟩ fuel
      else d

/-- The exponent of the grid whose unit is the largest power of ten not above the magnitude, or one
more. -/
def leadingExponent (x : Binary64) : Int :=
  let bits : Int := x.mantissa.log2 + x.exponent
  (bits * 30103).fdiv 100000 + 1

/-- The shortest decimal of a finite number. -/
def shortest (x : Binary64) : Decimal :=
  if x.isZero then ⟨0, 0⟩
  else (x.interval.search x.leadingExponent 20).dropZeros 20

end Binary64
end ThreatIntel
