import ThreatIntel.Binary64.Basic

/-!
# Whole numbers in binary

A whole number of 64 bits is rounded to a finite binary number: its exponent is far from the
greatest one, and its integer factor has two bits more than the fraction field at most.
-/

namespace ThreatIntel
namespace Binary64

theorem roundDiv_le (num den : Nat) : roundDiv num den ≤ num / den + 1 := by
  unfold roundDiv
  simp only
  repeat' split
  all_goals omega

/-- Shifted by its length and back to 54 bits, a number has 54 bits at most. -/
theorem shiftUp_div_lt
    {num : Nat}
    {exponent : Int}
    (least : (num.log2 : Int) - 53 ≤ exponent) :
    shiftUp num (-exponent) / shiftUp 1 exponent < Nat.pow 2 54 := by
  have short : num < Nat.pow 2 (num.log2 + 1) := Nat.lt_log2_self
  have positive : 0 < Nat.pow 2 (-exponent).toNat := Nat.two_pow_pos _
  have lengths : num.log2 + 1 + (-exponent).toNat ≤ exponent.toNat + 54 := by omega
  rw [shiftUp, shiftUp, Nat.one_mul]
  refine Nat.div_lt_of_lt_mul ?_
  calc num * Nat.pow 2 (-exponent).toNat
      < Nat.pow 2 (num.log2 + 1) * Nat.pow 2 (-exponent).toNat :=
        Nat.mul_lt_mul_of_pos_right short positive
    _ = Nat.pow 2 (num.log2 + 1 + (-exponent).toNat) := (Nat.pow_add _ _ _).symm
    _ ≤ Nat.pow 2 (exponent.toNat + 54) := Nat.pow_le_pow_right (by decide) lengths
    _ = Nat.pow 2 exponent.toNat * Nat.pow 2 54 := Nat.pow_add _ _ _

/-- A quotient by one is finite if its integer has 64 bits at most. -/
theorem isFinite_ofRatio_one
    (negative : Bool)
    {num : Nat}
    (fits : num < Nat.pow 2 64) :
    (ofRatio negative num 1).isFinite = true := by
  unfold ofRatio
  split
  · exact isFinite_zero negative
  · next nonzero =>
      rw [if_neg Nat.one_ne_zero]
      have length : num.log2 < 64 := (Nat.log2_lt nonzero).mpr fits
      have unit : Nat.log2 1 = 0 := by decide
      simp only [unit]
      generalize guessed : (num.log2 : Int) - (0 : Nat) - 52 = guess
      generalize chosen : max (if shiftUp num (-guess) / shiftUp 1 guess < fractions then guess - 1
        else guess) (-1074) = exponent
      have least : (num.log2 : Int) - 53 ≤ exponent := by
        split at chosen <;> omega
      have greatest : exponent ≤ 11 := by
        split at chosen <;> omega
      have rounded : roundDiv (shiftUp num (-exponent)) (shiftUp 1 exponent) ≤ 18014398509481984 :=
        Nat.le_trans (roundDiv_le _ _) (shiftUp_div_lt least)
      have scaled : (exponent + 1074).toNat ≤ 1085 := by omega
      simp only [isFinite, decide_eq_true_eq]
      unfold fractions infinityCode fractions
      omega

/-- A whole number of 64 bits is rounded to a finite number. -/
theorem isFinite_ofInt
    {n : Int}
    (fits : n.natAbs < Nat.pow 2 64) :
    (ofInt n).isFinite = true :=
  isFinite_ofRatio_one _ fits

end Binary64
end ThreatIntel
