import Mathlib.Data.List.TakeWhile
import ThreatIntel.Text.Blank
import ThreatIntel.Text.Lowercase

/-!
# Marks of ASCII

Letters and digits are marks of ASCII. A mark of ASCII that is no blank and has no case is still
there when a text has been trimmed and put into lower case.
-/

namespace ThreatIntel
namespace Text

/-- A table of the characters below a bound decides what holds of each of them. -/
theorem holds_of_table
    {holds : Char → Prop}
    {c : Char}
    {bound : Nat}
    (below : c.toNat < bound)
    (table : ∀ n < bound, holds (Char.ofNat n)) :
    holds c := by
  have fact := table c.toNat below
  rwa [Char.ofNat_toNat] at fact

/-- Letters and digits are marks of ASCII. -/
theorem toNat_lt_of_isAlphanum
    {c : Char}
    (spelled : c.isAlphanum = true) :
    c.toNat < 128 := by
  delta Char.isAlphanum Char.isAlpha Char.isUpper Char.isLower Char.isDigit at spelled
  simp only [Bool.or_eq_true, Bool.and_eq_true, decide_eq_true_eq, UInt32.le_iff_toNat_le,
    ge_iff_le] at spelled
  rcases spelled with (⟨-, upper⟩ | ⟨-, lower⟩) | ⟨-, digit⟩
  · exact Nat.lt_of_le_of_lt upper (by decide)
  · exact Nat.lt_of_le_of_lt lower (by decide)
  · exact Nat.lt_of_le_of_lt digit (by decide)

/-- The letters lie in two rows. -/
theorem isAlpha_eq_false_iff {c : Char} :
    c.isAlpha = false ↔
      ¬(65 ≤ c.toNat ∧ c.toNat ≤ 90) ∧ ¬(97 ≤ c.toNat ∧ c.toNat ≤ 122) := by
  delta Char.isAlpha Char.isUpper Char.isLower
  simp only [Bool.or_eq_false_iff, Bool.and_eq_false_iff, decide_eq_false_iff_not, ge_iff_le,
    UInt32.le_iff_toNat_le]
  change ¬(65 ≤ c.toNat ∧ c.toNat ≤ 90) ∧ (¬97 ≤ c.toNat ∨ ¬c.toNat ≤ 122) ↔ _
  omega

/-- No character is both a digit and a letter. -/
theorem isAlpha_of_isDigit {c : Char} (digit : c.isDigit = true) : c.isAlpha = false := by
  have range : 48 ≤ c.toNat ∧ c.toNat ≤ 57 := Char.isDigit_iff_toNat.mp digit
  rw [isAlpha_eq_false_iff]
  omega

/-- Only letters have a lower case of their own. -/
theorem toLower_of_not_isAlpha {c : Char} (other : c.isAlpha = false) : c.toLower = c := by
  have notUpper : ¬c.isUpper = true := by
    delta Char.isAlpha at other
    simp [(Bool.or_eq_false_iff.mp other).1]
  delta Char.isUpper at notUpper
  simp only [decide_eq_true_eq] at notUpper
  exact dif_neg notUpper

/-- In lower case, letters and digits are letters and digits, and nothing else is. -/
theorem isAlphanum_toLower (c : Char) : c.toLower.isAlphanum = c.isAlphanum := by
  cases letter : c.isAlpha with
  | true =>
      have ascii : c.toNat < 128 := toNat_lt_of_isAlphanum (by simp [Char.isAlphanum, letter])
      apply holds_of_table ascii
      decide +kernel
  | false => rw [toLower_of_not_isAlpha letter]

/-- Trimming loses blanks alone. -/
theorem mem_trim
    {c : Char}
    {cs : List Char}
    (visible : isBlank c = false)
    (member : c ∈ cs) :
    c ∈ trim cs := by
  have keeps : ∀ {ds : List Char}, c ∈ ds → c ∈ ds.dropWhile isBlank := by
    intro ds inside
    rw [← List.takeWhile_append_dropWhile (p := isBlank) (l := ds)] at inside
    rcases List.mem_append.mp inside with front | back
    · have blank : isBlank c = true := List.mem_takeWhile_imp front
      rw [visible] at blank
      cases blank
    · exact back
  have front : c ∈ trimStart cs := keeps member
  exact List.mem_reverse.mpr (keeps (List.mem_reverse.mpr front))

/-- A mark of ASCII without case stays in lower case. -/
theorem mem_lowerAfter
    {c : Char}
    {cs : List Char}
    (ascii : c.toNat < 0x80)
    (caseless : c.toLower = c)
    (member : c ∈ cs)
    (before : List Char) :
    c ∈ lowerAfter before cs := by
  induction cs generalizing before with
  | nil => cases member
  | cons d rest inductionHypothesis =>
      rw [lowerAfter]
      rcases List.mem_cons.mp member with rfl | behind
      · have other : (c.toNat == 0x3A3) = false := by
          rw [beq_eq_false_iff_ne]
          omega
        simp [other, lowerChar_of_ascii ascii, caseless]
      · exact List.mem_append_right _ (inductionHypothesis behind (d :: before))

end Text
end ThreatIntel
