import ThreatIntel.Text.Decimal
import ThreatIntel.Time.Scan

/-!
# Numbers in dates

A number that was written in a certain width is read back from the front of a text, if the reader
takes as many digits and the text behind the number does not go on with a digit that the reader
would still take.
-/

namespace ThreatIntel

namespace Text

/-- A text that no number runs on into. -/
def EndsNumber (rest : List Char) : Prop :=
  ∀ c ∈ rest.head?, c.isDigit = false

@[simp] theorem endsNumber_nil : EndsNumber [] := by
  simp [EndsNumber]

@[simp] theorem endsNumber_cons (c : Char) (rest : List Char) :
    EndsNumber (c :: rest) ↔ c.isDigit = false := by
  simp [EndsNumber]

theorem length_natDigits_le
    {width n : Nat}
    (positive : 0 < width)
    (fits : n < Nat.pow 10 width) :
    (natDigits n).length ≤ width := by
  rw [natDigits, Nat.length_toDigits_le_iff (by decide) positive]
  exact fits

theorem isDigit_of_mem_padDigits
    {width n : Nat}
    {c : Char}
    (member : c ∈ padDigits width n) :
    c.isDigit = true := by
  rcases List.mem_append.mp member with zero | digit
  · rw [List.eq_of_mem_replicate zero]
    decide
  · exact isDigit_of_mem_natDigits digit

theorem length_padDigits (width n : Nat) :
    (padDigits width n).length = max width (natDigits n).length := by
  simp only [padDigits, List.length_append, List.length_replicate]
  omega

/-- A number that fits its width is written in it. -/
theorem length_padDigits_of_le
    {width n : Nat}
    (fits : (natDigits n).length ≤ width) :
    (padDigits width n).length = width := by
  rw [length_padDigits, Nat.max_eq_left fits]

/-- Zeros at the front do not count. -/
@[simp] theorem ofDigitChars_padDigits (width n : Nat) :
    Nat.ofDigitChars 10 (padDigits width n) 0 = n := by
  simp only [padDigits, Nat.ofDigitChars_append, Nat.ofDigitChars_replicate_zero, Nat.mul_zero]
  exact Nat.ofDigitChars_toDigits (by decide) (by decide)

theorem padDigits_ne_nil (width n : Nat) : padDigits width n ≠ [] := by
  intro empty
  have both := List.append_eq_nil_iff.mp empty
  exact natDigits_ne_nil n both.2

/-- A written number begins with a digit. -/
theorem exists_padDigits_eq_cons (width n : Nat) :
    ∃ c digits, padDigits width n = c :: digits ∧ c.isDigit = true := by
  obtain ⟨c, digits, shape⟩ := List.exists_cons_of_ne_nil (padDigits_ne_nil width n)
  exact ⟨c, digits, shape, isDigit_of_mem_padDigits (shape ▸ List.mem_cons_self)⟩

/-- No character is both a digit and a blank. -/
theorem isBlank_eq_false_of_isDigit {c : Char} (digit : c.isDigit = true) :
    isBlank c = false := by
  have range : 48 ≤ c.toNat ∧ c.toNat ≤ 57 := Char.isDigit_iff_toNat.mp digit
  simp only [isBlank, Bool.or_eq_false_iff, Bool.and_eq_false_iff, decide_eq_false_iff_not,
    beq_eq_false_iff_ne]
  omega

theorem trimStart_cons_of_not_blank
    {c : Char}
    (visible : isBlank c = false)
    (rest : List Char) :
    trimStart (c :: rest) = c :: rest := by
  simp [trimStart, visible]

@[simp] theorem trimStart_padDigits (width n : Nat) (rest : List Char) :
    trimStart (padDigits width n ++ rest) = padDigits width n ++ rest := by
  obtain ⟨c, digits, shape, digit⟩ := exists_padDigits_eq_cons width n
  rw [shape, List.cons_append]
  exact trimStart_cons_of_not_blank (isBlank_eq_false_of_isDigit digit) _

end Text

namespace Time
namespace Scan

open Text

theorem takeWhile_isDigit_of_endsNumber
    {rest : List Char}
    (ends : EndsNumber rest) :
    rest.takeWhile Char.isDigit = [] := by
  cases rest with
  | nil => rfl
  | cons c rest =>
      have other : c.isDigit = false := by simpa using ends
      simp [other]

/-- The digits that the reader takes are those of the number. -/
theorem take_takeWhile_append
    {digits rest : List Char}
    {most : Nat}
    (allDigits : ∀ c ∈ digits, c.isDigit = true)
    (stops : digits.length = most ∨ digits.length ≤ most ∧ EndsNumber rest) :
    ((digits ++ rest).takeWhile Char.isDigit).take most = digits := by
  rw [List.takeWhile_append_of_pos allDigits]
  rcases stops with exact | ⟨atMost, ends⟩
  · rw [← exact, List.take_left]
  · rw [takeWhile_isDigit_of_endsNumber ends, List.append_nil, List.take_of_length_le atMost]

/-- A row of digits is read as the number it stands for. -/
theorem number_append
    {least most : Nat}
    {digits rest : List Char}
    (allDigits : ∀ c ∈ digits, c.isDigit = true)
    (enough : least ≤ digits.length)
    (stops : digits.length = most ∨ digits.length ≤ most ∧ EndsNumber rest) :
    number least most (digits ++ rest) = some (Nat.ofDigitChars 10 digits 0, rest) := by
  have notLess : ¬digits.length < least := Nat.not_lt.mpr enough
  simp only [number, take_takeWhile_append allDigits stops, notLess, if_false, List.drop_left]

/-- A number is read back in its width. -/
theorem number_padDigits
    {least width n : Nat}
    (fits : (natDigits n).length ≤ width)
    (enough : least ≤ width)
    (rest : List Char) :
    number least width (padDigits width n ++ rest) = some (n, rest) := by
  have length := length_padDigits_of_le fits
  rw [number_append (fun _ member => isDigit_of_mem_padDigits member) (by omega) (.inl length),
    ofDigitChars_padDigits]

/-- A number is read back whole where the text behind it ends it. -/
theorem digits_padDigits
    {least width n : Nat}
    (enough : least ≤ width)
    {rest : List Char}
    (ends : EndsNumber rest) :
    digits least (padDigits width n ++ rest) = some (n, rest) := by
  have length := length_padDigits width n
  have atMost : (padDigits width n).length ≤ (padDigits width n ++ rest).length := by
    rw [List.length_append]
    omega
  rw [digits, number_append (fun _ member => isDigit_of_mem_padDigits member) (by omega)
    (.inr ⟨atMost, ends⟩), ofDigitChars_padDigits]

/-- No number is read where there is no digit. -/
theorem number_of_endsNumber
    {least most : Nat}
    {cs : List Char}
    (ends : EndsNumber cs)
    (positive : 0 < least) :
    number least most cs = none := by
  simp [number, takeWhile_isDigit_of_endsNumber ends, positive]

@[simp] theorem char_cons_self (c : Char) (rest : List Char) :
    char c (c :: rest) = some ((), rest) := by
  simp [char]

end Scan
end Time
end ThreatIntel
