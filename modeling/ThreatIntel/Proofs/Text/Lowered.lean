import Mathlib.Data.List.Basic
import ThreatIntel.Proofs.Text.Marks

/-!
# Texts in lower case, piece by piece

A capital sigma is the one letter whose lower case depends on its place in a word. A text without
one is put into lower case character by character, so that its pieces can be taken apart: blanks and
digits stay, and a word whose lower case is of ASCII holds no such letter.
-/

namespace ThreatIntel
namespace Text

/-- There is no capital sigma in the text. -/
def IsPlaceless (cs : List Char) : Prop :=
  ∀ c ∈ cs, c.toNat ≠ 0x3A3

/-- Where no letter depends on its place, a text is put into lower case character by character. -/
theorem lowerAfter_of_isPlaceless
    {cs : List Char}
    (placeless : IsPlaceless cs)
    (before : List Char) :
    lowerAfter before cs = cs.flatMap lowerChar := by
  induction cs generalizing before with
  | nil => rfl
  | cons c rest inductionHypothesis =>
      obtain ⟨here, behind⟩ := List.forall_mem_cons.mp placeless
      have other : (c.toNat == 0x3A3) = false := beq_eq_false_iff_ne.mpr here
      rw [lowerAfter, inductionHypothesis behind, List.flatMap_cons]
      simp only [other, Bool.false_eq_true, if_false]

theorem lower_append
    {front back : List Char}
    (placelessFront : IsPlaceless front)
    (placelessBack : IsPlaceless back) :
    lower (front ++ back) = lower front ++ lower back := by
  have placeless : IsPlaceless (front ++ back) := List.forall_mem_append.mpr
    ⟨placelessFront, placelessBack⟩
  simp only [lower, lowerAfter_of_isPlaceless placeless, lowerAfter_of_isPlaceless placelessFront,
    lowerAfter_of_isPlaceless placelessBack, List.flatMap_append]

/-- A text is its own lower case where each of its characters is. -/
theorem lower_eq_self
    {cs : List Char}
    (placeless : IsPlaceless cs)
    (caseless : ∀ c ∈ cs, lowerChar c = [c]) :
    lower cs = cs := by
  rw [lower, lowerAfter_of_isPlaceless placeless, List.flatMap_congr caseless,
    List.flatMap_singleton']

/-- What a text of ASCII at the front becomes stands at the front of the lower case. -/
theorem map_toLower_take_prefix_lower
    {cs : List Char}
    (placeless : IsPlaceless cs)
    {k : Nat}
    (ascii : ∀ c ∈ (cs.take k).map Char.toLower, c.toNat < 0x80) :
    (cs.take k).map Char.toLower <+: lower cs := by
  have single : ∀ c ∈ cs.take k, lowerChar c = [c.toLower] := by
    intro c member
    refine lowerChar_of_ascii ?_
    cases letter : c.isAlpha with
    | true => exact toNat_lt_of_isAlphanum (by simp [Char.isAlphanum, letter])
    | false =>
        have small := ascii c.toLower (List.mem_map_of_mem member)
        rwa [toLower_of_not_isAlpha letter] at small
  have front : (cs.take k).flatMap lowerChar = (cs.take k).map Char.toLower := by
    rw [List.flatMap_congr single, List.map_eq_flatMap]
  refine ⟨(cs.drop k).flatMap lowerChar, ?_⟩
  rw [lower, lowerAfter_of_isPlaceless placeless, ← front, ← List.flatMap_append,
    List.take_append_drop]

/-! ## Blanks and digits -/

/-- No character is both a blank and a letter of ASCII. -/
theorem isAlpha_of_isBlank {c : Char} (blank : isBlank c = true) : c.isAlpha = false := by
  simp only [isBlank, Bool.or_eq_true, Bool.and_eq_true, decide_eq_true_eq, beq_iff_eq] at blank
  rw [isAlpha_eq_false_iff]
  omega

/-- No blank is a letter with another lower case. -/
theorem lowerChar_of_isBlank
    {c : Char}
    (blank : isBlank c = true) :
    lowerChar c = [c] := by
  have beyond : ∀ n ∈ [0x85, 0xA0, 0x1680, 0x2000, 0x2001, 0x2002, 0x2003, 0x2004, 0x2005, 0x2006,
      0x2007, 0x2008, 0x2009, 0x200A, 0x2028, 0x2029, 0x202F, 0x205F, 0x3000],
      caseRuns.find? (·.contains n) = none := by
    decide +kernel
  by_cases ascii : c.toNat < 0x80
  · rw [lowerChar_of_ascii ascii, toLower_of_not_isAlpha (isAlpha_of_isBlank blank)]
  · simp only [isBlank, Bool.or_eq_true, Bool.and_eq_true, decide_eq_true_eq, beq_iff_eq] at blank
    have unchanged : caseRuns.find? (·.contains c.toNat) = none := by
      refine beyond c.toNat ?_
      simp only [List.mem_cons, List.not_mem_nil, or_false]
      omega
    have noDot : (c.toNat == 0x130) = false := by
      rw [beq_eq_false_iff_ne]
      omega
    simp [lowerChar, ascii, noDot, unchanged]

/-- Blanks have no case. -/
theorem lower_of_blanks
    {gap : List Char}
    (blanks : ∀ c ∈ gap, isBlank c = true) :
    IsPlaceless gap ∧ lower gap = gap := by
  have placeless : IsPlaceless gap := by
    intro c member sigma
    have blank := blanks c member
    simp [isBlank, sigma] at blank
  exact ⟨placeless, lower_eq_self placeless fun c member => lowerChar_of_isBlank (blanks c member)⟩

/-- Digits have no case. -/
theorem lower_of_digits
    {digits : List Char}
    (allDigits : ∀ c ∈ digits, c.isDigit = true) :
    IsPlaceless digits ∧ lower digits = digits := by
  have ascii : ∀ c ∈ digits, c.toNat < 0x80 :=
    fun c member => toNat_lt_of_isAlphanum (by simp [Char.isAlphanum, allDigits c member])
  have placeless : IsPlaceless digits := by
    intro c member sigma
    have small := ascii c member
    omega
  refine ⟨placeless, lower_eq_self placeless fun c member => ?_⟩
  rw [lowerChar_of_ascii (ascii c member),
    toLower_of_not_isAlpha (isAlpha_of_isDigit (allDigits c member))]

/-! ## Words -/

/-- The word has the given lower case, which is of visible ASCII. -/
structure HasLower (word low : List Char) : Prop where
  lower_eq : lower word = low
  filled : low ≠ []
  ascii : ∀ c ∈ low, c.toNat < 0x80
  visible : ∀ c ∈ low, isBlank c = false

/-- Whether a lower case is of visible ASCII is seen from its marks. -/
theorem HasLower.of_checked
    {word low : List Char}
    (lower_eq : lower word = low)
    (filled : low ≠ [])
    (plain : low.all (fun c => c.toNat < 0x80 && !isBlank c) = true) :
    HasLower word low := by
  simp only [List.all_eq_true, Bool.and_eq_true, decide_eq_true_eq, Bool.not_eq_true'] at plain
  exact ⟨lower_eq, filled, fun c member => (plain c member).1, fun c member => (plain c member).2⟩

/-- A capital sigma is still no mark of ASCII in lower case. -/
theorem exists_beyond_ascii
    {cs : List Char}
    {c : Char}
    (member : c ∈ cs)
    (sigma : c.toNat = 0x3A3)
    (before : List Char) :
    ∃ d ∈ lowerAfter before cs, 0x80 ≤ d.toNat := by
  induction cs generalizing before with
  | nil => cases member
  | cons first rest inductionHypothesis =>
      rw [lowerAfter]
      rcases List.mem_cons.mp member with rfl | behind
      · have same : (c.toNat == 0x3A3) = true := beq_iff_eq.mpr sigma
        rw [if_pos same]
        split
        · exact ⟨Char.ofNat 0x3C2, by simp, by decide⟩
        · exact ⟨Char.ofNat 0x3C3, by simp, by decide⟩
      · obtain ⟨d, inside, beyond⟩ := inductionHypothesis behind (first :: before)
        exact ⟨d, List.mem_append_right _ inside, beyond⟩

namespace HasLower

variable
  {word low : List Char}
  (has : HasLower word low)

include has

theorem isPlaceless : IsPlaceless word := by
  intro c member sigma
  obtain ⟨d, inside, beyond⟩ := exists_beyond_ascii member sigma []
  have small : d.toNat < 0x80 := has.ascii d (has.lower_eq ▸ inside)
  omega

theorem word_ne_nil : word ≠ [] := by
  rintro rfl
  exact has.filled has.lower_eq.symm

/-- A character without case is in the lower case, too. -/
theorem mem_of_caseless
    {c : Char}
    (member : c ∈ word)
    (caseless : lowerChar c = [c]) :
    c ∈ low := by
  rw [← has.lower_eq, lower, lowerAfter_of_isPlaceless has.isPlaceless]
  exact List.mem_flatMap.mpr ⟨c, member, by simp [caseless]⟩

/-- There is no blank in the word. -/
theorem word_visible : ∀ c ∈ word, isBlank c = false := by
  intro c member
  refine Bool.eq_false_iff.mpr fun blank => ?_
  have inside := has.mem_of_caseless member (lowerChar_of_isBlank blank)
  rw [has.visible c inside] at blank
  cases blank

/-- A text that begins with the word begins with no blank. -/
theorem begins_visible (rest : List Char) : ∀ c ∈ (word ++ rest).head?, isBlank c = false := by
  obtain ⟨d, others, shape⟩ := List.exists_cons_of_ne_nil has.word_ne_nil
  intro c head
  have same : d = c := by simpa [shape] using head
  exact has.word_visible c (by simp [shape, same])

end HasLower

end Text
end ThreatIntel
