/-!
# Cutting a text

A text is cut in two at the first occurrence of a character, which is dropped.
-/

namespace ThreatIntel
namespace Text

/-- What stands before and behind the first occurrence of a character; without one nothing stands
behind. -/
def cutAt (separator : Char) : List Char → List Char × Option (List Char)
  | [] => ([], none)
  | c :: rest =>
      if c = separator then ([], some rest)
      else
        let (front, back) := cutAt separator rest
        (c :: front, back)

@[simp] theorem cutAt_nil (separator : Char) : cutAt separator [] = ([], none) := rfl

@[simp] theorem cutAt_cons_self (separator : Char) (rest : List Char) :
    cutAt separator (separator :: rest) = ([], some rest) := by
  simp [cutAt]

theorem cutAt_cons_of_ne
    {c separator : Char}
    (other : c ≠ separator)
    (rest : List Char) :
    cutAt separator (c :: rest) = (c :: (cutAt separator rest).1, (cutAt separator rest).2) := by
  simp [cutAt, other]

/-- A text without the character is not cut. -/
theorem cutAt_of_notMem
    {separator : Char}
    {cs : List Char}
    (absent : separator ∉ cs) :
    cutAt separator cs = (cs, none) := by
  induction cs with
  | nil => rfl
  | cons c rest inductionHypothesis =>
      simp only [List.mem_cons, not_or] at absent
      rw [cutAt_cons_of_ne (Ne.symm absent.1), inductionHypothesis absent.2]

/-- A text is cut behind a front that lacks the character. -/
theorem cutAt_append
    {separator : Char}
    {front : List Char}
    (absent : separator ∉ front)
    (back : List Char) :
    cutAt separator (front ++ separator :: back) = (front, some back) := by
  induction front with
  | nil => simp
  | cons c rest inductionHypothesis =>
      simp only [List.mem_cons, not_or] at absent
      rw [List.cons_append, cutAt_cons_of_ne (Ne.symm absent.1), inductionHypothesis absent.2]

end Text
end ThreatIntel
