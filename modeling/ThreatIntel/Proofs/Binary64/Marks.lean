import ThreatIntel.Binary64.Text
import ThreatIntel.Proofs.Text.Marks

/-!
# Marks that stand in no number

A number is written with digits, a point, signs and the letters of an exponent or of a name. A text
with any other mark reads as no number.
-/

namespace ThreatIntel

/-- A mark that stands in no number: no letter, digit, sign or point. -/
structure IsNoNumeral (c : Char) : Prop where
  notAlphanumeric : c.isAlphanum = false
  notSign : c ≠ '-' ∧ c ≠ '+'
  notPoint : c ≠ '.'

variable
  {c : Char}
  {cs : List Char}

namespace IsNoNumeral

theorem notDigit (other : IsNoNumeral c) : c.isDigit = false :=
  (Bool.or_eq_false_iff.mp other.notAlphanumeric).2

/-- The mark is not among letters and digits. -/
theorem notMem
    (other : IsNoNumeral c)
    {word : List Char}
    (spelled : word.all Char.isAlphanum = true) :
    c ∉ word := by
  intro member
  have alphanumeric := List.all_eq_true.mp spelled c member
  rw [other.notAlphanumeric] at alphanumeric
  cases alphanumeric

/-- The mark has no case. -/
theorem toLower_eq (other : IsNoNumeral c) : c.toLower = c :=
  Text.toLower_of_not_isAlpha (Bool.or_eq_false_iff.mp other.notAlphanumeric).1

end IsNoNumeral

namespace Text

theorem readNat?_of_mem
    (other : IsNoNumeral c)
    (member : c ∈ cs) :
    readNat? cs = none := by
  have mixed : cs.all Char.isDigit = false :=
    List.all_eq_false.mpr ⟨c, member, by simp [other.notDigit]⟩
  simp [readNat?, mixed]

/-- A text with such a mark is no integer. -/
theorem readInt?_of_mem
    (other : IsNoNumeral c)
    (member : c ∈ cs) :
    readInt? cs = none := by
  unfold readInt?
  split
  · have inside := (List.mem_cons.mp member).resolve_left other.notSign.1
    rw [readNat?_of_mem other inside]
    rfl
  · have inside := (List.mem_cons.mp member).resolve_left other.notSign.2
    rw [readNat?_of_mem other inside]
    rfl
  · rw [readNat?_of_mem other member]
    rfl

theorem readInt64?_of_mem
    (other : IsNoNumeral c)
    (member : c ∈ cs) :
    readInt64? cs = none := by
  rw [readInt64?, readInt?_of_mem other member]
  rfl

end Text

namespace Binary64

theorem mem_drop_digits
    (other : IsNoNumeral c)
    (member : c ∈ cs) :
    c ∈ cs.drop (cs.takeWhile Char.isDigit).length := by
  have split := List.takeWhile_append_dropWhile (p := Char.isDigit) (l := cs)
  have left : cs.drop (cs.takeWhile Char.isDigit).length = cs.dropWhile Char.isDigit :=
    (congrArg (List.drop _) split.symm).trans List.drop_left
  rw [left]
  rw [← split] at member
  refine (List.mem_append.mp member).resolve_left fun front => ?_
  have digit : c.isDigit = true := List.mem_takeWhile_imp front
  rw [other.notDigit] at digit
  cases digit

/-- Such a mark is left over behind the digits and the point. -/
theorem mem_rest_of_readMantissa
    {rest : List Char}
    {digits : List Char × List Char}
    (other : IsNoNumeral c)
    (member : c ∈ cs)
    (reads : readMantissa cs = some (digits, rest)) :
    c ∈ rest := by
  have behind := mem_drop_digits other member
  simp only [readMantissa] at reads
  split at reads
  · next fraction point =>
      rw [point] at behind
      have inside := (List.mem_cons.mp behind).resolve_left other.notPoint
      split at reads
      · cases reads
      · cases reads
        exact mem_drop_digits other inside
  · split at reads
    · cases reads
    · cases reads
      exact behind

theorem readExponent?_of_mem
    (other : IsNoNumeral c)
    (member : c ∈ cs) :
    readExponent? cs = none := by
  cases cs with
  | nil => cases member
  | cons d rest =>
      rw [readExponent?]
      split
      · next exponent =>
          have absent : c ∉ ['e', 'E'] := other.notMem (by decide)
          have inside : c ∈ rest := by
            refine (List.mem_cons.mp member).resolve_left ?_
            rintro rfl
            exact absent (by simpa using exponent)
          exact Text.readInt?_of_mem other inside
      · rfl

theorem readMagnitude?_of_mem
    (other : IsNoNumeral c)
    (member : c ∈ cs)
    (negative : Bool) :
    readMagnitude? negative cs = none := by
  have unnamed (word : String) (spelled : word.toList.all Char.isAlphanum = true) :
      String.ofList (cs.map Char.toLower) ≠ word := by
    rintro rfl
    refine other.notMem spelled ?_
    rw [String.toList_ofList]
    exact List.mem_map.mpr ⟨c, member, other.toLower_eq⟩
  have named : ¬(String.ofList (cs.map Char.toLower) = "inf" ∨
      String.ofList (cs.map Char.toLower) = "infinity") :=
    not_or.mpr ⟨unnamed _ (by decide), unnamed _ (by decide)⟩
  simp only [readMagnitude?, if_neg named, if_neg (unnamed "nan" (by decide))]
  cases reads : readMantissa cs with
  | none => rfl
  | some mantissa =>
      have rest := readExponent?_of_mem other (mem_rest_of_readMantissa other member reads)
      simp [rest]

/-- A text with a mark that stands in no number reads as none. -/
theorem ofChars?_of_mem
    (other : IsNoNumeral c)
    (member : c ∈ cs) :
    ofChars? cs = none := by
  unfold ofChars?
  split
  · exact readMagnitude?_of_mem other ((List.mem_cons.mp member).resolve_left other.notSign.1) _
  · exact readMagnitude?_of_mem other ((List.mem_cons.mp member).resolve_left other.notSign.2) _
  · exact readMagnitude?_of_mem other member _

end Binary64
end ThreatIntel
