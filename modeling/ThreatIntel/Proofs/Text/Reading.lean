import ThreatIntel.Text.Decimal

/-!
# Reading a text from its front

Small readers that take something off the front of a text and return what follows it. Each comes
with its round trip: what was written in front of a text that cannot extend it is read back, and the
text behind it is left as it was.
-/

namespace ThreatIntel
namespace Text

/-- The text behind a front that it begins with. -/
theorem isPrefixOf?_append (front rest : List Char) :
    front.isPrefixOf? (front ++ rest) = some rest := by
  induction front with
  | nil => rfl
  | cons c front inductionHypothesis =>
      change (if (c == c) = true then front.isPrefixOf? (front ++ rest) else none) = some rest
      rw [if_pos (by simp), inductionHypothesis]

/-! ## Words -/

/-- The characters of a word: letters, digits and the minus sign. -/
def isWordChar (c : Char) : Bool :=
  c.isAlphanum || c == '-'

/-- A text that no word runs on into. -/
def EndsWord (rest : List Char) : Prop :=
  ∀ c ∈ rest.head?, isWordChar c = false

/-- Read the longest word at the front of a text. -/
def readWord (cs : List Char) : List Char × List Char :=
  (cs.takeWhile isWordChar, cs.dropWhile isWordChar)

@[simp] theorem endsWord_nil : EndsWord [] := by
  simp [EndsWord]

@[simp] theorem endsWord_cons (c : Char) (rest : List Char) :
    EndsWord (c :: rest) ↔ isWordChar c = false := by
  simp [EndsWord]

/-- A word is read whole where the text behind it ends it. -/
theorem readWord_append
    {word rest : List Char}
    (letters : ∀ c ∈ word, isWordChar c = true)
    (ends : EndsWord rest) :
    readWord (word ++ rest) = (word, rest) := by
  unfold readWord
  rw [List.takeWhile_append_of_pos letters, List.dropWhile_append_of_pos letters]
  cases rest with
  | nil => simp
  | cons c rest =>
      have other : isWordChar c = false := by simpa using ends
      simp [other]

/-! ## Integers -/

/-- A written integer is a word. -/
theorem isWordChar_of_mem_intDigits
    {n : Int}
    {c : Char}
    (member : c ∈ intDigits n) :
    isWordChar c = true := by
  cases n with
  | ofNat n =>
      have digit : c.isDigit = true := isDigit_of_mem_natDigits member
      simp [isWordChar, Char.isAlphanum, digit]
  | negSucc n =>
      rcases List.mem_cons.mp member with minus | digits
      · simp [isWordChar, minus]
      · have digit : c.isDigit = true := isDigit_of_mem_natDigits digits
        simp [isWordChar, Char.isAlphanum, digit]

theorem intDigits_ne_nil (n : Int) : intDigits n ≠ [] := by
  cases n with
  | ofNat n => exact natDigits_ne_nil n
  | negSucc n => exact List.cons_ne_nil _ _

/-- Every word of 64 bits fits one. -/
theorem fitsInt64_toInt (value : Int64) : fitsInt64 value.toInt = true := by
  have least : Int64.minValue.toInt ≤ value.toInt := Int64.minValue_le_toInt value
  have greatest : value.toInt ≤ Int64.maxValue.toInt := Int64.toInt_le value
  simp only [fitsInt64, Bool.and_eq_true, decide_eq_true_eq]
  exact ⟨least, greatest⟩

/-- A written word of 64 bits reads back as itself. -/
@[simp] theorem readInt64?_intDigits (value : Int64) :
    readInt64? (intDigits value.toInt) = some value := by
  simp [readInt64?, fitsInt64_toInt]

theorem readNat?_eq_some
    {cs : List Char}
    {n : Nat}
    (reads : readNat? cs = some n) :
    cs ≠ [] ∧ ∀ c ∈ cs, c.isDigit = true := by
  unfold readNat? at reads
  split at reads
  · next digits => simpa using digits
  · cases reads

/-- A text that is read as a negative number is a minus sign and digits. -/
theorem exists_of_readInt?_neg
    {cs : List Char}
    {n : Int}
    (reads : readInt? cs = some n)
    (negative : n < 0) :
    ∃ digits, cs = '-' :: digits ∧ digits ≠ [] ∧ ∀ c ∈ digits, c.isDigit = true := by
  have positive : ∀ number : Option Nat, (number.map fun n => (n : Int)) ≠ some n := by
    intro number same
    obtain ⟨_, bound, rfl⟩ := Option.map_eq_some_iff.mp same
    obtain ⟨m, -, whole⟩ := Option.bind_eq_some_iff.mp bound
    cases whole
    omega
  unfold readInt? at reads
  split at reads
  · next digits =>
      obtain ⟨_, bound, -⟩ := Option.map_eq_some_iff.mp reads
      obtain ⟨m, number, -⟩ := Option.bind_eq_some_iff.mp bound
      exact ⟨digits, rfl, readNat?_eq_some number⟩
  · exact absurd reads (positive _)
  · exact absurd reads (positive _)

/-- A text without digits is no number. -/
theorem readInt64?_of_plain
    {cs : List Char}
    (plain : ∀ c ∈ cs, c.isDigit = false) :
    readInt64? cs = none := by
  have noNat : ∀ {ds : List Char}, (∀ c ∈ ds, c.isDigit = false) → readNat? ds = none := by
    intro ds plain
    refine Option.eq_none_iff_forall_not_mem.mpr fun n number => ?_
    obtain ⟨nonempty, digits⟩ := readNat?_eq_some number
    obtain ⟨c, rest, rfl⟩ := List.exists_cons_of_ne_nil nonempty
    exact Bool.eq_false_iff.mp (plain c List.mem_cons_self) (digits c List.mem_cons_self)
  have noInt : readInt? cs = none := by
    unfold readInt?
    split
    · rw [noNat (List.forall_mem_cons.mp plain).2]
      rfl
    · rw [noNat (List.forall_mem_cons.mp plain).2]
      rfl
    · rw [noNat plain]
      rfl
  rw [readInt64?, noInt, Option.bind_none]

theorem toInt_of_readInt64?
    {cs : List Char}
    {n : Int64}
    (reads : readInt64? cs = some n) :
    readInt? cs = some n.toInt := by
  obtain ⟨m, number, fits⟩ := Option.bind_eq_some_iff.mp reads
  split at fits
  · next inRange =>
      cases fits
      simp only [fitsInt64, Bool.and_eq_true, decide_eq_true_eq] at inRange
      rw [number, Int64.toInt_ofInt_of_le inRange.1 (by
        have greatest : Int64.maxValue.toInt = 2 ^ 63 - 1 := by decide
        omega)]
  · cases fits

/-- Read an integer off the front of a text. -/
def readInteger (cs : List Char) : Option (Int64 × List Char) :=
  (readInt64? (readWord cs).1).map fun value => (value, (readWord cs).2)

theorem readInteger_append
    {rest : List Char}
    (value : Int64)
    (ends : EndsWord rest) :
    readInteger (intDigits value.toInt ++ rest) = some (value, rest) := by
  have word : readWord (intDigits value.toInt ++ rest) = (intDigits value.toInt, rest) :=
    readWord_append (fun _ member => isWordChar_of_mem_intDigits member) ends
  simp [readInteger, word]

/-! ## Sequences -/

/-- Read one item or more with a separator between any two. -/
def readSeparated
    (separator : List Char)
    (item : List Char → Option (α × List Char))
    (cs : List Char) : Option (List α × List Char) :=
  match item cs with
  | none => none
  | some (value, rest) =>
      match separator.isPrefixOf? rest with
      | none => some ([value], rest)
      | some behind =>
          if _shorter : behind.length < cs.length then
            (readSeparated separator item behind).map fun (values, rest) => (value :: values, rest)
          else none
termination_by cs.length

section Separated

variable
  {separator : List Char}
  {item : List Char → Option (β × List Char)}
  {write : α → List Char}
  {view : α → β}
  {Ends : List Char → Prop}

/-- Items written with a separator between them are read back in their order, if each of them is
read back before the separator and before the text at the end. -/
theorem readSeparated_intercalate
    (nonempty : separator ≠ [])
    (between : ∀ rest, Ends (separator ++ rest))
    {first : α}
    {others : List α}
    (reads : ∀ value ∈ first :: others, ∀ rest, Ends rest →
      item (write value ++ rest) = some (view value, rest))
    {rest : List Char}
    (ends : Ends rest)
    (last : separator.isPrefixOf? rest = none) :
    readSeparated separator item
        (List.intercalate separator ((first :: others).map write) ++ rest) =
      some ((first :: others).map view, rest) := by
  induction others generalizing first with
  | nil =>
      have readsFirst := reads first List.mem_cons_self rest ends
      rw [readSeparated]
      simp [readsFirst, last]
  | cons second others inductionHypothesis =>
      let behind := List.intercalate separator ((second :: others).map write) ++ rest
      have readsFirst := reads first List.mem_cons_self (separator ++ behind) (between behind)
      have readsBehind : readSeparated separator item behind =
          some ((second :: others).map view, rest) :=
        inductionHypothesis fun value member => reads value (List.mem_cons_of_mem _ member)
      have split : List.intercalate separator ((first :: second :: others).map write) ++ rest =
          write first ++ (separator ++ behind) := by
        simp [behind, List.intercalate_cons_cons]
      have positive : 0 < separator.length := List.length_pos_iff.mpr nonempty
      have shorter : behind.length < (write first ++ (separator ++ behind)).length := by
        simp only [List.length_append]
        omega
      rw [split, readSeparated, readsFirst]
      simp only [isPrefixOf?_append, shorter, dite_true, readsBehind]
      simp

end Separated

end Text
end ThreatIntel
