import Mathlib.Data.List.TakeWhile
import ThreatIntel.Text.Blank

/-!
# Items between commas

A row of items is written with commas in between, and any blanks may stand around an item. Main
statement: cutting such a text at its commas and trimming the pieces gives back the items.
-/

namespace ThreatIntel
namespace Text

/-- No blank stands at either end of the text. -/
structure IsTrimmed (cs : List Char) : Prop where
  begins : ∀ c ∈ cs.head?, isBlank c = false
  ends : ∀ c ∈ cs.getLast?, isBlank c = false

theorem dropWhile_isBlank_of_begins
    {cs : List Char}
    (begins : ∀ c ∈ cs.head?, isBlank c = false) :
    cs.dropWhile isBlank = cs := by
  cases cs with
  | nil => rfl
  | cons c rest => simp [begins c rfl]

/-- A text without blanks at its ends is found again between blanks. -/
theorem trim_padded
    {before item after : List Char}
    (blankBefore : ∀ c ∈ before, isBlank c = true)
    (trimmed : IsTrimmed item)
    (blankAfter : ∀ c ∈ after, isBlank c = true) :
    trim (before ++ (item ++ after)) = item := by
  have front : trimStart (before ++ (item ++ after)) = trimStart (item ++ after) :=
    List.dropWhile_append_of_pos blankBefore
  rw [trim, front]
  cases item with
  | nil =>
      have empty : trimStart after = [] := List.dropWhile_eq_nil_iff.mpr blankAfter
      rw [List.nil_append, empty]
      rfl
  | cons c rest =>
      have kept : trimStart (c :: rest ++ after) = c :: rest ++ after :=
        dropWhile_isBlank_of_begins fun d head => trimmed.begins d head
      have blankEnd : ∀ d ∈ after.reverse, isBlank d = true := by
        intro d member
        exact blankAfter d (List.mem_reverse.mp member)
      have visibleEnd : ∀ d ∈ (c :: rest).reverse.head?, isBlank d = false := by
        rw [List.head?_reverse]
        exact trimmed.ends
      rw [kept, trimEnd, List.reverse_append, List.dropWhile_append_of_pos blankEnd,
        dropWhile_isBlank_of_begins visibleEnd, List.reverse_reverse]

/-- A text that can stand as an item: without a comma, and without blanks at its ends. -/
structure IsItem (item : List Char) : Prop extends IsTrimmed item where
  plain : ',' ∉ item

/-- Whether a text can stand as an item is seen from its marks and its ends. -/
theorem IsItem.of_checked
    {item : List Char}
    (plain : ',' ∉ item)
    (begins : item.head?.all (!isBlank ·) = true)
    (ends : item.getLast?.all (!isBlank ·) = true) :
    IsItem item where
  begins c head := by simpa [Option.mem_def.mp head] using begins
  ends c last := by simpa [Option.mem_def.mp last] using ends
  plain := plain

/-- A row of one item or more, with commas in between and blanks around the items. -/
inductive IsRow : List (List Char) → List Char → Prop
  | last
      (before item after : List Char)
      (blankBefore : ∀ c ∈ before, isBlank c = true)
      (isItem : IsItem item)
      (blankAfter : ∀ c ∈ after, isBlank c = true) :
      IsRow [item] (before ++ (item ++ after))
  | more
      (before item after : List Char)
      {items : List (List Char)}
      {rest : List Char}
      (blankBefore : ∀ c ∈ before, isBlank c = true)
      (isItem : IsItem item)
      (blankAfter : ∀ c ∈ after, isBlank c = true)
      (behind : IsRow items rest) :
      IsRow (item :: items) (before ++ (item ++ after) ++ ',' :: rest)

/-- There is no comma in an item, nor in the blanks around it. -/
theorem comma_notMem_padded
    {before item after : List Char}
    (blankBefore : ∀ c ∈ before, isBlank c = true)
    (isItem : IsItem item)
    (blankAfter : ∀ c ∈ after, isBlank c = true) :
    ',' ∉ before ++ (item ++ after) := by
  intro member
  rcases List.mem_append.mp member with inside | inside
  · exact absurd (blankBefore _ inside) (by decide)
  · rcases List.mem_append.mp inside with inside | inside
    · exact isItem.plain inside
    · exact absurd (blankAfter _ inside) (by decide)

/-- The items of a row are found between its commas. -/
theorem IsRow.map_trim_splitOn
    {items : List (List Char)}
    {cs : List Char}
    (row : IsRow items cs) :
    (cs.splitOn ',').map trim = items := by
  induction row with
  | last before item after blankBefore isItem blankAfter =>
      have plain := comma_notMem_padded blankBefore isItem blankAfter
      rw [List.splitOn_eq_singleton plain, List.map_singleton,
        trim_padded blankBefore isItem.toIsTrimmed blankAfter]
  | more before item after blankBefore isItem blankAfter behind inductionHypothesis =>
      have plain := comma_notMem_padded blankBefore isItem blankAfter
      rw [List.splitOn_append_cons_self_of_not_mem plain, List.map_cons,
        trim_padded blankBefore isItem.toIsTrimmed blankAfter, inductionHypothesis]

end Text
end ThreatIntel
