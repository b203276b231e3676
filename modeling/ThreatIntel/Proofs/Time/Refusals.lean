import Mathlib.Data.List.Basic
import ThreatIntel.Proofs.Time.Canonical

/-!
# Layouts that do not fit

The spellings of dates are tried one after the other, and many of them begin alike. A layout is
refused where another mark stands behind its first parts than it wants, and where digits are left
over. So a date with its month in front is refused by the layouts with the year in front: they take
the month for the year and half of the year for the day, and stop before the other half.
-/

namespace ThreatIntel
namespace Time

open Text

namespace Scan

theorem char_of_other
    {c : Char}
    {cs : List Char}
    (other : cs.head? ≠ some c) :
    char c cs = none := by
  cases cs with
  | nil => rfl
  | cons d rest =>
      have differs : d ≠ c := by simpa using other
      simp [char, differs]

/-- Too few digits are no number. -/
theorem number_of_few
    {least most : Nat}
    {digits rest : List Char}
    (allDigits : ∀ c ∈ digits, c.isDigit = true)
    (few : digits.length < least)
    (atMost : digits.length ≤ most)
    (ends : EndsNumber rest) :
    number least most (digits ++ rest) = none := by
  simp only [number, take_takeWhile_append allDigits (.inr ⟨atMost, ends⟩), few, if_true]

end Scan

/-! ## Timestamps -/

namespace Timestamp

theorem fourDigits
    {n : Nat}
    (short : n < 10000)
    (rest : List Char) :
    Scan.number 4 4 (padDigits 4 n ++ rest) = some (n, rest) :=
  Scan.number_padDigits (length_natDigits_le (by decide) short) (by decide) rest

theorem twoDigits_padDigits
    {n : Nat}
    (fits : n < 100)
    (rest : List Char) :
    Scan.twoDigits (padDigits 2 n ++ rest) = some (n, rest) :=
  Scan.number_padDigits (length_natDigits_le (by decide) fits) (by decide) rest

/-- A year without a hyphen behind it begins no timestamp. -/
theorem readStrict?_of_other_mark
    (year : Int)
    {rest : List Char}
    (other : rest.head? ≠ some '-') :
    readStrict? (yearChars year ++ rest) = none := by
  refine readStrict?_yearChars year fun n short => ?_
  simp only [scanStrict, fourDigits short, Scan.char_of_other other, Option.bind_eq_bind,
    Option.bind_some, Option.bind_none]

/-- A year of two digits begins no timestamp. -/
theorem readStrict?_of_two_digits
    {n : Nat}
    (fits : n < 100)
    {rest : List Char}
    (ends : EndsNumber rest) :
    readStrict? (padDigits 2 n ++ rest) = none := by
  have length : (padDigits 2 n).length = 2 :=
    length_padDigits_of_le (length_natDigits_le (by decide) fits)
  have few : Scan.number 4 4 (padDigits 2 n ++ rest) = none :=
    Scan.number_of_few (fun _ member => isDigit_of_mem_padDigits member) (by omega) (by omega) ends
  simp [readStrict?, scanStrict, few]

section

variable
  {date : CivilDate}
  {clock : Clock}
  (fits : Fits date clock)

include fits

/-- A date alone is no timestamp. -/
theorem readStrict?_isoDate :
    readStrict? (Layout.isoDate.flatMap (Part.write date clock)) = none := by
  have shape : Layout.isoDate.flatMap (Part.write date clock) =
      yearChars date.year ++ '-' :: (padDigits 2 date.month ++
        '-' :: (padDigits 2 date.day ++ [])) := by
    simp [Layout.isoDate, Part.write]
  rw [shape]
  refine readStrict?_yearChars _ fun n short => ?_
  simp only [scanStrict, fourDigits short, twoDigits_padDigits fits.month,
    twoDigits_padDigits fits.day, Scan.char_cons_self, divider, Option.bind_eq_bind,
    Option.bind_some, Option.bind_none]

/-- A date and a time of day that ends with the minute are no timestamp. -/
theorem readStrict?_of_no_second
    {c : Char}
    (divides : c = 'T' ∨ c = 't' ∨ c = ' ') :
    readStrict? (yearChars date.year ++ '-' :: (padDigits 2 date.month ++
      '-' :: (padDigits 2 date.day ++ c :: (padDigits 2 clock.hour ++
        ':' :: (padDigits 2 clock.minute ++ []))))) = none := by
  have noMark : Scan.char ':' [] = none := rfl
  refine readStrict?_yearChars _ fun n short => ?_
  simp only [scanStrict, fourDigits short, twoDigits_padDigits fits.month,
    twoDigits_padDigits fits.day, twoDigits_padDigits fits.hour, twoDigits_padDigits fits.minute,
    Scan.char_cons_self, divider_cons divides, noMark, Option.bind_eq_bind, Option.bind_some,
    Option.bind_none]

/-- A date and a time of day without an offset are no timestamp. -/
theorem readStrict?_of_no_offset
    {c : Char}
    (divides : c = 'T' ∨ c = 't' ∨ c = ' ') :
    readStrict? (yearChars date.year ++ '-' :: (padDigits 2 date.month ++
      '-' :: (padDigits 2 date.day ++ c :: (padDigits 2 clock.hour ++
        ':' :: (padDigits 2 clock.minute ++ ':' :: (padDigits 2 clock.second ++
          fractionChars clock.nanos)))))) = none := by
  have ends : EndsFraction [] := ⟨endsNumber_nil, by simp⟩
  refine readStrict?_yearChars _ fun n short => ?_
  have refused := scanStrict_of_no_offset fits short divides ends rfl
  rw [List.append_nil] at refused
  exact refused

end

end Timestamp

/-! ## Layouts -/

namespace Part

/-- A month is taken for a year. -/
theorem readYear_padDigits
    {n : Nat}
    (fits : n < 100)
    {rest : List Char}
    (ends : EndsNumber rest) :
    readYear (padDigits 2 n ++ rest) = some ((n : Int), rest) := by
  have length : (padDigits 2 n).length = 2 :=
    length_padDigits_of_le (length_natDigits_le (by decide) fits)
  have reads : Scan.number 1 4 (padDigits 2 n ++ rest) = some (n, rest) := by
    rw [Scan.number_append (fun _ member => isDigit_of_mem_padDigits member) (by omega)
      (.inr ⟨by omega, ends⟩), ofDigitChars_padDigits]
  obtain ⟨c, digits, shape, digit⟩ := exists_padDigits_eq_cons 2 n
  rw [shape, List.cons_append] at reads ⊢
  rw [readYear_of_digit digit, reads, Option.map_some]

/-- A year is not taken for a day, or half of it is. -/
theorem readShort_yearChars (year : Int) :
    readShort (yearChars year) = none ∨
      ∃ (n : Nat) (third fourth : Char), third.isDigit = true ∧ fourth.isDigit = true ∧
        readShort (yearChars year) = some (n, [third, fourth]) := by
  rcases yearChars_cases year with ⟨sign, signs, written⟩ | ⟨short, fits, written⟩
  · left
    have visible : isBlank sign = false := by rcases signs with rfl | rfl <;> decide
    have other : sign.isDigit = false := by rcases signs with rfl | rfl <;> decide
    rw [written, readShort, trimStart_cons_of_not_blank visible]
    exact Scan.number_of_endsNumber (by simpa using other) (by decide)
  · right
    have length : (padDigits 4 short).length = 4 :=
      length_padDigits_of_le (length_natDigits_le (by decide) fits)
    have digits : ∀ c ∈ padDigits 4 short, c.isDigit = true :=
      fun _ member => isDigit_of_mem_padDigits member
    rw [written, readShort, ← List.append_nil (padDigits 4 short), trimStart_padDigits,
      List.append_nil]
    obtain ⟨first, next, third, fourth, shape⟩ := List.length_eq_four.mp length
    rw [shape] at digits ⊢
    have front : ∀ c ∈ [first, next], c.isDigit = true :=
      fun c member => digits c (List.mem_append_left [third, fourth] member)
    have half : Scan.number 1 2 ([first, next] ++ [third, fourth]) =
        some (Nat.ofDigitChars 10 [first, next] 0, [third, fourth]) :=
      Scan.number_append front (by simp) (.inl rfl)
    exact ⟨_, third, fourth, digits third (by simp), digits fourth (by simp), half⟩

end Part

namespace Layout

section

variable
  {date : CivilDate}
  {clock : Clock}
  (fits : Fits date clock)

include fits

/-- A layout is refused where it wants another mark than stands behind its first parts. -/
theorem readAll_of_other
    {front : Layout}
    (back : Layout)
    {c : Char}
    {rest : List Char}
    (apart : KeepsApart date clock front rest)
    (other : rest.head? ≠ some c) :
    readAll (front ++ .literal c :: back) (front.flatMap (Part.write date clock) ++ rest) =
      none := by
  simp only [readAll, read_append fits _ _ apart, read, Part.read, Scan.char_of_other other,
    Option.map_none]

/-- A layout is refused where something is left over behind it. -/
theorem readAll_of_leftover
    {layout : Layout}
    {c : Char}
    {rest : List Char}
    (apart : KeepsApart date clock layout (c :: rest)) :
    readAll layout (layout.flatMap (Part.write date clock) ++ c :: rest) = none := by
  simp only [readAll, read_write fits layout _ apart]

end

/-- A layout that takes no two digits as the whole of a text. -/
def RefusesDigits (layout : Layout) : Prop :=
  ∀ (fields later : Fields) (third fourth : Char), third.isDigit = true → fourth.isDigit = true →
    layout.read fields [third, fourth] ≠ some (later, [])

/-- The parts of a date with hyphens or slashes, the year in front. -/
def yearFirst (mark : Char) : Layout :=
  [.year, .literal mark, .month, .literal mark, .day]

/-- The parts of a date with hyphens or slashes, the month in front. -/
def monthFirst (mark : Char) : Layout :=
  [.month, .literal mark, .day, .literal mark, .year]

/-- The characters of a date with its month in front. -/
theorem flatMap_write_monthFirst
    (mark : Char)
    (date : CivilDate)
    (clock : Clock) :
    (monthFirst mark).flatMap (Part.write date clock) =
      padDigits 2 date.month ++ mark :: (padDigits 2 date.day ++ mark :: yearChars date.year) := by
  simp [monthFirst, Part.write]

section

variable
  {date : CivilDate}
  {clock : Clock}
  (fits : Fits date clock)
  {mark : Char}
  (ends : mark.isDigit = false)

include fits ends

/-- A date with its month in front is refused by a layout with the year in front, unless this goes
on with two more digits. -/
theorem readAll_yearFirst_append
    {back : Layout}
    (refuses : RefusesDigits back) :
    readAll (yearFirst mark ++ back) ((monthFirst mark).flatMap (Part.write date clock)) =
      none := by
  have month : ∀ rest, Part.readYear (padDigits 2 date.month ++ mark :: rest) =
      some ((date.month : Int), mark :: rest) :=
    fun rest => Part.readYear_padDigits fits.month (by simpa using ends)
  rw [flatMap_write_monthFirst]
  simp only [readAll, yearFirst, List.cons_append, List.nil_append, read, Part.read, month,
    Scan.char_cons_self, Part.readShort_padDigits fits.day, Option.map_some]
  rcases Part.readShort_yearChars date.year with none | ⟨n, third, fourth, digit, other, half⟩
  · simp only [none, Option.map_none]
  · simp only [half, Option.map_some]
    split
    · next later whole => exact absurd whole (refuses _ _ third fourth digit other)
    · rfl

/-- A date with its month in front is refused by a layout that wants another mark behind the year.
-/
theorem readAll_year_of_monthFirst
    {other : Char}
    (differs : mark ≠ other)
    (back : Layout) :
    readAll (.year :: .literal other :: back) ((monthFirst mark).flatMap (Part.write date clock)) =
      none := by
  have month : ∀ rest, Part.readYear (padDigits 2 date.month ++ mark :: rest) =
      some ((date.month : Int), mark :: rest) :=
    fun rest => Part.readYear_padDigits fits.month (by simpa using ends)
  have stuck : ∀ rest, Scan.char other (mark :: rest) = none :=
    fun rest => Scan.char_of_other (by simpa using differs)
  rw [flatMap_write_monthFirst]
  simp only [readAll, read, Part.read, month, stuck, Option.map_some, Option.map_none]

end

theorem refusesDigits_nil : RefusesDigits [] := by
  intro fields later third fourth _ _
  simp

theorem refusesDigits_literal
    {c : Char}
    (other : c.isDigit = false)
    (back : Layout) :
    RefusesDigits (.literal c :: back) := by
  intro fields later third fourth digit _
  have differs : [third, fourth].head? ≠ some c := by
    rintro same
    cases same
    rw [digit] at other
    cases other
  simp [read, Part.read, Scan.char_of_other differs]

/-- Two digits are taken for an hour, and no minute is left. -/
theorem refusesDigits_blank_hour
    (c : Char)
    (back : Layout) :
    RefusesDigits (.blank :: .hour :: .literal c :: back) := by
  intro fields later third fourth digit other
  have kept : trimStart [third, fourth] = [third, fourth] :=
    trimStart_cons_of_not_blank (isBlank_eq_false_of_isDigit digit) _
  have digits : ∀ c ∈ [third, fourth], c.isDigit = true := by
    simp [digit, other]
  have hour : Part.readShort [third, fourth] =
      some (Nat.ofDigitChars 10 [third, fourth] 0, []) := by
    rw [Part.readShort, kept, ← List.append_nil [third, fourth]]
    exact Scan.number_append digits (by simp) (.inl rfl)
  simp [read, Part.read, kept, hour, Scan.char]

/-- Every layout with a time of day begins with a date that has hyphens and its year in front, and
wants something that two digits are not. -/
theorem exists_of_mem_dateTimes
    {layout : Layout}
    (member : layout ∈ dateTimes) :
    ∃ back, layout = yearFirst '-' ++ back ∧ RefusesDigits back := by
  have letter := refusesDigits_literal (c := 'T') (by decide)
  simp only [dateTimes, List.mem_cons, List.not_mem_nil, or_false] at member
  rcases member with rfl | rfl | rfl | rfl | rfl
  · exact ⟨_, rfl, letter _⟩
  · exact ⟨_, rfl, letter _⟩
  · exact ⟨_, rfl, refusesDigits_blank_hour _ _⟩
  · exact ⟨_, rfl, refusesDigits_blank_hour _ _⟩
  · exact ⟨_, rfl, refusesDigits_blank_hour _ _⟩

end Layout

theorem readLayouts?_eq_none
    {layouts : List Layout}
    {cs : List Char}
    (refused : ∀ layout ∈ layouts, layout.readAll cs = none)
    (instantOf : Fields → Option Instant) :
    readLayouts? layouts instantOf cs = none := by
  refine List.findSome?_eq_none_iff.mpr fun layout member => ?_
  rw [refused layout member]
  rfl

end Time
end ThreatIntel
