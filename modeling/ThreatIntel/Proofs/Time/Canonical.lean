import ThreatIntel.Proofs.Text.Marks
import ThreatIntel.Proofs.Time.Parts
import ThreatIntel.Time.Reading

/-!
# Dates in the layout of the server

A date in the layout of the server is read back as the second that it was written for, at whatever
time it is read: the readers of timestamps and of mail dates refuse it, and the first layout fits.
-/

namespace ThreatIntel

namespace Text

theorem trimStart_of_visible
    {cs : List Char}
    (visible : ∀ c ∈ cs, isBlank c = false) :
    trimStart cs = cs := by
  cases cs with
  | nil => rfl
  | cons c rest => exact trimStart_cons_of_not_blank (visible c List.mem_cons_self) rest

/-- A text without blanks is not trimmed. -/
theorem trim_of_visible
    {cs : List Char}
    (visible : ∀ c ∈ cs, isBlank c = false) :
    trim cs = cs := by
  have reversed : trimStart cs.reverse = cs.reverse :=
    trimStart_of_visible fun c member => visible c (List.mem_reverse.mp member)
  unfold trimStart at reversed
  rw [trim, trimStart_of_visible visible, trimEnd, reversed, List.reverse_reverse]

end Text

namespace Time

open Text

/-! ## The written date -/

/-- The characters of a date in the layout of the server. -/
theorem toList_canonical (instant : Instant) :
    instant.canonical.toList =
      yearChars instant.date.year ++ '-' :: (padDigits 2 instant.date.month ++
        '-' :: (padDigits 2 instant.date.day ++ 'T' :: (padDigits 2 instant.clock.hour ++
          ':' :: (padDigits 2 instant.clock.minute ++
            ':' :: (padDigits 2 instant.clock.second ++ []))))) := by
  simp [Instant.canonical, Layout.write, Layout.canonical, Layout.isoDate, Layout.isoClock,
    Part.write]

theorem isBlank_of_mem_yearChars
    {year : Int}
    {c : Char}
    (member : c ∈ yearChars year) :
    isBlank c = false := by
  unfold yearChars at member
  split at member
  · exact isBlank_eq_false_of_isDigit (isDigit_of_mem_padDigits member)
  · rcases List.mem_cons.mp member with sign | digit
    · rw [sign]
      split <;> decide
    · exact isBlank_eq_false_of_isDigit (isDigit_of_mem_padDigits digit)

/-- There are no blanks in a date in the layout of the server. -/
theorem isBlank_of_mem_canonical
    {instant : Instant}
    {c : Char}
    (member : c ∈ instant.canonical.toList) :
    isBlank c = false := by
  rw [toList_canonical] at member
  have digits : ∀ n, c ∈ padDigits 2 n → isBlank c = false :=
    fun n inside => isBlank_eq_false_of_isDigit (isDigit_of_mem_padDigits inside)
  simp only [List.mem_append, List.mem_cons, List.not_mem_nil, or_false] at member
  rcases member with year | rfl | month | rfl | day | rfl | hour | rfl | minute | rfl | second
  · exact isBlank_of_mem_yearChars year
  all_goals first | decide | exact digits _ ‹_›

/-- A year is written with a sign, or as a number of four digits. -/
theorem yearChars_cases (year : Int) :
    (∃ sign, (sign = '-' ∨ sign = '+') ∧ yearChars year = sign :: padDigits 4 year.natAbs) ∨
      ∃ n : Nat, n < 10000 ∧ yearChars year = padDigits 4 n := by
  unfold yearChars
  split
  · exact .inr ⟨year.toNat, by omega, rfl⟩
  · split
    · exact .inl ⟨'-', .inl rfl, rfl⟩
    · exact .inl ⟨'+', .inr rfl, rfl⟩

/-! ## Readers that refuse it -/

namespace Scan

/-- A text that does not begin with a letter begins with no word. -/
theorem word_of_not_letter
    {words : List String}
    (letters : ∀ word ∈ words, word.toList.head?.any Char.isAlpha = true)
    {c : Char}
    (other : c.isAlpha = false)
    (rest : List Char) :
    word words (c :: rest) = none := by
  have absent : words.findIdx? (fun word =>
      word.toList.length ≤ (c :: rest).length &&
        ((c :: rest).take word.toList.length).map Char.toLower == word.toList) = none := by
    refine List.findIdx?_eq_none_iff.mpr fun word member => ?_
    obtain ⟨first, head, letter⟩ := (Option.any_eq_true _ _).mp (letters word member)
    obtain ⟨others, shape⟩ := List.head?_eq_some_iff.mp head
    have differs : c.toLower ≠ first := by
      rw [Text.toLower_of_not_isAlpha other]
      rintro rfl
      rw [other] at letter
      cases letter
    simp [shape, differs]
  simp only [Scan.word, absent]

theorem blanks_of_visible
    {c : Char}
    (visible : isBlank c = false)
    (rest : List Char) :
    blanks (c :: rest) = none := by
  simp [blanks, visible]

end Scan

namespace MailDate

/-- A text that does not begin with a letter begins with no weekday. -/
theorem scanWeekday_of_not_letter
    {c : Char}
    (other : c.isAlpha = false)
    (rest : List Char) :
    scanWeekday (c :: rest) = some (none, c :: rest) := by
  have letters : ∀ word ∈ weekdays, word.toList.head?.any Char.isAlpha = true := by decide
  simp only [scanWeekday, Scan.word_of_not_letter letters other]

/-- A date with a sign in front is no mail date. -/
theorem scan_of_sign
    {sign : Char}
    (signs : sign = '-' ∨ sign = '+')
    (rest : List Char) :
    scan (sign :: rest) = none := by
  obtain ⟨letter, digit, blank⟩ :
      sign.isAlpha = false ∧ sign.isDigit = false ∧ isBlank sign = false := by
    rcases signs with rfl | rfl <;> decide
  have noNumber : Scan.number 1 2 (sign :: rest) = none :=
    Scan.number_of_endsNumber (by simpa using digit) (by decide)
  simp only [scan, trimStart_cons_of_not_blank blank, scanWeekday_of_not_letter letter, noNumber,
    Option.bind_eq_bind, Option.bind_some, Option.bind_none]

/-- A date with no blank behind its first two digits is no mail date. -/
theorem scan_of_digits
    {first second third : Char}
    (digits : ∀ c ∈ [first, second], c.isDigit = true)
    (visible : isBlank third = false)
    (rest : List Char) :
    scan (first :: second :: third :: rest) = none := by
  have firstDigit : first.isDigit = true := digits first (by simp)
  have number : Scan.number 1 2 ([first, second] ++ third :: rest) =
      some (Nat.ofDigitChars 10 [first, second] 0, third :: rest) :=
    Scan.number_append digits (by simp) (.inl rfl)
  simp only [List.cons_append, List.nil_append] at number
  have kept : trimStart (first :: second :: third :: rest) = first :: second :: third :: rest :=
    trimStart_cons_of_not_blank (isBlank_eq_false_of_isDigit firstDigit) _
  -- The day takes two digits, and the third character stands where a blank is wanted.
  unfold scan
  rw [kept, scanWeekday_of_not_letter (isAlpha_of_isDigit firstDigit)]
  change (Scan.number 1 2 (trimStart (first :: second :: third :: rest)) >>= _) = none
  rw [kept, number]
  change (Scan.blanks (third :: rest) >>= _) = none
  rw [Scan.blanks_of_visible visible]
  rfl

/-- A date with its year in front is no mail date. -/
theorem read?_yearChars
    (year : Int)
    (rest : List Char) :
    read? (yearChars year ++ rest) = none := by
  have refused : scan (yearChars year ++ rest) = none := by
    rcases yearChars_cases year with ⟨sign, signs, written⟩ | ⟨short, fits, written⟩
    · rw [written, List.cons_append]
      exact scan_of_sign signs _
    · have length : (padDigits 4 short).length = 4 :=
        length_padDigits_of_le (length_natDigits_le (by decide) fits)
      have digits : ∀ c ∈ padDigits 4 short, c.isDigit = true :=
        fun _ member => isDigit_of_mem_padDigits member
      rw [written]
      match shape : padDigits 4 short, length with
      | [first, second, third, fourth], _ =>
          rw [shape] at digits
          refine scan_of_digits (fun c member => digits c ?_)
            (isBlank_eq_false_of_isDigit (digits third (by simp))) _
          exact List.mem_append_left [third, fourth] member
  simp [read?, refused]

/-- A date with its month in front is no mail date. -/
theorem read?_padDigits
    {n : Nat}
    (fits : n < 100)
    {c : Char}
    (visible : isBlank c = false)
    (rest : List Char) :
    read? (padDigits 2 n ++ c :: rest) = none := by
  have length : (padDigits 2 n).length = 2 :=
    length_padDigits_of_le (length_natDigits_le (by decide) fits)
  have digits : ∀ c ∈ padDigits 2 n, c.isDigit = true :=
    fun _ member => isDigit_of_mem_padDigits member
  have refused : scan (padDigits 2 n ++ c :: rest) = none := by
    match shape : padDigits 2 n, length with
    | [first, second], _ =>
        rw [shape] at digits
        exact scan_of_digits digits visible rest
  simp [read?, refused]

/-- A date in the layout of the server is no mail date. -/
theorem read?_canonical (instant : Instant) : read? instant.canonical.toList = none := by
  rw [toList_canonical]
  exact read?_yearChars _ _

end MailDate

namespace Timestamp

theorem divider_cons
    {c : Char}
    (divides : c = 'T' ∨ c = 't' ∨ c = ' ')
    (rest : List Char) :
    divider (c :: rest) = some ((), rest) :=
  if_pos divides

/-- A date and time of day in full width with no offset behind them are no timestamp. -/
theorem scanStrict_of_no_offset
    {date : CivilDate}
    {clock : Clock}
    (fits : Fits date clock)
    {year : Nat}
    (short : year < 10000)
    {c : Char}
    (divides : c = 'T' ∨ c = 't' ∨ c = ' ')
    {rest : List Char}
    (ends : EndsFraction rest)
    (noOffset : Scan.offset strictOffset rest = none) :
    scanStrict (padDigits 4 year ++ '-' :: (padDigits 2 date.month ++
      '-' :: (padDigits 2 date.day ++ c :: (padDigits 2 clock.hour ++
        ':' :: (padDigits 2 clock.minute ++ ':' :: (padDigits 2 clock.second ++
          (fractionChars clock.nanos ++ rest))))))) = none := by
  have fourDigits : ∀ rest, Scan.number 4 4 (padDigits 4 year ++ rest) = some (year, rest) :=
    Scan.number_padDigits (length_natDigits_le (by decide) short) (by decide)
  have twoDigits : ∀ {n : Nat}, n < 100 → ∀ rest,
      Scan.twoDigits (padDigits 2 n ++ rest) = some (n, rest) := fun small rest =>
    Scan.number_padDigits (length_natDigits_le (by decide) small) (by decide) rest
  simp only [scanStrict, fourDigits, twoDigits fits.month, twoDigits fits.day,
    twoDigits fits.hour, twoDigits fits.minute, twoDigits fits.second, Scan.char_cons_self,
    divider_cons divides, Part.optionalFraction_fractionChars fits.nanos ends, noOffset,
    Option.bind_eq_bind, Option.bind_some, Option.bind_none]

/-- A date with a sign in front is no timestamp. -/
theorem scanStrict_of_sign
    {sign : Char}
    (signs : sign = '-' ∨ sign = '+')
    (rest : List Char) :
    scanStrict (sign :: rest) = none := by
  have other : sign.isDigit = false := by rcases signs with rfl | rfl <;> decide
  have noNumber : Scan.number 4 4 (sign :: rest) = none :=
    Scan.number_of_endsNumber (by simpa using other) (by decide)
  simp only [scanStrict, noNumber, Option.bind_eq_bind, Option.bind_none]

/-- Only a year of four digits can begin a timestamp. -/
theorem readStrict?_yearChars
    (year : Int)
    {rest : List Char}
    (refused : ∀ n < 10000, scanStrict (padDigits 4 n ++ rest) = none) :
    readStrict? (yearChars year ++ rest) = none := by
  have stuck : scanStrict (yearChars year ++ rest) = none := by
    rcases yearChars_cases year with ⟨sign, signs, written⟩ | ⟨n, short, written⟩
    · rw [written]
      exact scanStrict_of_sign signs _
    · rw [written]
      exact refused n short
  simp [readStrict?, stuck]

/-- A date in the layout of the server has no offset, and so is no timestamp. -/
theorem readStrict?_canonical (instant : Instant) :
    readStrict? instant.canonical.toList = none := by
  have ends : EndsFraction [] := ⟨endsNumber_nil, by simp⟩
  have noOffset : Scan.offset strictOffset [] = none := rfl
  have noFraction : fractionChars 0 = [] := rfl
  rw [toList_canonical]
  refine readStrict?_yearChars _ fun n short => ?_
  have refused := scanStrict_of_no_offset instant.truncate.fits short (c := 'T') (.inl rfl) ends
    noOffset
  rw [instant.date_truncate, instant.clock_truncate, noFraction] at refused
  exact refused

end Timestamp

/-! ## Reading it back -/

namespace Instant

/-- The fraction of a second is not written. -/
theorem canonical_truncate (instant : Instant) :
    instant.truncate.canonical = instant.canonical := by
  have same : Layout.canonical.write instant.truncate = Layout.canonical.write instant := by
    simp only [Layout.canonical, Layout.isoDate, Layout.isoClock, List.cons_append,
      List.nil_append, Layout.write_cons, Layout.write_nil, Part.write, date_truncate,
      clock_truncate]
  rw [canonical, canonical, same]

/-- Cut down to whole seconds, an instant is a leap second just when it was one. -/
theorem nanos_truncate (instant : Instant) :
    instant.truncate.nanos = if instant.nanos < nanosPerSecond then 0 else nanosPerSecond := by
  have bounds := instant.nanos_inRange
  change instant.nanos / nanosPerSecond * nanosPerSecond = _
  unfold nanosPerSecond at *
  split <;> omega

end Instant

/-- The fields of a date in the layout of the server are those of its second. -/
theorem readAll_canonical (instant : Instant) :
    (Layout.canonical.readAll instant.canonical.toList).bind (·.instant? 0) =
      some instant.truncate := by
  have apart : Layout.canonical.KeepsApart instant.date instant.clock [] := by
    simp [Layout.canonical, Layout.isoDate, Layout.isoClock, Layout.KeepsApart, Part.Stops,
      Part.write]
  have reads := Layout.read_write instant.fits Layout.canonical {} apart
  rw [List.append_nil] at reads
  have put := instant.truncate.ofCivil?_date_clock
  rw [instant.date_truncate, instant.clock_truncate] at put
  rw [Layout.readAll, Instant.canonical, String.toList_ofList, Layout.write, reads]
  exact put

/-- A date in the layout of the server is taken for nothing but the second it was written for. -/
theorem readAbsolute?_canonical (instant : Instant) :
    readAbsolute? instant.canonical.toList = some instant.truncate := by
  simp only [readAbsolute?, Timestamp.readStrict?_canonical, MailDate.read?_canonical,
    readLayouts?, Layout.dateTimes, List.findSome?_cons, readAll_canonical]
  rfl

/-- Whenever it is read, a date in the layout of the server is the second it was written for. -/
theorem read_canonical
    (now instant : Instant) :
    read now instant.canonical = .ok instant.truncate := by
  have trimmed : trim instant.canonical.toList = instant.canonical.toList :=
    trim_of_visible fun _ member => isBlank_of_mem_canonical member
  have visible : instant.canonical.toList.isEmpty = false := by
    rw [toList_canonical]
    simp
  simp only [read, trimmed, visible, readAbsolute?_canonical]
  rfl

end Time
end ThreatIntel
