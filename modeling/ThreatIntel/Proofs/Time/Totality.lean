import ThreatIntel.Proofs.Time.Bounded
import ThreatIntel.Proofs.Time.Canonical

/-!
# Every text is read or refused

Main statement: every text is read as a date or refused as invalid, but for the words that name the
day before the first or the day after the last of the calendar. In words of bounded width reading
comes to the same, and overruns only there and at the magnitude of the least number.
-/

namespace ThreatIntel
namespace Time

open Text

/-! ## Texts without digits, and negative numbers -/

theorem endsNumber_of_plain
    {cs : List Char}
    (plain : ∀ c ∈ cs, c.isDigit = false) :
    EndsNumber cs :=
  fun c head => plain c (List.mem_of_mem_head? head)

theorem number_of_plain
    {least most : Nat}
    (positive : 0 < least)
    {cs : List Char}
    (plain : ∀ c ∈ cs, c.isDigit = false) :
    Scan.number least most cs = none :=
  Scan.number_of_endsNumber (endsNumber_of_plain plain) positive

theorem plain_trimStart
    {cs : List Char}
    (plain : ∀ c ∈ cs, c.isDigit = false) :
    ∀ c ∈ trimStart cs, c.isDigit = false :=
  fun c member => plain c ((List.dropWhile_sublist isBlank).mem member)

theorem scan_of_plain
    {cs : List Char}
    (plain : ∀ c ∈ cs, c.isDigit = false) :
    MailDate.scan cs = none := by
  -- Behind a weekday there is still no digit for the day.
  have behind : ∀ {ds rest weekday}, (∀ c ∈ ds, c.isDigit = false) →
      MailDate.scanWeekday ds = some (weekday, rest) → ∀ c ∈ rest, c.isDigit = false := by
    intro ds rest weekday plain taken c member
    unfold MailDate.scanWeekday at taken
    split at taken
    · next index others found =>
        cases taken
        unfold Scan.word at found
        split at found
        · simp only [Option.some.injEq, Prod.mk.injEq] at found
          exact plain c (List.mem_of_mem_drop (found.2 ▸ List.mem_cons_of_mem _ member))
        · cases found
    · cases taken
    · cases taken
      exact plain c member
  unfold MailDate.scan
  cases taken : MailDate.scanWeekday (trimStart cs) with
  | none => rfl
  | some pair =>
      have day : Scan.number 1 2 (trimStart pair.2) = none :=
        number_of_plain (by decide) (plain_trimStart (behind (plain_trimStart plain) taken))
      simp only [Option.bind_eq_bind, Option.bind_some, day, Option.bind_none]

theorem readYear_of_plain
    {cs : List Char}
    (plain : ∀ c ∈ cs, c.isDigit = false) :
    Part.readYear cs = none := by
  have trimmed := plain_trimStart plain
  unfold Part.readYear
  split
  · next equal =>
      rw [equal] at trimmed
      rw [Scan.digits, number_of_plain (by decide) (List.forall_mem_cons.mp trimmed).2]
      rfl
  · next equal =>
      rw [equal] at trimmed
      rw [Scan.digits, number_of_plain (by decide) (List.forall_mem_cons.mp trimmed).2]
      rfl
  · rw [number_of_plain (by decide) trimmed]
    rfl

/-- Every layout begins with a number, and with a hyphen or a slash behind it. -/
theorem exists_mark_of_mem_layouts
    {layout : Layout}
    (member : layout ∈ Layout.dateTimes ++ Layout.dates) :
    ∃ first mark back, layout = first :: .literal mark :: back ∧
      (first = .year ∨ first = .month) ∧ (mark = '-' ∨ mark = '/') := by
  simp only [Layout.dateTimes, Layout.dates, List.mem_append, List.mem_cons, List.not_mem_nil,
    or_false] at member
  rcases member with (rfl | rfl | rfl | rfl | rfl) | (rfl | rfl | rfl | rfl)
  all_goals exact ⟨_, _, _, rfl, by simp, by simp⟩

/-- A text that no layout fits and that is neither a timestamp nor a mail date is no date. -/
theorem readAbsolute?_eq_none
    {cs : List Char}
    (strict : Timestamp.scanStrict cs = none)
    (mail : MailDate.scan cs = none)
    (layouts : ∀ layout ∈ Layout.dateTimes ++ Layout.dates, layout.readAll cs = none) :
    readAbsolute? cs = none := by
  have dateTimes : readLayouts? Layout.dateTimes (·.instant? 0) cs = none :=
    List.findSome?_eq_none_iff.mpr fun layout member => by
      rw [layouts layout (List.mem_append_left _ member), Option.bind_none]
  have dates : readLayouts? Layout.dates (·.midnight?) cs = none :=
    List.findSome?_eq_none_iff.mpr fun layout member => by
      rw [layouts layout (List.mem_append_right _ member), Option.bind_none]
  simp [readAbsolute?, Timestamp.readStrict?, MailDate.read?, strict, mail, dateTimes, dates]

/-- A text that begins with neither a year nor a month, nor with a mail date, is no date that does
not depend on the present. -/
theorem readAbsolute?_of_no_number
    {cs : List Char}
    (number : Scan.number 4 4 cs = none)
    (year : Part.readYear cs = none)
    (month : Part.readShort cs = none)
    (mail : MailDate.scan cs = none) :
    readAbsolute? cs = none := by
  refine readAbsolute?_eq_none ?_ mail fun layout member => ?_
  · simp only [Timestamp.scanStrict, number, Option.bind_eq_bind, Option.bind_none]
  · obtain ⟨_, mark, back, rfl, rfl | rfl, -⟩ := exists_mark_of_mem_layouts member
    · simp only [Layout.readAll, Layout.read, Part.read, year, Option.map_none]
    · simp only [Layout.readAll, Layout.read, Part.read, month, Option.map_none]

/-- A text without digits is no date that does not depend on the present. -/
theorem readAbsolute?_of_plain
    {cs : List Char}
    (plain : ∀ c ∈ cs, c.isDigit = false) :
    readAbsolute? cs = none := by
  have month : Part.readShort cs = none := number_of_plain (by decide) (plain_trimStart plain)
  exact readAbsolute?_of_no_number (number_of_plain (by decide) plain) (readYear_of_plain plain)
    month (scan_of_plain plain)

/-- A minus sign and digits are no date that does not depend on the present. -/
theorem readAbsolute?_of_minus
    {digits : List Char}
    (nonempty : digits ≠ [])
    (allDigits : ∀ c ∈ digits, c.isDigit = true) :
    readAbsolute? ('-' :: digits) = none := by
  have visible : isBlank '-' = false := by decide
  have positive : 1 ≤ digits.length := List.length_pos_iff.mpr nonempty
  have number : Scan.number 1 digits.length (digits ++ []) =
      some (Nat.ofDigitChars 10 digits 0, []) :=
    Scan.number_append allDigits positive (.inl rfl)
  have year : Part.readYear ('-' :: digits) =
      some (-(Nat.ofDigitChars 10 digits 0 : Int), []) := by
    rw [List.append_nil] at number
    rw [Part.readYear, trimStart_cons_of_not_blank visible]
    simp only [Scan.digits, number, Option.map_some]
  have month : Part.readShort ('-' :: digits) = none := by
    rw [Part.readShort, trimStart_cons_of_not_blank visible]
    exact Scan.number_of_endsNumber (by simp) (by decide)
  refine readAbsolute?_eq_none (Timestamp.scanStrict_of_sign (.inl rfl) digits)
    (MailDate.scan_of_sign (.inl rfl) digits) fun layout member => ?_
  obtain ⟨_, mark, back, rfl, rfl | rfl, -⟩ := exists_mark_of_mem_layouts member
  · simp only [Layout.readAll, Layout.read, Part.read, year, Scan.char, Option.map_some,
      Option.map_none]
  · simp only [Layout.readAll, Layout.read, Part.read, month, Option.map_none]

/-! ## Every text -/

/-- The day that a word names lies outside the calendar. -/
def LeavesCalendar (now : Instant) (input : String) : Prop :=
  (lower (trim input.toList) = "yesterday".toList ∧ now.seconds < minSeconds + 86400) ∨
    (lower (trim input.toList) = "tomorrow".toList ∧ maxSeconds - 86400 < now.seconds)

/-- The text is the least number of 64 bits. -/
def IsLeast (input : String) : Prop :=
  readInt64? (trim input.toList) = some Int64.minValue

instance (now : Instant) (input : String) : Decidable (LeavesCalendar now input) :=
  inferInstanceAs (Decidable ((_ ∧ _) ∨ (_ ∧ _)))

instance (input : String) : Decidable (IsLeast input) :=
  inferInstanceAs (Decidable (_ = _))

/-- What a reader of dates should return: an instant, or a refusal of what was given. -/
inductive Answered : Except Refusal Instant → Prop
  /-- The text is a date. -/
  | date (instant : Instant) : Answered (.ok instant)
  /-- The text is refused as invalid. -/
  | refused {refusal : Refusal} (invalid : refusal.error.kind = .validation) :
      Answered (.error refusal)

theorem answered_iff {result : Except Refusal Instant} :
    Answered result ↔ result ≠ .error .beyondCalendar := by
  constructor
  · rintro answered rfl
    cases answered with
    | refused invalid => cases invalid
  · intro within
    cases result with
    | ok instant => exact .date instant
    | error refusal =>
        cases refusal with
        | beyondCalendar => exact absurd rfl within
        | blank | epochOutOfRange _ | unrecognized _ => exact .refused rfl

theorem answered_ofEpoch (epoch : Int) : Answered (ofEpoch epoch) := by
  unfold ofEpoch
  dsimp only
  split
  · exact .date _
  · exact .refused rfl

/-- The day before that of an instant lies in the calendar but for the first day. -/
theorem addSeconds_midnight_before (now : Instant) :
    now.midnight.addSeconds (-1 * 86400) = none ↔ now.seconds < minSeconds + 86400 := by
  have bounds := now.seconds_inRange
  have whole : now.midnight.nanos < nanosPerSecond := (by decide : 0 < nanosPerSecond)
  rw [Instant.addSeconds, if_pos (.inl whole), Instant.ofParts?_eq_none_of_whole whole]
  simp only [Instant.midnight]
  unfold minSeconds maxSeconds at *
  omega

/-- The day after that of an instant lies in the calendar but for the last day. -/
theorem addSeconds_midnight_after (now : Instant) :
    now.midnight.addSeconds (1 * 86400) = none ↔ maxSeconds - 86400 < now.seconds := by
  have bounds := now.seconds_inRange
  have whole : now.midnight.nanos < nanosPerSecond := (by decide : 0 < nanosPerSecond)
  rw [Instant.addSeconds, if_pos (.inl whole), Instant.ofParts?_eq_none_of_whole whole]
  simp only [Instant.midnight]
  unfold minSeconds maxSeconds at *
  omega

/-- A text that is a word without digits in lower case has no digits. -/
theorem plain_of_lower
    {cs : List Char}
    (plain : ∀ c ∈ lower cs, c.isDigit = false) :
    ∀ c ∈ cs, c.isDigit = false := by
  intro c member
  cases digit : c.isDigit with
  | false => rfl
  | true =>
      have ascii : c.toNat < 128 := toNat_lt_of_isAlphanum (by simp [Char.isAlphanum, digit])
      have caseless : c.toLower = c := toLower_of_not_isAlpha (isAlpha_of_isDigit digit)
      have inside : c ∈ lower cs := mem_lowerAfter ascii caseless member []
      rw [plain c inside] at digit
      cases digit

/-- A word that leaves the calendar has no digits, so that no other reader takes it. -/
theorem plain_of_leavesCalendar
    {now : Instant}
    {input : String}
    (leaves : LeavesCalendar now input) :
    ∀ c ∈ trim input.toList, c.isDigit = false := by
  refine plain_of_lower fun c member => Bool.eq_false_iff.mpr ?_
  rcases leaves with ⟨word, -⟩ | ⟨word, -⟩ <;> rw [word] at member
  · exact List.any_eq_false.mp (by decide) c member
  · exact List.any_eq_false.mp (by decide) c member

theorem not_leavesCalendar_of_absolute
    {now instant : Instant}
    {input : String}
    (absolute : readAbsolute? (trim input.toList) = some instant) :
    ¬LeavesCalendar now input := by
  intro leaves
  rw [readAbsolute?_of_plain (plain_of_leavesCalendar leaves)] at absolute
  cases absolute

theorem not_leavesCalendar_of_number
    {now : Instant}
    {input : String}
    {epoch : Int64}
    (number : readInt64? (trim input.toList) = some epoch) :
    ¬LeavesCalendar now input := by
  intro leaves
  rw [readInt64?_of_plain (plain_of_leavesCalendar leaves)] at number
  cases number

theorem not_isLeast_of_absolute
    {instant : Instant}
    {input : String}
    (absolute : readAbsolute? (trim input.toList) = some instant) :
    ¬IsLeast input := by
  intro least
  obtain ⟨digits, shape, nonempty, allDigits⟩ :=
    exists_of_readInt?_neg (toInt_of_readInt64? least) (by decide)
  rw [shape, readAbsolute?_of_minus nonempty allDigits] at absolute
  cases absolute

/-- Nothing but blanks is no word. -/
theorem not_leavesCalendar_of_blank
    {now : Instant}
    {input : String}
    (blank : trim input.toList = []) :
    ¬LeavesCalendar now input := by
  unfold LeavesCalendar
  rw [blank]
  rintro (⟨word, -⟩ | ⟨word, -⟩) <;> exact absurd word (by decide)

section

variable
  (now : Instant)
  (input : String)

theorem readFromNow_eq_iff :
    readFromNow now input (trim input.toList) = .error .beyondCalendar ↔
      LeavesCalendar now input := by
  unfold readFromNow LeavesCalendar
  generalize lower (trim input.toList) = word
  dsimp only
  split_ifs with isNow isToday isYesterday isTomorrow
  · subst isNow
    simp
  · subst isToday
    simp
  · subst isYesterday
    rw [← addSeconds_midnight_before, neighbour]
    cases now.midnight.addSeconds (-1 * 86400) <;> simp
  · subst isTomorrow
    rw [← addSeconds_midnight_after, neighbour]
    cases now.midnight.addSeconds (1 * 86400) <;> simp
  · simp only [isYesterday, isTomorrow, false_and, or_false, iff_false]
    cases Relative.read? now word <;> simp

/-- In words, a neighbouring day outside the calendar is an overrun, and nothing else changes. -/
theorem bounded_readFromNow_eq :
    Bounded.readFromNow now input (trim input.toList) =
      if LeavesCalendar now input then .error .neighbour
      else .ok (readFromNow now input (trim input.toList)) := by
  rw [Bounded.readFromNow_eq]
  by_cases leaves : LeavesCalendar now input
  · rw [if_pos leaves, (readFromNow_eq_iff now input).mpr leaves]
    rfl
  · rw [if_neg leaves]
    exact Bounded.overrunning_of_ne fun beyond => leaves ((readFromNow_eq_iff now input).mp beyond)

/-- Reading fails without a refusal just for the words that leave the calendar. -/
theorem read_eq_beyondCalendar_iff :
    read now input = .error .beyondCalendar ↔ LeavesCalendar now input := by
  constructor
  · intro fails
    unfold read at fails
    dsimp only at fails
    split at fails
    · cases fails
    · split at fails
      · cases fails
      · split at fails
        · exact absurd fails (answered_iff.mp (answered_ofEpoch _))
        · exact (readFromNow_eq_iff now input).mp fails
  · intro leaves
    have plain := plain_of_leavesCalendar leaves
    have nonempty : (trim input.toList).isEmpty = false := by
      rw [List.isEmpty_eq_false_iff]
      exact fun blank => not_leavesCalendar_of_blank blank leaves
    have fromNow := (readFromNow_eq_iff now input).mpr leaves
    simp only [read, nonempty, readAbsolute?_of_plain plain, readInt64?_of_plain plain, fromNow]
    rfl

/-- In words of bounded width, reading comes to the same, or it overruns. -/
theorem bounded_read_eq :
    Bounded.read now input =
      if LeavesCalendar now input then .error .neighbour
      else if IsLeast input then .error .magnitude
      else .ok (read now input) := by
  by_cases blank : trim input.toList = []
  · have noLeast : ¬IsLeast input := by
      unfold IsLeast
      rw [blank]
      decide
    rw [if_neg (not_leavesCalendar_of_blank blank), if_neg noLeast]
    simp [Bounded.read, read, blank]
  have nonempty : (trim input.toList).isEmpty = false := List.isEmpty_eq_false_iff.mpr blank
  cases absolute : readAbsolute? (trim input.toList) with
  | some instant =>
      rw [if_neg (not_leavesCalendar_of_absolute absolute),
        if_neg (not_isLeast_of_absolute absolute)]
      simp [Bounded.read, read, nonempty, absolute]
  | none =>
      cases number : readInt64? (trim input.toList) with
      | some epoch =>
          have least : IsLeast input ↔ epoch = Int64.minValue := by
            unfold IsLeast
            rw [number, Option.some.injEq]
          rw [if_neg (not_leavesCalendar_of_number number)]
          simp [Bounded.read, read, nonempty, absolute, number, Bounded.ofEpoch_eq, least]
      | none =>
          have noLeast : ¬IsLeast input := by
            unfold IsLeast
            rw [number]
            simp
          rw [if_neg noLeast]
          simp only [Bounded.read, read, nonempty, absolute, number, Bool.false_eq_true, if_false]
          exact bounded_readFromNow_eq now input

/-- Every text is read as a date or refused as invalid, at any time, but for the words of a day
outside the calendar. In words of bounded width the outcome is the same: the only steps that overrun
are to that day, and to the magnitude of the least number. Every number of 64 bits is a date or
refused as invalid. -/
theorem read_total :
    (Answered (read now input) ↔ ¬LeavesCalendar now input) ∧
    (Bounded.read now input =
      if LeavesCalendar now input then .error .neighbour
      else if IsLeast input then .error .magnitude
      else .ok (read now input)) ∧
    ∀ epoch : Int64, Answered (ofEpoch epoch.toInt) ∧
      Bounded.ofEpoch epoch =
        if epoch = Int64.minValue then .error .magnitude else .ok (ofEpoch epoch.toInt) := by
  refine ⟨?_, bounded_read_eq now input, ?_⟩
  · rw [answered_iff, ne_eq, read_eq_beyondCalendar_iff]
  · exact fun epoch => ⟨answered_ofEpoch _, Bounded.ofEpoch_eq epoch⟩

end

/-- On the first day of the calendar there is no yesterday, and reading the word is no refusal. -/
theorem not_answered_before_first_day :
    ¬Answered (read ⟨minSeconds, 0, by decide, by decide⟩ "yesterday") := by
  rw [answered_iff, not_not, read_eq_beyondCalendar_iff]
  decide +kernel

end Time
end ThreatIntel
