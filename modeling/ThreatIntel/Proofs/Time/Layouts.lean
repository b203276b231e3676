import ThreatIntel.Proofs.Text.Items
import ThreatIntel.Proofs.Time.Refusals

/-!
# Dates in every layout

Main statement: a date that is written in one of the layouts is read back, between any blanks and at
whatever time, as the instant it was written for, as far as the layout tells it. No reader that is
tried before takes it for something else.
-/

namespace ThreatIntel
namespace Time

open Text

namespace Instant

/-- The beginning of an instant's minute. -/
def startOfMinute (instant : Instant) : Instant :=
  ⟨instant.seconds - instant.seconds % 60, 0, by
    have bounds := instant.seconds_inRange
    unfold minSeconds maxSeconds at *
    omega, .inl (by decide)⟩

theorem date_startOfMinute (instant : Instant) :
    instant.startOfMinute.date = instant.date := by
  have same : instant.startOfMinute.seconds / 86400 = instant.seconds / 86400 := by
    simp only [startOfMinute]
    omega
  rw [date, same, date]

theorem clock_startOfMinute (instant : Instant) :
    instant.startOfMinute.clock = { instant.clock with second := 0, nanos := 0 } := by
  have second : instant.startOfMinute.secondOfDay =
      instant.secondOfDay - instant.secondOfDay % 60 := by
    simp only [startOfMinute, secondOfDay]
    omega
  have hour : (instant.secondOfDay - instant.secondOfDay % 60) / 3600 =
      instant.secondOfDay / 3600 := by omega
  have minute : (instant.secondOfDay - instant.secondOfDay % 60) / 60 % 60 =
      instant.secondOfDay / 60 % 60 := by omega
  have rest : (instant.secondOfDay - instant.secondOfDay % 60) % 60 = 0 := by omega
  have nanos : instant.startOfMinute.nanos = 0 := rfl
  simp only [clock, second, hour, minute, rest, nanos, Nat.zero_div, Nat.zero_mod, Nat.zero_add]

/-- Every date of the calendar has a beginning. -/
theorem exists_midnight
    {date : CivilDate}
    (inCalendar : date.exists? = true)
    (least : minYear ≤ date.year)
    (greatest : date.year ≤ maxYear) :
    ∃ midnight, ofCivil? date ⟨0, 0, 0, 0⟩ 0 = some midnight ∧
      midnight.date = date ∧ midnight.clock = ⟨0, 0, 0, 0⟩ := by
  have bounds := CivilDate.toDays_bounds inCalendar least greatest
  have inRange : minSeconds ≤ date.toDays * 86400 ∧ date.toDays * 86400 ≤ maxSeconds := by
    unfold minSeconds maxSeconds
    omega
  have positive : 0 < nanosPerSecond := by decide
  have day : date.toDays * 86400 / 86400 = date.toDays := by omega
  have second : date.toDays * 86400 % 86400 = 0 := by omega
  refine ⟨⟨date.toDays * 86400, 0, inRange, .inl positive⟩, ?_, ?_, ?_⟩
  · simp [ofCivil?, inCalendar, least, greatest, ofParts?, inRange, positive]
  · simp only [Instant.date, day, CivilDate.ofDays_toDays inCalendar]
  · simp only [clock, secondOfDay, second]
    decide

end Instant

namespace Part

/-- A part that is written in visible characters, and at least one of them. -/
def IsNumber : Part → Prop
  | year | month | day | hour | minute | second => True
  | fraction | blank | literal _ => False

theorem write_ne_nil
    {part : Part}
    (number : part.IsNumber)
    (date : CivilDate)
    (clock : Clock) :
    part.write date clock ≠ [] := by
  cases part with
  | year =>
      rcases yearChars_cases date.year with ⟨sign, -, written⟩ | ⟨n, -, written⟩
      · simp [write, written]
      · simp [write, written, padDigits_ne_nil]
  | month | day | hour | minute | second => exact padDigits_ne_nil _ _
  | fraction | blank | literal _ => exact number.elim

theorem isBlank_of_mem_write
    {part : Part}
    (number : part.IsNumber)
    {date : CivilDate}
    {clock : Clock}
    {c : Char}
    (member : c ∈ part.write date clock) :
    isBlank c = false := by
  cases part with
  | year => exact isBlank_of_mem_yearChars member
  | month | day | hour | minute | second =>
      exact isBlank_eq_false_of_isDigit (isDigit_of_mem_padDigits member)
  | fraction | blank | literal _ => exact number.elim

theorem isBlank_of_mem_fractionChars
    {nanos : Nat}
    {c : Char}
    (member : c ∈ fractionChars nanos) :
    isBlank c = false := by
  have behind : ∀ width n, c ∈ '.' :: padDigits width n → isBlank c = false := by
    intro width n inside
    rcases List.mem_cons.mp inside with rfl | digit
    · decide
    · exact isBlank_eq_false_of_isDigit (isDigit_of_mem_padDigits digit)
  unfold fractionChars at member
  split_ifs at member
  · cases member
  · exact behind _ _ member
  · exact behind _ _ member
  · exact behind _ _ member

end Part

namespace Layout

/-- What a layout tells of an instant: all of it, its second, or its minute. -/
def keep (layout : Layout) (instant : Instant) : Instant :=
  if .fraction ∈ layout then instant
  else if .second ∈ layout then instant.truncate
  else instant.startOfMinute

/-- Write a date alone. -/
def writeDate (layout : Layout) (date : CivilDate) : List Char :=
  layout.flatMap (Part.write date ⟨0, 0, 0, 0⟩)

/-- A written date that begins and ends with a number, and perhaps a fraction behind it, has no
blanks at its ends. -/
theorem isTrimmed_write
    {first last : Part}
    (begins : first.IsNumber)
    (middle : Layout)
    (ends : last.IsNumber)
    {tail : Layout}
    (fraction : tail = [] ∨ tail = [.fraction])
    (date : CivilDate)
    (clock : Clock) :
    IsTrimmed ((first :: (middle ++ last :: tail)).flatMap (Part.write date clock)) := by
  have visibleEnd : ∀ c ∈ (last :: tail).flatMap (Part.write date clock), isBlank c = false := by
    intro c member
    rw [List.flatMap_cons, List.mem_append] at member
    rcases member with inside | behind
    · exact Part.isBlank_of_mem_write ends inside
    · rcases fraction with rfl | rfl
      · cases behind
      · simp only [List.flatMap_cons, List.flatMap_nil, List.append_nil] at behind
        exact Part.isBlank_of_mem_fractionChars behind
  have nonempty : (last :: tail).flatMap (Part.write date clock) ≠ [] := by
    simp [Part.write_ne_nil ends]
  rw [List.flatMap_cons, List.flatMap_append]
  constructor
  · intro c head
    obtain ⟨d, others, shape⟩ := List.exists_cons_of_ne_nil (Part.write_ne_nil begins date clock)
    rw [shape] at head
    cases head
    exact Part.isBlank_of_mem_write begins (shape ▸ List.mem_cons_self)
  · intro c final
    rw [List.getLast?_append, List.getLast?_append, List.getLast?_eq_some_getLast nonempty,
      Option.some_or, Option.some_or] at final
    cases final
    exact visibleEnd _ (List.getLast_mem nonempty)

theorem readAll_write
    {layout : Layout}
    {date : CivilDate}
    {clock : Clock}
    (fits : Fits date clock)
    (apart : KeepsApart date clock layout []) :
    layout.readAll (layout.flatMap (Part.write date clock)) =
      some (notes date clock layout {}) := by
  have reads := read_write fits layout {} apart
  rw [List.append_nil] at reads
  rw [readAll, reads]

theorem beginsVisible_padDigits (width n : Nat) (rest : List Char) :
    BeginsVisible (padDigits width n ++ rest) := by
  obtain ⟨c, digits, shape, digit⟩ := exists_padDigits_eq_cons width n
  rw [shape]
  intro d head
  cases head
  exact isBlank_eq_false_of_isDigit digit

end Layout

/-- The first layout that fits decides. -/
theorem readLayouts?_of_refused
    (earlier : List Layout)
    {later : List Layout}
    {layout : Layout}
    {instantOf : Fields → Option Instant}
    {cs : List Char}
    {instant : Instant}
    (refused : ∀ layout ∈ earlier, layout.readAll cs = none)
    (reads : (layout.readAll cs).bind instantOf = some instant) :
    readLayouts? (earlier ++ layout :: later) instantOf cs = some instant := by
  have before : earlier.findSome? (fun layout => (layout.readAll cs).bind instantOf) = none :=
    readLayouts?_eq_none refused instantOf
  rw [readLayouts?, List.findSome?_append, before, Option.none_or, List.findSome?_cons, reads]

/-! ## Dates with a time of day -/

namespace Layout

/-- The layout in which blanks stand between a date and its time of day. -/
def spaced : Layout := isoDate ++ [.blank] ++ isoClock

/-- The layout in which the second is left out. -/
def toMinute : Layout := isoDate ++ [.blank, .hour, .literal ':', .minute]

/-- There is a layout with a letter and one with blanks, both with and without a fraction, and one
without seconds. -/
theorem dateTimes_eq :
    dateTimes = [canonical, canonical ++ [.fraction], spaced, spaced ++ [.fraction], toMinute] :=
  rfl

theorem exists_letter
    {layout : Layout}
    (member : layout ∈ [canonical, canonical ++ [Part.fraction]]) :
    ∃ back, layout = isoDate ++ .literal 'T' :: back := by
  simp only [List.mem_cons, List.not_mem_nil, or_false] at member
  rcases member with rfl | rfl
  · exact ⟨isoClock, rfl⟩
  · exact ⟨isoClock ++ [.fraction], rfl⟩

theorem exists_second
    {layout : Layout}
    (member : layout ∈ [spaced, spaced ++ [Part.fraction]]) :
    ∃ back, layout = toMinute ++ .literal ':' :: back := by
  simp only [List.mem_cons, List.not_mem_nil, or_false] at member
  rcases member with rfl | rfl
  · exact ⟨[.second], rfl⟩
  · exact ⟨[.second, .fraction], rfl⟩

theorem keepsApart_append
    {date : CivilDate}
    {clock : Clock}
    {front back : Layout}
    {rest : List Char} :
    KeepsApart date clock (front ++ back) rest ↔
      KeepsApart date clock front (back.flatMap (Part.write date clock) ++ rest) ∧
        KeepsApart date clock back rest := by
  induction front with
  | nil => simp [KeepsApart]
  | cons part parts inductionHypothesis =>
      simp [KeepsApart, inductionHypothesis, List.flatMap_append, and_assoc]

section

variable
  (date : CivilDate)
  (clock : Clock)

theorem keepsApart_isoDate (rest : List Char) : KeepsApart date clock isoDate rest := by
  simp [isoDate, KeepsApart, Part.Stops, Part.write]

theorem keepsApart_canonical (rest : List Char) : KeepsApart date clock canonical rest := by
  simp [canonical, isoDate, isoClock, KeepsApart, Part.Stops, Part.write]

theorem keepsApart_spaced (rest : List Char) : KeepsApart date clock spaced rest := by
  simp [spaced, isoDate, isoClock, KeepsApart, Part.Stops, Part.write, beginsVisible_padDigits]

theorem keepsApart_toMinute (rest : List Char) : KeepsApart date clock toMinute rest := by
  simp [toMinute, isoDate, KeepsApart, Part.Stops, Part.write, beginsVisible_padDigits]

/-- Parts keep apart from a fraction at the end as they keep apart from any text. -/
theorem keepsApart_fraction
    {layout : Layout}
    (apart : ∀ rest, KeepsApart date clock layout rest) :
    KeepsApart date clock (layout ++ [Part.fraction]) [] := by
  have ends : Part.fraction.Stops [] := ⟨endsNumber_nil, by simp⟩
  exact keepsApart_append.mpr ⟨apart _, ends, trivial⟩

theorem flatMap_write_fraction (layout : Layout) :
    (layout ++ [Part.fraction]).flatMap (Part.write date clock) =
      layout.flatMap (Part.write date clock) ++ fractionChars clock.nanos := by
  simp [Part.write]

end

section

variable
  {date : CivilDate}
  {clock : Clock}
  (fits : Fits date clock)

include fits

/-- Where a blank stands before the time of day, a layout with a letter there is refused. -/
theorem readAll_letter
    (back : Layout)
    (rest : List Char) :
    readAll (isoDate ++ .literal 'T' :: back)
      (isoDate.flatMap (Part.write date clock) ++ ' ' :: rest) = none :=
  readAll_of_other fits back (keepsApart_isoDate _ _ _) (by simp)

/-- Where a time of day ends with its minute, a layout with seconds is refused. -/
theorem readAll_second_toMinute (back : Layout) :
    readAll (toMinute ++ .literal ':' :: back) (toMinute.flatMap (Part.write date clock)) =
      none := by
  have refused :=
    readAll_of_other fits (c := ':') back (keepsApart_toMinute date clock []) (by simp)
  rw [List.append_nil] at refused
  exact refused

/-- Where a fraction is written, the layout without it is refused. -/
theorem readAll_of_fraction
    {layout : Layout}
    (apart : ∀ rest, KeepsApart date clock layout rest)
    (written : clock.nanos ≠ 0) :
    readAll layout ((layout ++ [Part.fraction]).flatMap (Part.write date clock)) = none := by
  have point : ∃ digits, fractionChars clock.nanos = '.' :: digits := by
    unfold fractionChars
    rw [if_neg written]
    split_ifs <;> exact ⟨_, rfl⟩
  obtain ⟨digits, shape⟩ := point
  rw [flatMap_write_fraction, shape]
  exact readAll_of_leftover fits (apart _)

/-- A date with a time of day and a fraction is read by the layout with the fraction, or by the one
without it that is tried before where no fraction is written. -/
theorem readLayouts?_fraction
    (earlier : List Layout)
    {later : List Layout}
    {layout : Layout}
    (apart : ∀ rest, KeepsApart date clock layout rest)
    (refused : ∀ other ∈ earlier,
      other.readAll ((layout ++ [Part.fraction]).flatMap (Part.write date clock)) = none)
    (same : clock.nanos = 0 →
      notes date clock (layout ++ [Part.fraction]) {} = notes date clock layout {})
    {instant : Instant}
    (put : (notes date clock (layout ++ [Part.fraction]) {}).instant? 0 = some instant) :
    readLayouts? (earlier ++ layout :: (layout ++ [Part.fraction]) :: later) (·.instant? 0)
      ((layout ++ [Part.fraction]).flatMap (Part.write date clock)) = some instant := by
  by_cases written : clock.nanos = 0
  · refine readLayouts?_of_refused earlier refused ?_
    have nothing : fractionChars 0 = [] := rfl
    rw [flatMap_write_fraction, written, nothing, List.append_nil,
      readAll_write fits (apart []), Option.bind_some, ← same written]
    exact put
  · have before : ∀ other ∈ earlier ++ [layout],
        other.readAll ((layout ++ [Part.fraction]).flatMap (Part.write date clock)) = none := by
      intro other member
      rcases List.mem_append.mp member with inside | last
      · exact refused other inside
      · rw [List.mem_singleton.mp last]
        exact readAll_of_fraction fits apart written
    rw [← List.singleton_append (x := layout), ← List.append_assoc]
    refine readLayouts?_of_refused (earlier ++ [layout]) before ?_
    rw [readAll_write fits (keepsApart_fraction date clock apart)]
    exact put

/-- A date with a time of day is read by its own layout, or by one that says the same. -/
theorem readLayouts?_dateTimes
    {layout : Layout}
    (member : layout ∈ dateTimes)
    {instant : Instant}
    (put : (notes date clock layout {}).instant? 0 = some instant) :
    readLayouts? dateTimes (·.instant? 0) (layout.flatMap (Part.write date clock)) =
      some instant := by
  have letters : ∀ layout back : Layout, layout = isoDate ++ Part.blank :: back →
      ∀ other ∈ [canonical, canonical ++ [Part.fraction]],
        other.readAll (layout.flatMap (Part.write date clock)) = none := by
    rintro layout back rfl other member
    have blank : (isoDate ++ Part.blank :: back).flatMap (Part.write date clock) =
        isoDate.flatMap (Part.write date clock) ++ ' ' :: back.flatMap (Part.write date clock) := by
      simp [Part.write]
    obtain ⟨others, rfl⟩ := exists_letter member
    rw [blank]
    exact readAll_letter fits others _
  rw [dateTimes_eq] at member ⊢
  simp only [List.mem_cons, List.not_mem_nil, or_false] at member
  rcases member with rfl | rfl | rfl | rfl | rfl
  · refine readLayouts?_of_refused [] (by simp) ?_
    rw [readAll_write fits (keepsApart_canonical date clock [])]
    exact put
  · refine readLayouts?_fraction fits [] (keepsApart_canonical date clock) (by simp)
      (fun whole => ?_) put
    simp [notes, Part.note, whole, canonical, isoDate, isoClock]
  · refine readLayouts?_of_refused [canonical, canonical ++ [.fraction]]
      (letters spaced isoClock rfl) ?_
    rw [readAll_write fits (keepsApart_spaced date clock [])]
    exact put
  · refine readLayouts?_fraction fits [canonical, canonical ++ [.fraction]]
      (keepsApart_spaced date clock)
      (letters (spaced ++ [.fraction]) (isoClock ++ [.fraction]) rfl) (fun whole => ?_) put
    simp [notes, Part.note, whole, spaced, isoDate, isoClock]
  · refine readLayouts?_of_refused
      ([canonical, canonical ++ [.fraction]] ++ [spaced, spaced ++ [.fraction]]) ?_ ?_
    · refine List.forall_mem_append.mpr ⟨letters toMinute [.hour, .literal ':', .minute] rfl, ?_⟩
      intro other member
      obtain ⟨others, rfl⟩ := exists_second member
      exact readAll_second_toMinute fits others
    · rw [readAll_write fits (keepsApart_toMinute date clock [])]
      exact put

/-- A date with a time of day has no offset, and so is no timestamp. -/
theorem readStrict?_dateTimes
    {layout : Layout}
    (member : layout ∈ dateTimes) :
    Timestamp.readStrict? (layout.flatMap (Part.write date clock)) = none := by
  have positive : 0 < nanosPerSecond := by decide
  have whole : Fits date { clock with nanos := 0 } := { fits with nanos := positive }
  have nothing : fractionChars 0 = [] := rfl
  have letter := Timestamp.readStrict?_of_no_offset (c := 'T') fits (.inl rfl)
  have blank := Timestamp.readStrict?_of_no_offset (c := ' ') fits (.inr (.inr rfl))
  have letterWhole := Timestamp.readStrict?_of_no_offset (c := 'T') whole (.inl rfl)
  have blankWhole := Timestamp.readStrict?_of_no_offset (c := ' ') whole (.inr (.inr rfl))
  have minute := Timestamp.readStrict?_of_no_second (c := ' ') fits (.inr (.inr rfl))
  simp only [nothing] at letterWhole blankWhole
  rw [dateTimes_eq] at member
  simp only [List.mem_cons, List.not_mem_nil, or_false] at member
  rcases member with rfl | rfl | rfl | rfl | rfl
  · simpa [canonical, isoDate, isoClock, Part.write] using letterWhole
  · simpa [canonical, isoDate, isoClock, Part.write] using letter
  · simpa [spaced, isoDate, isoClock, Part.write] using blankWhole
  · simpa [spaced, isoDate, isoClock, Part.write] using blank
  · simpa [toMinute, isoDate, Part.write] using minute

/-- A date with a time of day is taken for nothing but what its layout tells. -/
theorem readAbsolute?_dateTimes
    {layout : Layout}
    (member : layout ∈ dateTimes)
    {instant : Instant}
    (put : (notes date clock layout {}).instant? 0 = some instant) :
    readAbsolute? (layout.flatMap (Part.write date clock)) = some instant := by
  obtain ⟨back, rfl, -⟩ := exists_of_mem_dateTimes member
  have mail : MailDate.read? ((yearFirst '-' ++ back).flatMap (Part.write date clock)) = none :=
    MailDate.read?_yearChars date.year _
  simp only [readAbsolute?, readStrict?_dateTimes fits member, mail,
    readLayouts?_dateTimes fits member put]
  rfl

/-! ## Dates alone -/

/-- A date alone is refused by a layout with blanks and an hour behind it. -/
theorem readAll_hour_isoDate (back : Layout) :
    readAll (isoDate ++ .blank :: .hour :: back) (isoDate.flatMap (Part.write date clock)) =
      none := by
  have reads := read_append fits (.blank :: .hour :: back) {} (keepsApart_isoDate date clock [])
  rw [List.append_nil] at reads
  rw [readAll, reads]
  rfl

/-- A date alone is refused by the layouts with a time of day. -/
theorem readAll_dateTimes_isoDate
    {other : Layout}
    (member : other ∈ dateTimes) :
    other.readAll (isoDate.flatMap (Part.write date clock)) = none := by
  have letter : ∀ back, readAll (isoDate ++ .literal 'T' :: back)
      (isoDate.flatMap (Part.write date clock)) = none := by
    intro back
    have refused := readAll_of_other fits (c := 'T') back (keepsApart_isoDate date clock [])
      (by simp)
    rw [List.append_nil] at refused
    exact refused
  have others : dateTimes = [canonical, canonical ++ [.fraction]] ++
      [isoDate ++ .blank :: .hour :: isoClock.tail,
        isoDate ++ .blank :: .hour :: (isoClock.tail ++ [.fraction]),
        isoDate ++ .blank :: .hour :: [.literal ':', .minute]] := rfl
  rw [others, List.mem_append] at member
  rcases member with member | member
  · obtain ⟨back, rfl⟩ := exists_letter member
    exact letter back
  · simp only [List.mem_cons, List.not_mem_nil, or_false] at member
    rcases member with rfl | rfl | rfl
    all_goals exact readAll_hour_isoDate fits _

/-- A date with slashes and its year in front is refused by every layout that wants a hyphen behind
the year. -/
theorem readAll_of_slashes (back : Layout) :
    readAll (.year :: .literal '-' :: back) ((yearFirst '/').flatMap (Part.write date clock)) =
      none := by
  have shape : (yearFirst '/').flatMap (Part.write date clock) =
      [Part.year].flatMap (Part.write date clock) ++
        '/' :: (padDigits 2 date.month ++ '/' :: padDigits 2 date.day) := by
    simp [yearFirst, Part.write]
  have apart : ∀ rest, KeepsApart date clock [.year] ('/' :: rest) := by
    simp [KeepsApart, Part.Stops]
  rw [shape]
  exact readAll_of_other fits (c := '-') back (apart _) (by simp)

/-- A date with hyphens and its month in front is refused by the layout that wants slashes. -/
theorem readAll_slashes_monthFirst :
    readAll (monthFirst '/') ((monthFirst '-').flatMap (Part.write date clock)) = none := by
  have shape : (monthFirst '-').flatMap (Part.write date clock) =
      [Part.month].flatMap (Part.write date clock) ++
        '-' :: (padDigits 2 date.day ++ '-' :: yearChars date.year) := by
    simp [monthFirst, Part.write]
  have apart : ∀ rest, KeepsApart date clock [.month] rest := by
    simp [KeepsApart, Part.Stops]
  have parts : monthFirst '/' = [.month] ++ .literal '/' :: [.day, .literal '/', .year] := rfl
  rw [shape, parts]
  exact readAll_of_other fits _ (apart _) (by simp)

/-- A date is read by its own layout. -/
theorem readAll_dates
    {layout : Layout}
    (member : layout ∈ dates) :
    layout.readAll (layout.flatMap (Part.write date clock)) =
      some { year := some date.year, month := some date.month, day := some date.day } := by
  simp only [dates, List.mem_cons, List.not_mem_nil, or_false] at member
  rcases member with rfl | rfl | rfl | rfl
  all_goals
    refine readAll_write fits ?_
    simp [isoDate, KeepsApart, Part.Stops, Part.write]

/-- The layouts with a time of day and the dates that are tried before refuse a date alone. -/
theorem readLayouts?_dates
    {layout : Layout}
    (member : layout ∈ dates)
    {instant : Instant}
    (put : Instant.ofCivil? date ⟨0, 0, 0, 0⟩ 0 = some instant) :
    readLayouts? dateTimes (·.instant? 0) (layout.flatMap (Part.write date clock)) = none ∧
      readLayouts? dates (·.midnight?) (layout.flatMap (Part.write date clock)) =
        some instant := by
  have dates_eq : dates = [isoDate, yearFirst '/', monthFirst '/', monthFirst '-'] := rfl
  have reads : ((layout.readAll (layout.flatMap (Part.write date clock))).bind (·.midnight?)) =
      some instant := by
    rw [readAll_dates fits member]
    exact put
  rw [dates_eq] at member ⊢
  simp only [List.mem_cons, List.not_mem_nil, or_false] at member
  rcases member with rfl | rfl | rfl | rfl
  · refine ⟨readLayouts?_eq_none (fun _ => readAll_dateTimes_isoDate fits) _, ?_⟩
    exact readLayouts?_of_refused [] (by simp) reads
  · refine ⟨readLayouts?_eq_none (fun other inside => ?_) _, ?_⟩
    · obtain ⟨back, rfl, -⟩ := exists_of_mem_dateTimes inside
      exact readAll_of_slashes fits _
    · refine readLayouts?_of_refused [isoDate] ?_ reads
      exact List.forall_mem_singleton.mpr (readAll_of_slashes fits _)
  · have hyphens : ∀ back, readAll (.year :: .literal '-' :: back)
        ((monthFirst '/').flatMap (Part.write date clock)) = none :=
      readAll_year_of_monthFirst fits (by decide) (by decide)
    refine ⟨readLayouts?_eq_none (fun other inside => ?_) _, ?_⟩
    · obtain ⟨back, rfl, -⟩ := exists_of_mem_dateTimes inside
      exact hyphens _
    · refine readLayouts?_of_refused [isoDate, yearFirst '/'] ?_ reads
      refine List.forall_mem_cons.mpr ⟨hyphens _, List.forall_mem_singleton.mpr ?_⟩
      exact readAll_yearFirst_append fits (by decide) refusesDigits_nil
  · refine ⟨readLayouts?_eq_none (fun other inside => ?_) _, ?_⟩
    · obtain ⟨back, rfl, refuses⟩ := exists_of_mem_dateTimes inside
      exact readAll_yearFirst_append fits (by decide) refuses
    · refine readLayouts?_of_refused [isoDate, yearFirst '/', monthFirst '/'] ?_ reads
      refine List.forall_mem_cons.mpr
        ⟨readAll_yearFirst_append fits (by decide) refusesDigits_nil, ?_⟩
      refine List.forall_mem_cons.mpr
        ⟨readAll_year_of_monthFirst fits (by decide) (by decide) _, ?_⟩
      exact List.forall_mem_singleton.mpr (readAll_slashes_monthFirst fits)

/-- A date alone is no timestamp and no mail date. -/
theorem refused_dates
    {layout : Layout}
    (member : layout ∈ dates) :
    Timestamp.readStrict? (layout.flatMap (Part.write date clock)) = none ∧
      MailDate.read? (layout.flatMap (Part.write date clock)) = none := by
  simp only [dates, List.mem_cons, List.not_mem_nil, or_false] at member
  rcases member with rfl | rfl | rfl | rfl
  · exact ⟨Timestamp.readStrict?_isoDate fits, MailDate.read?_yearChars date.year _⟩
  · exact ⟨Timestamp.readStrict?_of_other_mark date.year (by simp [Part.write]),
      MailDate.read?_yearChars date.year _⟩
  · exact ⟨Timestamp.readStrict?_of_two_digits fits.month (by simp [Part.write]),
      MailDate.read?_padDigits fits.month (by decide) _⟩
  · exact ⟨Timestamp.readStrict?_of_two_digits fits.month (by simp [Part.write]),
      MailDate.read?_padDigits fits.month (by decide) _⟩

/-- A date alone is taken for nothing but the beginning of its day. -/
theorem readAbsolute?_dates
    {layout : Layout}
    (member : layout ∈ dates)
    {instant : Instant}
    (put : Instant.ofCivil? date ⟨0, 0, 0, 0⟩ 0 = some instant) :
    readAbsolute? (layout.flatMap (Part.write date clock)) = some instant := by
  obtain ⟨strict, mail⟩ := refused_dates fits member
  obtain ⟨before, reads⟩ := readLayouts?_dates fits member put
  simp only [readAbsolute?, strict, mail, before, reads]
  rfl

end

/-! ## Every layout -/

theorem exists_ends
    {layout : Layout}
    (member : layout ∈ dateTimes ++ dates) :
    ∃ (first last : Part) (middle tail : Layout), first.IsNumber ∧ last.IsNumber ∧
      (tail = [] ∨ tail = [.fraction]) ∧ layout = first :: (middle ++ last :: tail) := by
  have layouts : dateTimes ++ dates =
      [canonical, canonical ++ [.fraction], spaced, spaced ++ [.fraction], toMinute,
        isoDate, yearFirst '/', monthFirst '/', monthFirst '-'] := rfl
  rw [layouts] at member
  simp only [List.mem_cons, List.not_mem_nil, or_false] at member
  rcases member with rfl | rfl | rfl | rfl | rfl | rfl | rfl | rfl | rfl
  · exact ⟨.year, .second, canonical.tail.dropLast, [], trivial, trivial, .inl rfl, rfl⟩
  · exact ⟨.year, .second, canonical.tail.dropLast, _, trivial, trivial, .inr rfl, rfl⟩
  · exact ⟨.year, .second, spaced.tail.dropLast, [], trivial, trivial, .inl rfl, rfl⟩
  · exact ⟨.year, .second, spaced.tail.dropLast, _, trivial, trivial, .inr rfl, rfl⟩
  · exact ⟨.year, .minute, toMinute.tail.dropLast, [], trivial, trivial, .inl rfl, rfl⟩
  · exact ⟨.year, .day, isoDate.tail.dropLast, [], trivial, trivial, .inl rfl, rfl⟩
  · exact ⟨.year, .day, (yearFirst '/').tail.dropLast, [], trivial, trivial, .inl rfl, rfl⟩
  · exact ⟨.month, .year, (monthFirst '/').tail.dropLast, [], trivial, trivial, .inl rfl, rfl⟩
  · exact ⟨.month, .year, (monthFirst '-').tail.dropLast, [], trivial, trivial, .inl rfl, rfl⟩

section

variable
  (date : CivilDate)
  (clock : Clock)

/-- What a layout with a time of day tells is the second, the whole of the clock, or the minute. -/
theorem instant?_notes_canonical :
    (notes date clock canonical {}).instant? 0 =
      Instant.ofCivil? date { clock with nanos := 0 } 0 := rfl

theorem instant?_notes_spaced :
    (notes date clock spaced {}).instant? 0 =
      Instant.ofCivil? date { clock with nanos := 0 } 0 := rfl

theorem instant?_notes_toMinute :
    (notes date clock toMinute {}).instant? 0 =
      Instant.ofCivil? date { clock with second := 0, nanos := 0 } 0 := rfl

theorem instant?_notes_fraction
    {layout : Layout}
    (seconds : layout = canonical ∨ layout = spaced) :
    (notes date clock (layout ++ [.fraction]) {}).instant? 0 =
      Instant.ofCivil? date clock 0 := by
  have nanos : (if clock.nanos = 0 then none else some clock.nanos).getD 0 = clock.nanos := by
    split
    · next zero => exact zero.symm
    · rfl
  have put : (notes date clock (layout ++ [.fraction]) {}).instant? 0 =
      Instant.ofCivil? date { clock with
        nanos := (if clock.nanos = 0 then none else some clock.nanos).getD 0 } 0 := by
    rcases seconds with rfl | rfl <;> rfl
  rw [put, nanos]

end

/-- What a layout tells of an instant is enough to put together what it keeps of it. -/
theorem instant?_notes
    {layout : Layout}
    (member : layout ∈ dateTimes)
    (instant : Instant) :
    (notes instant.date instant.clock layout {}).instant? 0 = some (layout.keep instant) := by
  have second : Instant.ofCivil? instant.date { instant.clock with nanos := 0 } 0 =
      some instant.truncate := by
    rw [← instant.date_truncate, ← instant.clock_truncate]
    exact instant.truncate.ofCivil?_date_clock
  have minute : Instant.ofCivil? instant.date { instant.clock with second := 0, nanos := 0 } 0 =
      some instant.startOfMinute := by
    rw [← instant.date_startOfMinute, ← instant.clock_startOfMinute]
    exact instant.startOfMinute.ofCivil?_date_clock
  rw [dateTimes_eq] at member
  simp only [List.mem_cons, List.not_mem_nil, or_false] at member
  rcases member with rfl | rfl | rfl | rfl | rfl
  · rw [instant?_notes_canonical, second, keep, if_neg (by decide), if_pos (by decide)]
  · rw [instant?_notes_fraction _ _ (.inl rfl), instant.ofCivil?_date_clock, keep,
      if_pos (by decide)]
  · rw [instant?_notes_spaced, second, keep, if_neg (by decide), if_pos (by decide)]
  · rw [instant?_notes_fraction _ _ (.inr rfl), instant.ofCivil?_date_clock, keep,
      if_pos (by decide)]
  · rw [instant?_notes_toMinute, minute, keep, if_neg (by decide), if_neg (by decide)]

end Layout

/-- Between blanks, a text is read as it is without them. -/
theorem read_padded
    (now : Instant)
    {before item after : List Char}
    (blanksBefore : ∀ c ∈ before, isBlank c = true)
    (trimmed : IsTrimmed item)
    (blanksAfter : ∀ c ∈ after, isBlank c = true)
    (nonempty : item ≠ [])
    {instant : Instant}
    (absolute : readAbsolute? item = some instant) :
    read now (String.ofList (before ++ (item ++ after))) = .ok instant := by
  have visible : item.isEmpty = false := by simpa using nonempty
  simp only [read, String.toList_ofList, trim_padded blanksBefore trimmed blanksAfter, visible,
    absolute]
  rfl

/-- Whenever it is read and between any blanks, a date with a time of day is read as what its layout
tells of the instant for which it was written, a leap second included, and a date alone as the
beginning of its day. -/
theorem read_written
    (now : Instant)
    {before after : List Char}
    (blanksBefore : ∀ c ∈ before, isBlank c = true)
    (blanksAfter : ∀ c ∈ after, isBlank c = true) :
    (∀ layout ∈ Layout.dateTimes, ∀ instant : Instant,
      read now (String.ofList (before ++ (layout.write instant ++ after))) =
        .ok (layout.keep instant)) ∧
    (∀ layout ∈ Layout.dates, ∀ date : CivilDate, date.exists? = true →
      Instant.minYear ≤ date.year → date.year ≤ Instant.maxYear →
        ∃ midnight : Instant,
          midnight.date = date ∧ midnight.clock = ⟨0, 0, 0, 0⟩ ∧
          read now (String.ofList (before ++ (layout.writeDate date ++ after))) =
            .ok midnight) := by
  have written : ∀ layout ∈ Layout.dateTimes ++ Layout.dates, ∀ date clock,
      IsTrimmed (layout.flatMap (Part.write date clock)) ∧
        layout.flatMap (Part.write date clock) ≠ [] := by
    intro layout member date clock
    obtain ⟨first, last, middle, tail, begins, ends, fraction, rfl⟩ := Layout.exists_ends member
    exact ⟨Layout.isTrimmed_write begins middle ends fraction date clock,
      by simp [Part.write_ne_nil begins]⟩
  constructor
  · intro layout member instant
    obtain ⟨trimmed, nonempty⟩ :=
      written layout (List.mem_append_left _ member) instant.date instant.clock
    exact read_padded now blanksBefore trimmed blanksAfter nonempty
      (Layout.readAbsolute?_dateTimes instant.fits member (Layout.instant?_notes member instant))
  · intro layout member date inCalendar least greatest
    obtain ⟨midnight, put, sameDate, sameClock⟩ :=
      Instant.exists_midnight inCalendar least greatest
    obtain ⟨trimmed, nonempty⟩ := written layout (List.mem_append_right _ member) date ⟨0, 0, 0, 0⟩
    obtain ⟨-, month, -, day⟩ := CivilDate.bounds_of_exists? inCalendar
    have fits : Fits date ⟨0, 0, 0, 0⟩ :=
      ⟨by omega, by omega, by decide, by decide, by decide, by decide⟩
    exact ⟨midnight, sameDate, sameClock, read_padded now blanksBefore trimmed blanksAfter nonempty
      (Layout.readAbsolute?_dates fits member put)⟩

/-- The middle of the last leap second that the calendar could have. -/
def lastLeapSecond : Instant :=
  ⟨maxSeconds, 1500000000, by decide, by decide⟩

/-- A leap second behind every other, and a day before year 0, between two blanks and a line end. -/
theorem read_written_far :
    read Instant.epoch " \u2003+262142-12-31 23:59:60.500\n" = .ok lastLeapSecond ∧
      ∃ midnight : Instant, midnight.date = ⟨-5, 2, 1⟩ ∧ midnight.clock = ⟨0, 0, 0, 0⟩ ∧
        read Instant.epoch " \u200302/01/-0005\n" = .ok midnight := by
  obtain ⟨dateTimes, dates⟩ := read_written Instant.epoch
    (show ∀ c ∈ " \u2003".toList, isBlank c = true from List.all_eq_true.mp (by decide))
    (show ∀ c ∈ "\n".toList, isBlank c = true from List.all_eq_true.mp (by decide))
  have leap := dateTimes (Layout.spaced ++ [.fraction]) (by decide) lastLeapSecond
  have day := dates (Layout.monthFirst '/') (by decide) ⟨-5, 2, 1⟩ (by decide) (by decide)
    (by decide)
  have leapText : String.ofList (" \u2003".toList ++
      (Layout.write (Layout.spaced ++ [.fraction]) lastLeapSecond ++ "\n".toList)) =
      " \u2003+262142-12-31 23:59:60.500\n" := by decide +kernel
  have dayText : String.ofList (" \u2003".toList ++
      (Layout.writeDate (Layout.monthFirst '/') ⟨-5, 2, 1⟩ ++ "\n".toList)) =
      " \u200302/01/-0005\n" := by decide +kernel
  rw [leapText] at leap
  rw [dayText] at day
  exact ⟨leap, day⟩

end Time
end ThreatIntel
