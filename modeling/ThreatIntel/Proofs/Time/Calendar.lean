import ThreatIntel.Time.Instant

/-!
# Days and dates

The date of a day exists, and the days from 1970 to that date are those that were counted: `ofDays`
and `toDays` are inverse to each other on the dates that exist.
-/

namespace ThreatIntel
namespace Time

/-- Number of days in a year. -/
def yearLength (leap : Bool) : Nat :=
  if leap then 366 else 365

/-- A year has the length that the first days of the years tell. -/
theorem daysBeforeYear_succ (year : Int) :
    daysBeforeYear (year + 1) = daysBeforeYear year + yearLength (isLeapYear year) := by
  unfold daysBeforeYear yearLength isLeapYear
  by_cases four : year % 4 = 0 <;> by_cases hundred : year % 100 = 0 <;>
    by_cases fourHundred : year % 400 = 0 <;> simp [four, hundred, fourHundred] <;> omega

/-- Later years begin later. -/
theorem daysBeforeYear_mono
    {earlier later : Int}
    (order : earlier ≤ later) :
    daysBeforeYear earlier ≤ daysBeforeYear later := by
  obtain ⟨years, rfl⟩ := Int.le.dest order
  clear order
  induction years with
  | zero => simp
  | succ years inductionHypothesis =>
      have next := daysBeforeYear_succ (earlier + years)
      rw [show earlier + (years + 1 : Nat) = earlier + years + 1 by omega, next]
      omega

section Cycle

variable
  {cycle : Int}
  {century quad year : Nat}

/-- The first day of a year, which lies in a cycle of 400 years, a century of it, a group of four
years of that, and is a year of the group. -/
theorem daysBeforeYear_place
    (centuries : century ≤ 3)
    (quads : quad ≤ 24)
    (years : year ≤ 3) :
    daysBeforeYear (cycle * 400 + century * 100 + quad * 4 + year + 1) =
      cycle * 146097 + century * 36524 + quad * 1461 + year * 365 := by
  unfold daysBeforeYear
  omega

/-- The last year of a group is a leap year, but for the last group of the first three centuries. -/
theorem isLeapYear_place
    (quads : quad ≤ 24)
    (last : quad < 24 ∨ century = 3) :
    isLeapYear (cycle * 400 + century * 100 + quad * 4 + (3 : Nat) + 1) = true := by
  simp only [isLeapYear, Bool.and_eq_true, beq_iff_eq, Bool.or_eq_true, bne_iff_ne]
  omega

end Cycle

theorem yearLength_le (leap : Bool) : 365 ≤ yearLength leap ∧ yearLength leap ≤ 366 := by
  cases leap <;> decide

/-- The year of a day begins before the day and is long enough for it. -/
theorem yearOfDay_spec (day : Int) :
    daysBeforeYear (yearOfDay day).1 + (yearOfDay day).2 = day ∧
      (yearOfDay day).2 < yearLength (isLeapYear (yearOfDay day).1) := by
  have inCycle : day = day / 146097 * 146097 + (day % 146097).toNat := by omega
  have short : (day % 146097).toNat < 146097 := by omega
  unfold yearOfDay
  generalize day / 146097 = cycle at *
  generalize (day % 146097).toNat = rest at *
  simp only
  generalize centuryEq : min (rest / 36524) 3 = century
  have centuries : century ≤ 3 := by omega
  generalize inCenturyEq : rest - century * 36524 = inCentury
  generalize quadEq : inCentury / 1461 = quad
  have quads : quad ≤ 24 := by omega
  generalize inQuadEq : inCentury - quad * 1461 = inQuad
  generalize yearEq : min (inQuad / 365) 3 = year
  have years : year ≤ 3 := by omega
  refine ⟨?_, ?_⟩
  · rw [daysBeforeYear_place centuries quads years]
    omega
  · by_cases last : inQuad = 1460
    · -- The day is the last of four years, the last of which is therefore a leap year.
      have three : year = 3 := by omega
      have leap : isLeapYear (cycle * 400 + century * 100 + quad * 4 + (3 : Nat) + 1) = true :=
        isLeapYear_place quads (by omega)
      rw [three, leap]
      simp only [yearLength, if_true]
      omega
    · have least := (yearLength_le (isLeapYear
        (cycle * 400 + century * 100 + quad * 4 + year + 1))).1
      omega

/-- The month of a day of the year begins before the day and is long enough for it. -/
theorem monthOfDay_spec
    (leap : Bool)
    {ordinal : Nat}
    (inYear : ordinal < yearLength leap) :
    1 ≤ monthOfDay leap ordinal ∧ monthOfDay leap ordinal ≤ 12 ∧
      daysBeforeMonth leap (monthOfDay leap ordinal) ≤ ordinal ∧
      ordinal < daysBeforeMonth leap (monthOfDay leap ordinal) +
        monthLength leap (monthOfDay leap ordinal) := by
  -- There are two kinds of years, and each day of both is looked up.
  have table : ∀ leap : Bool, ∀ day : Fin (yearLength leap),
      1 ≤ monthOfDay leap day ∧ monthOfDay leap day ≤ 12 ∧
        daysBeforeMonth leap (monthOfDay leap day) ≤ day ∧
        day < daysBeforeMonth leap (monthOfDay leap day) +
          monthLength leap (monthOfDay leap day) := by
    decide +kernel
  exact table leap ⟨ordinal, inYear⟩

namespace CivilDate

theorem exists?_iff (date : CivilDate) :
    date.exists? = true ↔ 1 ≤ date.month ∧ date.month ≤ 12 ∧ 1 ≤ date.day ∧
      date.day ≤ monthLength (isLeapYear date.year) date.month := by
  simp [exists?, and_assoc]

/-- The date of a day is in the calendar. -/
theorem exists?_ofDays (days : Int) : (ofDays days).exists? = true := by
  obtain ⟨-, inYear⟩ := yearOfDay_spec (days + epochDays)
  obtain ⟨least, greatest, begins, ends⟩ := monthOfDay_spec _ inYear
  rw [exists?_iff]
  simp only [ofDays]
  omega

/-- The date of a day is as many days from 1970 as were counted. -/
theorem toDays_ofDays (days : Int) : (ofDays days).toDays = days := by
  obtain ⟨before, inYear⟩ := yearOfDay_spec (days + epochDays)
  obtain ⟨least, greatest, begins, ends⟩ := monthOfDay_spec _ inYear
  simp only [toDays, ofDays]
  omega

/-- A date in the calendar lies in its year. -/
theorem daysBeforeMonth_add_day_le
    {date : CivilDate}
    (inCalendar : date.exists? = true) :
    daysBeforeMonth (isLeapYear date.year) date.month + date.day ≤
      yearLength (isLeapYear date.year) := by
  have table : ∀ leap : Bool, ∀ month : Fin 13,
      daysBeforeMonth leap month + monthLength leap month ≤ yearLength leap := by
    decide
  obtain ⟨-, greatest, -, day⟩ := date.exists?_iff.mp inCalendar
  have fits := table (isLeapYear date.year) ⟨date.month, by omega⟩
  dsimp only at fits
  omega

/-- The months and days of a date in the calendar have two digits at most. -/
theorem bounds_of_exists?
    {date : CivilDate}
    (inCalendar : date.exists? = true) :
    1 ≤ date.month ∧ date.month ≤ 12 ∧ 1 ≤ date.day ∧ date.day ≤ 31 := by
  rw [exists?_iff] at inCalendar
  have length : monthLength (isLeapYear date.year) date.month ≤ 31 := by
    unfold monthLength
    split
    · split <;> omega
    all_goals omega
  omega

/-- The first and the last day of the calendar lie in its first and last year. -/
theorem year_ofDays_bounds
    {days : Int}
    (least : -96465292 ≤ days)
    (greatest : days ≤ 95026236) :
    -262143 ≤ (ofDays days).year ∧ (ofDays days).year ≤ 262142 := by
  obtain ⟨before, inYear⟩ := yearOfDay_spec (days + epochDays)
  have year : (ofDays days).year = (yearOfDay (days + epochDays)).1 := rfl
  have next := daysBeforeYear_succ (ofDays days).year
  have first : daysBeforeYear (-262143) = -96465292 + epochDays := by decide
  have behind : daysBeforeYear 262143 = 95026237 + epochDays := by decide
  rw [← year] at before inYear
  constructor
  · refine Int.not_lt.mp fun early => ?_
    have order := daysBeforeYear_mono (show (ofDays days).year + 1 ≤ -262143 by omega)
    omega
  · refine Int.not_lt.mp fun late => ?_
    have order := daysBeforeYear_mono (show 262143 ≤ (ofDays days).year by omega)
    omega

/-- The dates of the years of the calendar are days from its first to its last. -/
theorem toDays_bounds
    {date : CivilDate}
    (inCalendar : date.exists? = true)
    (least : -262143 ≤ date.year)
    (greatest : date.year ≤ 262142) :
    -96465292 ≤ date.toDays ∧ date.toDays ≤ 95026236 := by
  have inYear := daysBeforeMonth_add_day_le inCalendar
  obtain ⟨-, -, day, -⟩ := bounds_of_exists? inCalendar
  have begins := daysBeforeYear_mono least
  have ends := daysBeforeYear_mono (show date.year + 1 ≤ 262143 by omega)
  have length := daysBeforeYear_succ date.year
  have first : daysBeforeYear (-262143) = -96465292 + epochDays := by decide
  have behind : daysBeforeYear 262143 = 95026237 + epochDays := by decide
  unfold toDays
  omega

/-- A date in an earlier year is an earlier day. -/
theorem toDays_lt_of_year_lt
    {earlier later : CivilDate}
    (earlierInCalendar : earlier.exists? = true)
    (laterInCalendar : later.exists? = true)
    (order : earlier.year < later.year) :
    earlier.toDays < later.toDays := by
  have inYear := daysBeforeMonth_add_day_le earlierInCalendar
  obtain ⟨-, -, day, -⟩ := bounds_of_exists? laterInCalendar
  have length := daysBeforeYear_succ earlier.year
  have begins := daysBeforeYear_mono (show earlier.year + 1 ≤ later.year by omega)
  unfold toDays
  omega

/-- A date in an earlier month of the same year is an earlier day. -/
theorem toDays_lt_of_month_lt
    {earlier later : CivilDate}
    (earlierInCalendar : earlier.exists? = true)
    (laterInCalendar : later.exists? = true)
    (sameYear : earlier.year = later.year)
    (order : earlier.month < later.month) :
    earlier.toDays < later.toDays := by
  have table : ∀ leap : Bool, ∀ first second : Fin 13, 1 ≤ first.val → first < second →
      daysBeforeMonth leap first + monthLength leap first ≤ daysBeforeMonth leap second := by
    decide
  obtain ⟨least, -, -, inMonth⟩ := earlier.exists?_iff.mp earlierInCalendar
  obtain ⟨-, greatest, day, -⟩ := later.exists?_iff.mp laterInCalendar
  have begins := table (isLeapYear later.year) ⟨earlier.month, by omega⟩ ⟨later.month, by omega⟩
    least (Fin.mk_lt_mk.mpr order)
  rw [sameYear] at inMonth
  unfold toDays
  rw [sameYear]
  dsimp only at begins
  omega

/-- Two dates in the calendar are not the same day. -/
theorem toDays_injective
    {first second : CivilDate}
    (firstInCalendar : first.exists? = true)
    (secondInCalendar : second.exists? = true)
    (same : first.toDays = second.toDays) :
    first = second := by
  have year : first.year = second.year := by
    rcases Int.lt_trichotomy first.year second.year with earlier | equal | later
    · exact absurd same
        (Int.ne_of_lt (toDays_lt_of_year_lt firstInCalendar secondInCalendar earlier))
    · exact equal
    · exact absurd same
        (Int.ne_of_gt (toDays_lt_of_year_lt secondInCalendar firstInCalendar later))
  have month : first.month = second.month := by
    rcases Nat.lt_trichotomy first.month second.month with earlier | equal | later
    · exact absurd same
        (Int.ne_of_lt (toDays_lt_of_month_lt firstInCalendar secondInCalendar year earlier))
    · exact equal
    · exact absurd same
        (Int.ne_of_gt (toDays_lt_of_month_lt secondInCalendar firstInCalendar year.symm later))
  have day : first.day = second.day := by
    unfold toDays at same
    rw [year, month] at same
    omega
  cases first
  cases second
  congr

/-- The days from 1970 to a date in the calendar lead back to that date. -/
theorem ofDays_toDays
    {date : CivilDate}
    (inCalendar : date.exists? = true) :
    ofDays date.toDays = date :=
  toDays_injective (exists?_ofDays _) inCalendar (toDays_ofDays _)

theorem exists?_addMonths
    {date : CivilDate}
    (inCalendar : date.exists? = true)
    (months : Int) :
    (date.addMonths months).exists? = true := by
  obtain ⟨-, -, day, -⟩ := date.exists?_iff.mp inCalendar
  have length : ∀ leap month, 1 ≤ monthLength leap month := by
    intro leap month
    unfold monthLength
    split
    · split <;> omega
    all_goals omega
  have inMonth := length (isLeapYear (date.addMonths months).year) (date.addMonths months).month
  rw [exists?_iff]
  simp only [addMonths] at inMonth ⊢
  omega

/-- A date behind the last year is a later day than the last. -/
theorem toDays_of_year_behind
    {date : CivilDate}
    (inCalendar : date.exists? = true)
    (behind : 262143 ≤ date.year) :
    95026237 ≤ date.toDays := by
  obtain ⟨-, -, day, -⟩ := date.exists?_iff.mp inCalendar
  have begins := daysBeforeYear_mono behind
  have first : daysBeforeYear 262143 = 95026237 + epochDays := by decide
  unfold toDays
  omega

/-- A date before the first year is an earlier day than the first. -/
theorem toDays_of_year_before
    {date : CivilDate}
    (inCalendar : date.exists? = true)
    (before : date.year < -262143) :
    date.toDays < -96465292 := by
  have inYear := daysBeforeMonth_add_day_le inCalendar
  have ends := daysBeforeYear_mono (show date.year + 1 ≤ -262143 by omega)
  have length := daysBeforeYear_succ date.year
  have first : daysBeforeYear (-262143) = -96465292 + epochDays := by decide
  unfold toDays
  omega

end CivilDate

end Time
end ThreatIntel
