import ThreatIntel.Proofs.Time.Calendar
import ThreatIntel.Proofs.Time.Numbers
import ThreatIntel.Time.Layout

/-!
# Parts of dates

Each part of a layout is read back as it was written, in front of any text that does not run on into
it; so a layout whose parts keep apart is read back whole. The date and the time of day of an
instant, put together again, are the instant.
-/

namespace ThreatIntel
namespace Time

open Text

/-- A text that no fraction of a second runs on into. -/
def EndsFraction (rest : List Char) : Prop :=
  EndsNumber rest ∧ rest.head? ≠ some '.'

/-- A text that does not begin with a blank. -/
def BeginsVisible (rest : List Char) : Prop :=
  ∀ c ∈ rest.head?, isBlank c = false

/-- A date and a time of day whose numbers fit the widths in which they are written. -/
structure Fits (date : CivilDate) (clock : Clock) : Prop where
  month : date.month < 100
  day : date.day < 100
  hour : clock.hour < 100
  minute : clock.minute < 100
  second : clock.second < 100
  nanos : clock.nanos < nanosPerSecond

namespace Part

/-- What is known of a date after a part of it has been read. -/
def note (date : CivilDate) (clock : Clock) (fields : Fields) : Part → Fields
  | year => { fields with year := some date.year }
  | month => { fields with month := some date.month }
  | day => { fields with day := some date.day }
  | hour => { fields with hour := some clock.hour }
  | minute => { fields with minute := some clock.minute }
  | second => { fields with second := some clock.second }
  | fraction => { fields with nanos := if clock.nanos = 0 then none else some clock.nanos }
  | blank | literal _ => fields

/-- What may stand behind a part without being read with it. -/
def Stops : Part → List Char → Prop
  | year, rest => EndsNumber rest
  | fraction, rest => EndsFraction rest
  | blank, rest => BeginsVisible rest
  | month, _ | day, _ | hour, _ | minute, _ | second, _ | literal _, _ => True

theorem readShort_padDigits
    {n : Nat}
    (fits : n < 100)
    (rest : List Char) :
    readShort (padDigits 2 n ++ rest) = some (n, rest) := by
  rw [readShort, trimStart_padDigits]
  exact Scan.number_padDigits (length_natDigits_le (by decide) fits) (by decide) rest

theorem readYear_of_digit
    {c : Char}
    (digit : c.isDigit = true)
    (rest : List Char) :
    readYear (c :: rest) =
      (Scan.number 1 4 (c :: rest)).map fun (n, rest) => ((n : Int), rest) := by
  have visible : trimStart (c :: rest) = c :: rest :=
    trimStart_cons_of_not_blank (isBlank_eq_false_of_isDigit digit) rest
  unfold readYear
  rw [visible]
  split
  · next equal =>
      cases equal
      exact absurd digit (by decide)
  · next equal =>
      cases equal
      exact absurd digit (by decide)
  · rfl

/-- A year is read back with its sign. -/
theorem readYear_yearChars
    (year : Int)
    {rest : List Char}
    (ends : EndsNumber rest) :
    readYear (yearChars year ++ rest) = some (year, rest) := by
  unfold yearChars
  split
  · next short =>
      have fits : (natDigits year.toNat).length ≤ 4 :=
        length_natDigits_le (by decide) (show year.toNat < 10000 by omega)
      have reads : Scan.number 1 4 (padDigits 4 year.toNat ++ rest) = some (year.toNat, rest) :=
        Scan.number_padDigits fits (by decide) rest
      obtain ⟨c, digits, shape, digit⟩ := exists_padDigits_eq_cons 4 year.toNat
      rw [shape, List.cons_append] at reads ⊢
      rw [readYear_of_digit digit, reads, Option.map_some]
      simp only [Option.some.injEq, Prod.mk.injEq, and_true]
      omega
  · have reads : Scan.digits 1 (padDigits 4 year.natAbs ++ rest) = some (year.natAbs, rest) :=
      Scan.digits_padDigits (by decide) ends
    split
    · next negative =>
        rw [List.cons_append, readYear, trimStart_cons_of_not_blank (by decide)]
        simp only [reads, Option.map_some, Option.some.injEq, Prod.mk.injEq, and_true]
        omega
    · next positive =>
        rw [List.cons_append, readYear, trimStart_cons_of_not_blank (by decide)]
        simp only [reads, Option.map_some, Option.some.injEq, Prod.mk.injEq, and_true]
        omega

theorem dropWhile_isDigit_of_endsNumber
    {rest : List Char}
    (ends : EndsNumber rest) :
    rest.dropWhile Char.isDigit = rest := by
  cases rest with
  | nil => rfl
  | cons c rest =>
      have other : c.isDigit = false := by simpa using ends
      simp [other]

theorem fraction_padDigits
    {width n : Nat}
    (positive : 0 < width)
    (atMost : width ≤ 9)
    (fits : n < Nat.pow 10 width)
    {rest : List Char}
    (ends : EndsNumber rest) :
    Scan.fraction (padDigits width n ++ rest) = some (n * Nat.pow 10 (9 - width), rest) := by
  have length := length_padDigits_of_le (length_natDigits_le positive fits)
  have reads : Scan.number 1 9 (padDigits width n ++ rest) = some (n, rest) := by
    rw [Scan.number_append (fun _ member => isDigit_of_mem_padDigits member) (by omega)
      (.inr ⟨by omega, ends⟩), ofDigitChars_padDigits]
  have taken : (padDigits width n ++ rest).length - rest.length = width := by
    rw [List.length_append]
    omega
  simp only [Scan.fraction, reads, Option.bind_eq_bind, Option.bind_some, taken,
    dropWhile_isDigit_of_endsNumber ends]
  rfl

theorem optionalFraction_point
    {width n : Nat}
    (positive : 0 < width)
    (atMost : width ≤ 9)
    (fits : n < Nat.pow 10 width)
    {rest : List Char}
    (ends : EndsNumber rest) :
    Scan.optionalFraction ('.' :: padDigits width n ++ rest) =
      some (some (n * Nat.pow 10 (9 - width)), rest) := by
  simp only [List.cons_append, Scan.optionalFraction, fraction_padDigits positive atMost fits ends]
  rfl

/-- A fraction of a second is read back in three, six or nine digits. -/
theorem optionalFraction_fractionChars
    {nanos : Nat}
    (fits : nanos < nanosPerSecond)
    {rest : List Char}
    (ends : EndsFraction rest) :
    Scan.optionalFraction (fractionChars nanos ++ rest) =
      some (if nanos = 0 then none else some nanos, rest) := by
  unfold nanosPerSecond at fits
  by_cases zero : nanos = 0
  · simp only [fractionChars, zero, if_true, List.nil_append]
    unfold Scan.optionalFraction
    split
    · exact absurd rfl ends.2
    · rfl
  by_cases milliseconds : nanos % 1000000 = 0
  · have small : nanos / 1000000 < Nat.pow 10 3 := show nanos / 1000000 < 1000 by omega
    simp only [fractionChars, zero, milliseconds, if_false, if_true]
    rw [optionalFraction_point (by decide) (by decide) small ends.1]
    have whole : nanos / 1000000 * Nat.pow 10 (9 - 3) = nanos :=
      show nanos / 1000000 * 1000000 = nanos by omega
    rw [whole]
  by_cases microseconds : nanos % 1000 = 0
  · have small : nanos / 1000 < Nat.pow 10 6 := show nanos / 1000 < 1000000 by omega
    simp only [fractionChars, zero, milliseconds, microseconds, if_false, if_true]
    rw [optionalFraction_point (by decide) (by decide) small ends.1]
    have whole : nanos / 1000 * Nat.pow 10 (9 - 6) = nanos :=
      show nanos / 1000 * 1000 = nanos by omega
    rw [whole]
  · have small : nanos < Nat.pow 10 9 := fits
    simp only [fractionChars, zero, milliseconds, microseconds, if_false]
    rw [optionalFraction_point (by decide) (by decide) small ends.1]
    have whole : nanos * Nat.pow 10 (9 - 9) = nanos := Nat.mul_one nanos
    rw [whole]

/-- A part is read back as it was written, in front of a text that does not run on into it. -/
theorem read_write
    {date : CivilDate}
    {clock : Clock}
    (fits : Fits date clock)
    (part : Part)
    (fields : Fields)
    {rest : List Char}
    (stops : part.Stops rest) :
    part.read fields (part.write date clock ++ rest) =
      some (part.note date clock fields, rest) := by
  cases part with
  | year => simp only [read, write, readYear_yearChars date.year stops, Option.map_some, note]
  | month => simp only [read, write, readShort_padDigits fits.month, Option.map_some, note]
  | day => simp only [read, write, readShort_padDigits fits.day, Option.map_some, note]
  | hour => simp only [read, write, readShort_padDigits fits.hour, Option.map_some, note]
  | minute => simp only [read, write, readShort_padDigits fits.minute, Option.map_some, note]
  | second => simp only [read, write, readShort_padDigits fits.second, Option.map_some, note]
  | fraction =>
      simp only [read, write, optionalFraction_fractionChars fits.nanos stops, Option.map_some,
        note]
  | blank =>
      have visible : trimStart rest = rest := by
        cases rest with
        | nil => rfl
        | cons c rest => exact trimStart_cons_of_not_blank (stops c rfl) rest
      have blank : isBlank ' ' = true := by decide
      simp only [trimStart] at visible
      simp [read, write, trimStart, blank, visible, note]
  | literal c => simp [read, write, note]

end Part

namespace Layout

/-- What is known of a date after the parts of a layout have been read. -/
def notes (date : CivilDate) (clock : Clock) (layout : Layout) (fields : Fields) : Fields :=
  layout.foldl (fun fields part => part.note date clock fields) fields

/-- No part of the written layout runs on into what follows it. -/
def KeepsApart (date : CivilDate) (clock : Clock) : Layout → List Char → Prop
  | [], _ => True
  | part :: parts, rest =>
      part.Stops (parts.flatMap (Part.write date clock) ++ rest) ∧ KeepsApart date clock parts rest

/-- Behind parts that were written, a layout is read on in what follows them. -/
theorem read_append
    {date : CivilDate}
    {clock : Clock}
    (fits : Fits date clock)
    {front : Layout}
    (back : Layout)
    (fields : Fields)
    {rest : List Char}
    (apart : KeepsApart date clock front rest) :
    read (front ++ back) fields (front.flatMap (Part.write date clock) ++ rest) =
      read back (notes date clock front fields) rest := by
  induction front generalizing fields with
  | nil => rfl
  | cons part parts inductionHypothesis =>
      obtain ⟨stops, others⟩ := apart
      rw [List.cons_append, List.flatMap_cons, List.append_assoc, read]
      simp only [part.read_write fits fields stops]
      exact inductionHypothesis (part.note date clock fields) others

/-- A layout whose parts keep apart is read back as it was written. -/
theorem read_write
    {date : CivilDate}
    {clock : Clock}
    (fits : Fits date clock)
    (layout : Layout)
    (fields : Fields)
    {rest : List Char}
    (apart : KeepsApart date clock layout rest) :
    read layout fields (layout.flatMap (Part.write date clock) ++ rest) =
      some (notes date clock layout fields, rest) := by
  have reads := read_append fits [] fields apart
  rw [List.append_nil] at reads
  exact reads

end Layout

namespace Instant

/-! ## Putting an instant together -/

theorem exists?_date (instant : Instant) : instant.date.exists? = true :=
  CivilDate.exists?_ofDays _

/-- The time of day of an instant is one, with a sixtieth second just in a leap second. -/
theorem clock_spec (instant : Instant) :
    instant.clock.hour < 24 ∧ instant.clock.minute < 60 ∧ instant.clock.second ≤ 60 ∧
      instant.clock.nanos < nanosPerSecond ∧
      (instant.clock.second = 60 ↔ nanosPerSecond ≤ instant.nanos) := by
  have bounds := instant.nanos_inRange
  simp only [clock, secondOfDay]
  unfold nanosPerSecond at *
  omega

theorem fits (instant : Instant) : Fits instant.date instant.clock := by
  obtain ⟨hour, minute, second, nanos, -⟩ := instant.clock_spec
  obtain ⟨-, month, -, day⟩ := CivilDate.bounds_of_exists? instant.exists?_date
  exact ⟨by omega, by omega, by omega, by omega, by omega, nanos⟩

theorem year_date_bounds (instant : Instant) :
    minYear ≤ instant.date.year ∧ instant.date.year ≤ maxYear := by
  have bounds := instant.seconds_inRange
  unfold minSeconds maxSeconds at bounds
  exact CivilDate.year_ofDays_bounds (by omega) (by omega)

/-- The date and the time of day of an instant are those of no other. -/
theorem ofCivil?_date_clock (instant : Instant) :
    ofCivil? instant.date instant.clock 0 = some instant := by
  obtain ⟨hour, minute, second, nanos, leap⟩ := instant.clock_spec
  obtain ⟨least, greatest⟩ := instant.year_date_bounds
  have days : instant.date.toDays = instant.seconds / 86400 := CivilDate.toDays_ofDays _
  have bounds := instant.nanos_inRange
  have valid : instant.date.exists? ∧ minYear ≤ instant.date.year ∧
      instant.date.year ≤ maxYear ∧ instant.clock.hour < 24 ∧ instant.clock.minute < 60 ∧
      instant.clock.second ≤ 60 ∧ instant.clock.nanos < nanosPerSecond :=
    ⟨instant.exists?_date, least, greatest, hour, minute, second, nanos⟩
  have seconds : instant.seconds / 86400 * 86400 + instant.clock.hour * 3600 +
      instant.clock.minute * 60 +
        (instant.clock.second - if instant.clock.second = 60 then 1 else 0 : Nat) - 0 =
      instant.seconds := by
    simp only [leap]
    simp only [clock, secondOfDay]
    unfold nanosPerSecond at *
    split <;> omega
  have nanos : instant.clock.nanos +
      (if instant.clock.second = 60 then 1 else 0) * nanosPerSecond = instant.nanos := by
    simp only [leap]
    simp only [clock]
    unfold nanosPerSecond at *
    split <;> omega
  unfold ofCivil?
  rw [if_pos valid, days]
  simp only [seconds, nanos, ofParts?_parts]

@[simp] theorem date_truncate (instant : Instant) : instant.truncate.date = instant.date := rfl

/-- Without its fraction an instant has the same time of day, in whole seconds. -/
theorem clock_truncate (instant : Instant) :
    instant.truncate.clock = { instant.clock with nanos := 0 } := by
  have same : instant.truncate.nanos / nanosPerSecond = instant.nanos / nanosPerSecond :=
    Nat.mul_div_cancel _ (by decide)
  have whole : instant.truncate.nanos % nanosPerSecond = 0 := Nat.mul_mod_left _ _
  have second : instant.truncate.secondOfDay = instant.secondOfDay := rfl
  simp only [clock, same, whole, second]

end Instant
end Time
end ThreatIntel
