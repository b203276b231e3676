import ThreatIntel.Proofs.Time.Parts
import ThreatIntel.Time.Timestamp

/-!
# Written timestamps

A timestamp is read back as the instant that it was written for, whatever its year and its fraction,
and in a leap second too. The lenient reader would take blanks between the parts; where there are
none it reads on.
-/

namespace ThreatIntel
namespace Time
namespace Timestamp

open Text

/-- The characters of a timestamp. -/
theorem toList_write (instant : Instant) :
    (write instant).toList =
      yearChars instant.date.year ++ '-' :: (padDigits 2 instant.date.month ++
        '-' :: (padDigits 2 instant.date.day ++ 'T' :: (padDigits 2 instant.clock.hour ++
          ':' :: (padDigits 2 instant.clock.minute ++ ':' :: (padDigits 2 instant.clock.second ++
            (fractionChars instant.clock.nanos ++ ['Z'])))))) := by
  simp [write, layout, Layout.write, Layout.canonical, Layout.isoDate, Layout.isoClock, Part.write]

/-- The date of a timestamp is read back. -/
theorem read_lenientDate
    {date : CivilDate}
    {clock : Clock}
    (fits : Fits date clock)
    (rest : List Char) :
    lenientDate.read {} (yearChars date.year ++ '-' :: (padDigits 2 date.month ++
        '-' :: (padDigits 2 date.day ++ rest))) =
      some ({ year := date.year, month := date.month, day := date.day }, rest) := by
  have visible : ∀ rest, trimStart ('-' :: rest) = '-' :: rest :=
    trimStart_cons_of_not_blank (by decide)
  have year : ∀ rest, Part.readYear (yearChars date.year ++ '-' :: rest) =
      some (date.year, '-' :: rest) :=
    fun rest => Part.readYear_yearChars date.year (by simp)
  simp only [lenientDate, Layout.read, Part.read, year, visible, Scan.char_cons_self,
    Part.readShort_padDigits fits.month, Part.readShort_padDigits fits.day, Option.map_some]

/-- The time of day of a timestamp is read back. -/
theorem read_lenientClock
    {date : CivilDate}
    {clock : Clock}
    (fits : Fits date clock)
    (fields : Fields) :
    lenientClock.read fields (padDigits 2 clock.hour ++ ':' :: (padDigits 2 clock.minute ++
        ':' :: (padDigits 2 clock.second ++ (fractionChars clock.nanos ++ ['Z'])))) =
      some ({ fields with
        hour := some clock.hour, minute := some clock.minute, second := some clock.second,
        nanos := if clock.nanos = 0 then none else some clock.nanos }, ['Z']) := by
  have colon : ∀ rest, trimStart (':' :: rest) = ':' :: rest :=
    trimStart_cons_of_not_blank (by decide)
  have letter : trimStart ['Z'] = ['Z'] := trimStart_cons_of_not_blank (by decide) []
  have ends : EndsFraction ['Z'] := ⟨by simp, by decide⟩
  simp only [lenientClock, Layout.read, Part.read, colon, letter, Scan.char_cons_self,
    Part.readShort_padDigits fits.hour, Part.readShort_padDigits fits.minute,
    Part.readShort_padDigits fits.second, Part.optionalFraction_fractionChars fits.nanos ends,
    Option.map_some]

/-- A timestamp is read back as the instant that it was written for. -/
theorem readLenient?_write (instant : Instant) :
    readLenient? (write instant).toList = some instant := by
  have nanos : (if instant.clock.nanos = 0 then none else some instant.clock.nanos).getD 0 =
      instant.clock.nanos := by
    split
    · next zero => exact zero.symm
    · rfl
  have divides : ∀ rest, divider ('T' :: rest) = some ((), rest) := fun _ => rfl
  have universal : scanLenientOffset ['Z'] = some (0, []) := rfl
  have put := instant.ofCivil?_date_clock
  rw [toList_write]
  simp only [readLenient?, read_lenientDate instant.fits, read_lenientClock instant.fits, divides,
    universal, Option.bind_eq_bind, Option.bind_some, trimStart, List.dropWhile_nil,
    List.isEmpty_nil, offsetInRange, Fields.instant?, Fields.date?, Fields.clock?, nanos]
  exact put

end Timestamp
end Time
end ThreatIntel
