import Mathlib.Tactic.SplitIfs
import ThreatIntel.Proofs.Text.Reading
import ThreatIntel.Proofs.Time.Parts
import ThreatIntel.Time.Bounded

/-!
# What words of bounded width change

Main statements: a phrase that counts from now, and a number of seconds or milliseconds, come to the
same instants in words of bounded width as without bounds, because what does not fit the words would
leave the calendar anyway. Only the two steps without a check go astray, each on inputs of its own.
-/

namespace ThreatIntel
namespace Time

open Text

/-! ## Far outside the calendar -/

namespace Instant

theorem ofParts?_eq_none_of_whole
    {seconds : Int}
    {nanos : Nat}
    (whole : nanos < nanosPerSecond) :
    ofParts? seconds nanos = none ↔ seconds < minSeconds ∨ maxSeconds < seconds := by
  unfold ofParts?
  by_cases inRange : minSeconds ≤ seconds ∧ seconds ≤ maxSeconds
  · rw [dif_pos inRange, dif_pos (.inl whole)]
    simp only [reduceCtorEq, false_iff]
    omega
  · rw [dif_neg inRange]
    simp only [true_iff]
    omega

theorem ofParts?_of_outside
    {seconds : Int}
    (outside : seconds < minSeconds ∨ maxSeconds < seconds)
    (nanos : Nat) :
    ofParts? seconds nanos = none := by
  unfold ofParts?
  rw [dif_neg (by omega)]

/-- No instant lies further from another than the calendar is long. -/
theorem addSeconds_far
    (instant : Instant)
    {delta : Int}
    (far : 20000000000000 ≤ delta.natAbs) :
    instant.addSeconds delta = none := by
  have bounds := instant.seconds_inRange
  unfold minSeconds maxSeconds at bounds
  unfold addSeconds
  split
  · exact ofParts?_of_outside (by unfold minSeconds maxSeconds; omega) _
  · dsimp only
    split
    · exact ofParts?_of_outside (by unfold minSeconds maxSeconds; omega) _
    · exact ofParts?_of_outside (by unfold minSeconds maxSeconds; omega) _

theorem addMonths_far
    (instant : Instant)
    {months : Int}
    (far : 10000000 ≤ months.natAbs) :
    instant.addMonths months = none := by
  have within := instant.year_date_bounds
  have inCalendar := CivilDate.exists?_addMonths instant.exists?_date months
  obtain ⟨least, greatest, -, -⟩ := CivilDate.bounds_of_exists? instant.exists?_date
  have year : (instant.date.addMonths months).year =
      (instant.date.year * 12 + (instant.date.month - 1 : Int) + months) / 12 := rfl
  have second : (instant.secondOfDay : Int) < 86400 := by
    unfold secondOfDay
    omega
  unfold minYear maxYear at within
  unfold addMonths
  refine ofParts?_of_outside ?_ _
  unfold minSeconds maxSeconds
  by_cases later : 0 ≤ months
  · have behind := CivilDate.toDays_of_year_behind inCalendar (by omega)
    omega
  · have before := CivilDate.toDays_of_year_before inCalendar (by omega)
    omega

end Instant

/-! ## Checked steps -/

namespace Bounded

/-- A check that only refuses what fails later changes nothing. -/
theorem checked_bind
    {fits : Int → Bool}
    {next : Int → Option Instant}
    {n : Int}
    (far : fits n = false → next n = none) :
    (checked fits n).bind next = next n := by
  unfold checked
  cases inside : fits n with
  | true => rfl
  | false => exact (far inside).symm

theorem natAbs_directed (later : Bool) (n : Int) : (directed later n).natAbs = n.natAbs := by
  cases later <;> simp [directed]

theorem le_natAbs_of_fitsInt64
    {n : Int}
    (outside : fitsInt64 n = false) :
    9223372036854775808 ≤ n.natAbs := by
  have least : Int64.minValue.toInt = -9223372036854775808 := by decide
  have greatest : Int64.maxValue.toInt = 9223372036854775807 := by decide
  simp only [fitsInt64, Bool.and_eq_false_iff, decide_eq_false_iff_not] at outside
  omega

section

variable
  (later : Bool)
  (now : Instant)
  {n : Int}

theorem months_eq (positive : 0 ≤ n) :
    ((checked fitsMonths n).bind fun months => now.addMonths (directed later months)) =
      now.addMonths (directed later n) := by
  refine checked_bind fun outside => now.addMonths_far ?_
  simp only [fitsMonths, Bool.and_eq_false_iff, decide_eq_false_iff_not] at outside
  rw [natAbs_directed]
  omega

theorem seconds_eq :
    ((checked fitsSpan n).bind fun seconds => now.addSeconds (directed later seconds)) =
      now.addSeconds (directed later n) := by
  refine checked_bind fun outside => now.addSeconds_far ?_
  have wide := le_natAbs_of_fitsInt64 outside
  rw [natAbs_directed]
  omega

/-- With every product in words, a distance leads to the same instant. -/
theorem shift_eq
    (unit : TimeUnit)
    {amount : Int64}
    (positive : 0 ≤ amount.toInt) :
    shift unit later amount now = unit.shift (directed later amount.toInt) now := by
  have years : 12 * directed later amount.toInt = directed later (amount.toInt * 12) := by
    cases later
    · change 12 * -amount.toInt = -(amount.toInt * 12)
      omega
    · change 12 * amount.toInt = amount.toInt * 12
      omega
  have counted : ∀ seconds : Nat,
      ((checked fitsInt64 (amount.toInt * seconds)).bind fun total =>
        (checked fitsSpan total).bind fun seconds => now.addSeconds (directed later seconds)) =
        now.addSeconds (directed later amount.toInt * seconds) := by
    intro seconds
    have product : directed later amount.toInt * seconds =
        directed later (amount.toInt * seconds) := by
      cases later
      · exact Int.neg_mul _ _
      · rfl
    rw [checked_bind fun outside => ?_, seconds_eq, product]
    have wide := le_natAbs_of_fitsInt64 outside
    rw [seconds_eq]
    exact now.addSeconds_far (by rw [natAbs_directed]; omega)
  cases unit with
  | month => exact months_eq later now positive
  | year =>
      rw [shift, TimeUnit.shift, years, checked_bind fun outside => ?_,
        months_eq later now (by omega)]
      have wide := le_natAbs_of_fitsInt64 outside
      rw [months_eq later now (by omega)]
      exact now.addMonths_far (by rw [natAbs_directed]; omega)
  | second | minute | hour | day | week => exact counted _

end

/-- No unit is so short that so many of them stay in the calendar. -/
theorem shift_far
    (unit : TimeUnit)
    {amount : Int}
    (far : 20000000000000 ≤ amount.natAbs)
    (now : Instant) :
    unit.shift amount now = none := by
  cases unit with
  | month => exact now.addMonths_far (by omega)
  | year => exact now.addMonths_far (by omega)
  | second | minute | hour | day | week =>
      exact now.addSeconds_far (by simp only [TimeUnit.seconds]; omega)

/-- A count that does not fit a word leaves the calendar in any case. -/
theorem distance?_bind
    (later : Bool)
    (now : Instant)
    (amount unit : List Char) :
    ((distance? amount unit).bind fun (amount, unit) => shift unit later amount now) =
      (Relative.distance? amount unit).bind fun (amount, unit) =>
        unit.shift (directed later amount) now := by
  simp only [distance?, Relative.distance?, Option.bind_eq_bind]
  cases number : readInt? amount with
  | none => simp [readInt64?, number]
  | some n =>
      cases spelled : TimeUnit.ofSpelling? unit with
      | none => simp
      | some kind =>
          cases fits : fitsInt64 n with
          | false =>
              have wide := le_natAbs_of_fitsInt64 fits
              have noWord : readInt64? amount = none := by simp [readInt64?, number, fits]
              rw [noWord]
              by_cases negative : n < 0
              · simp [negative]
              · have whole : (n.toNat : Int) = n := by omega
                have far : kind.shift (directed later n) now = none :=
                  shift_far kind (by rw [natAbs_directed]; omega) now
                simp [negative, whole, far]
          | true =>
              have word : readInt64? amount = some (Int64.ofInt n) := by
                simp [readInt64?, number, fits]
              have same : (Int64.ofInt n).toInt = n := by
                have reads := toInt_of_readInt64? word
                rw [number] at reads
                exact (Option.some.inj reads).symm
              rw [word]
              by_cases negative : n < 0
              · simp [same, negative]
              · have positive : 0 ≤ (Int64.ofInt n).toInt := by omega
                have whole : (n.toNat : Int) = n := by omega
                have shifted := shift_eq later now kind positive
                rw [same] at shifted
                simp [same, negative, whole, shifted]

/-- In words, a phrase that counts from now is read as the same instant. -/
theorem relative?_eq
    (now : Instant)
    (cs : List Char) :
    relative? now cs = Relative.read? now cs := by
  unfold relative? Relative.read?
  generalize Relative.words cs = row
  match row with
  | [first, second, third] =>
      dsimp only
      split_ifs
      · exact distance?_bind false now first second
      · exact distance?_bind true now second third
      · rfl
  | [] | [_] | [_, _] | _ :: _ :: _ :: _ :: _ => rfl

/-- What a refusal for a day outside the calendar stands for in words, which do not notice it. -/
def overrunning : Except Refusal Instant → Except Overrun (Except Refusal Instant)
  | .error .beyondCalendar => .error .neighbour
  | result => .ok result

theorem overrunning_of_ne
    {result : Except Refusal Instant}
    (within : result ≠ .error .beyondCalendar) :
    overrunning result = .ok result := by
  unfold overrunning
  split
  · exact absurd rfl within
  · rfl

theorem readFromNow_eq
    (now : Instant)
    (input : String)
    (cs : List Char) :
    readFromNow now input cs = overrunning (Time.readFromNow now input cs) := by
  have next : ∀ days, neighbour now days = overrunning (Time.neighbour now days) := by
    intro days
    unfold neighbour Time.neighbour
    cases now.midnight.addSeconds (days * 86400) <;> rfl
  simp only [readFromNow, Time.readFromNow, relative?_eq, next]
  split_ifs
  any_goals rfl
  cases Relative.read? now (lower cs) <;> rfl

/-- Only the least number has no magnitude in a word. -/
theorem ofEpoch_eq (epoch : Int64) :
    ofEpoch epoch =
      if epoch = Int64.minValue then .error .magnitude else .ok (Time.ofEpoch epoch.toInt) := by
  have least : Int64.minValue.toInt = -9223372036854775808 := by decide
  have greatest : Int64.maxValue.toInt = 9223372036854775807 := by decide
  have above := Int64.minValue_le_toInt epoch
  have below := Int64.toInt_le epoch
  have fits : fitsInt64 epoch.toInt.natAbs = decide (epoch ≠ Int64.minValue) := by
    rw [Bool.eq_iff_iff, decide_eq_true_eq, ne_eq, ← Int64.toInt_inj]
    simp only [fitsInt64, Bool.and_eq_true, decide_eq_true_eq]
    omega
  unfold ofEpoch checked
  rw [fits]
  by_cases isLeast : epoch = Int64.minValue
  · simp [isLeast]
  · simp [isLeast]

end Bounded

end Time
end ThreatIntel
