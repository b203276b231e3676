import ThreatIntel.Proofs.Time.Phrases

/-!
# Units agree

A larger unit is a number of smaller ones. Main statement: a phrase in the larger unit and the
phrase for as many smaller ones are read as the same instant or are both refused, however large the
counts are; and outside leap seconds a phrase in a unit of fixed length is undone by the phrase for
the other side.
-/

namespace ThreatIntel
namespace Time

open Text

/-- Outside leap seconds, a step in seconds is undone by the step back. -/
theorem Instant.addSeconds_neg
    {now later : Instant}
    (noLeap : now.nanos < nanosPerSecond)
    {delta : Int}
    (moved : now.addSeconds delta = some later) :
    later.addSeconds (-delta) = some now := by
  rw [addSeconds, if_pos (.inl noLeap)] at moved
  obtain ⟨seconds, nanos⟩ := parts_of_ofParts? moved
  have back : later.seconds + -delta = now.seconds := by omega
  rw [addSeconds, if_pos (.inl (nanos ▸ noLeap)), back, nanos, now.ofParts?_parts]

namespace TimeUnit

/-- One larger unit is a number of smaller ones. -/
inductive Holds : TimeUnit → Nat → TimeUnit → Prop
  | week : Holds .week 7 .day
  | day : Holds .day 24 .hour
  | hour : Holds .hour 60 .minute
  | minute : Holds .minute 60 .second
  | year : Holds .year 12 .month

/-- A step in a larger unit is the step in as many smaller ones. -/
theorem shift_of_holds
    {large small : TimeUnit}
    {size : Nat}
    (holds : Holds large size small)
    (amount : Int)
    (now : Instant) :
    large.shift amount now = small.shift (size * amount) now := by
  have counted : ∀ length : Nat, amount * (size * length : Nat) = size * amount * length := by
    intro length
    rw [Int.natCast_mul, ← Int.mul_assoc, Int.mul_comm amount]
  cases holds with
  | week => exact congrArg now.addSeconds (counted 86400)
  | day => exact congrArg now.addSeconds (counted 3600)
  | hour => exact congrArg now.addSeconds (counted 60)
  | minute => exact congrArg now.addSeconds (counted 1)
  | year => rfl

/-- The unit has the same length everywhere in the calendar. -/
def IsFixed (unit : TimeUnit) : Prop :=
  unit ≠ month ∧ unit ≠ year

/-- Outside leap seconds, a step in a unit of fixed length is undone by the step back. -/
theorem shift_neg
    {unit : TimeUnit}
    (fixed : unit.IsFixed)
    {now later : Instant}
    (noLeap : now.nanos < nanosPerSecond)
    {amount : Int}
    (moved : unit.shift amount now = some later) :
    unit.shift (-amount) later = some now := by
  have counted : ∀ {length : Nat}, now.addSeconds (amount * length) = some later →
      later.addSeconds (-amount * length) = some now := by
    intro length moved
    rw [Int.neg_mul]
    exact Instant.addSeconds_neg noLeap moved
  cases unit with
  | month => exact absurd rfl fixed.1
  | year => exact absurd rfl fixed.2
  | second | minute | hour | day | week => exact counted moved

end TimeUnit

theorem Heading.signed_opposite (heading : Heading) (count : Nat) :
    heading.opposite.signed count = -heading.signed count := by
  cases heading with
  | back => exact (Int.neg_neg _).symm
  | ahead => rfl

theorem Heading.signed_mul (heading : Heading) (size count : Nat) :
    heading.signed (size * count) = size * heading.signed count := by
  cases heading with
  | back => simp only [signed, Int.natCast_mul, Int.mul_neg]
  | ahead => simp only [signed, Int.natCast_mul]

theorem answered_eq_ok_iff
    {text : String}
    {outcome : Option Instant}
    {instant : Instant} :
    answered text outcome = .ok instant ↔ outcome = some instant := by
  cases outcome <;> simp [answered]

/-- Relative dates agree across their units, in any spelling and on both sides of now. A number of
larger units and as many smaller ones are read as the same instant, or both are refused, in words of
bounded width too and however large the numbers are: a week is seven days, a day 24 hours, an hour
sixty minutes, a minute sixty seconds, and a year twelve months. Read outside a leap second, a
phrase in units from seconds to weeks is undone by the phrase for the other side. -/
theorem phrases_agree :
    (∀ (large small : TimeUnit) (size : Nat), large.Holds size small →
      ∀ (now : Instant) (count : Nat) (heading : Heading) (text other : String),
        IsPhrase text count large heading → IsPhrase other (size * count) small heading →
          ∃ outcome, outcome = large.shift (heading.signed count) now ∧
            read now text = answered text outcome ∧ read now other = answered other outcome ∧
            Bounded.read now text = .ok (read now text) ∧
            Bounded.read now other = .ok (read now other)) ∧
    ∀ (unit : TimeUnit), unit.IsFixed →
      ∀ (now later : Instant) (count : Nat) (heading : Heading) (text other : String),
        now.nanos < nanosPerSecond → IsPhrase text count unit heading →
          IsPhrase other count unit heading.opposite →
            read now text = .ok later → read later other = .ok now := by
  constructor
  · intro large small size holds now count heading text other isLarge isSmall
    obtain ⟨readLarge, boundedLarge⟩ := isLarge.read_eq now
    obtain ⟨readSmall, boundedSmall⟩ := isSmall.read_eq now
    rw [Heading.signed_mul, ← TimeUnit.shift_of_holds holds] at readSmall
    exact ⟨_, rfl, readLarge, readSmall, boundedLarge, boundedSmall⟩
  · intro unit fixed now later count heading text other noLeap isPhrase isOpposite moved
    rw [(isPhrase.read_eq now).1, answered_eq_ok_iff] at moved
    rw [(isOpposite.read_eq later).1, answered_eq_ok_iff, Heading.signed_opposite]
    exact TimeUnit.shift_neg fixed noLeap moved

/-- Seven weeks in capitals, one of them the sign of the kelvin, are as many days, and are undone by
the weeks in short on the other side. -/
theorem phrases_agree_on_weeks :
    ∃ later : Instant, later.seconds = -4233600 ∧
      read .epoch "\u2003007 WEE\u212AS\tAgo" = .ok later ∧
      read .epoch "49 day ago\n" = .ok later ∧ read later "IN 7 wk" = .ok .epoch := by
  let later : Instant := ⟨-4233600, 0, by decide, by decide⟩
  have wide : ∀ c ∈ ['\u2003'], isBlank c = true := List.all_eq_true.mp (by decide)
  have line : ∀ c ∈ ['\n'], isBlank c = true := List.all_eq_true.mp (by decide)
  have nothing : ∀ c ∈ ([] : List Char), isBlank c = true := by simp
  have space : IsGap [' '] := ⟨by decide, List.all_eq_true.mp (by decide)⟩
  have tab : IsGap ['\t'] := ⟨by decide, List.all_eq_true.mp (by decide)⟩
  have weeks : IsPhrase "\u2003007 WEE\u212AS\tAgo" 7 .week .back :=
    @IsPhrase.back _ _ _ 3 "WEE\u212AS".toList "Ago".toList
      ⟨_, [' '], ['\t'], _, wide, nothing, space, tab, by decide +kernel⟩
      ⟨"week", by decide, 1, by decide +kernel⟩ (by decide +kernel)
  have days : IsPhrase "49 day ago\n" (7 * 7) .day .back :=
    @IsPhrase.back _ _ _ 1 "day".toList "ago".toList
      ⟨_, [' '], [' '], _, nothing, line, space, space, by decide +kernel⟩
      ⟨"day", by decide, 0, by decide +kernel⟩ (by decide +kernel)
  have ahead : IsPhrase "IN 7 wk" 7 .week .ahead :=
    @IsPhrase.ahead _ _ _ 1 "IN".toList "wk".toList
      ⟨_, [' '], [' '], _, nothing, nothing, space, space, by decide +kernel⟩
      ⟨"wk", by decide, 0, by decide +kernel⟩ (by decide +kernel)
  obtain ⟨agree, undo⟩ := phrases_agree
  obtain ⟨outcome, moved, first, second, -, -⟩ := agree _ _ _ .week .epoch 7 .back _ _ weeks days
  have there : outcome = some later := by
    rw [moved]
    decide +kernel
  rw [there] at first second
  exact ⟨later, rfl, first, second,
    undo .week ⟨nofun, nofun⟩ .epoch later 7 .back _ _ (by decide) weeks ahead first⟩

end Time
end ThreatIntel
