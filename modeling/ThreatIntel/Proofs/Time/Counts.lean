import ThreatIntel.Proofs.Text.Items
import ThreatIntel.Proofs.Time.Refusals
import ThreatIntel.Proofs.Time.Totality

/-!
# Numbers that are no dates

Many spellings of dates begin with a number. A text that begins with digits is none of these where
neither a hyphen nor a slash stands behind the digits, nor a blank and the name of a month. So the
decimal text of a number is read as a count of seconds or milliseconds, whatever its sign and its
length.
-/

namespace ThreatIntel
namespace Time

open Text

namespace Scan

section Number

variable
  {least most n : Nat}
  {cs rest : List Char}

/-- A number takes digits alone, and behind the digits the text goes on as before. -/
theorem dropWhile_isDigit_of_number (taken : number least most cs = some (n, rest)) :
    rest.dropWhile Char.isDigit = cs.dropWhile Char.isDigit := by
  have front : (cs.takeWhile Char.isDigit).take most <+: cs :=
    (List.take_prefix _ _).trans (List.takeWhile_prefix _)
  have allDigits : ∀ c ∈ (cs.takeWhile Char.isDigit).take most, c.isDigit = true :=
    fun c member => List.mem_takeWhile_imp (List.mem_of_mem_take member)
  have whole := List.prefix_iff_eq_append.mp front
  unfold number at taken
  dsimp only at taken
  split at taken
  · cases taken
  · cases taken
    conv_rhs => rw [← whole]
    rw [List.dropWhile_append_of_pos allDigits]

/-- What stands behind a number is the rest of its digits, or what stands behind all of them. -/
theorem eq_of_number
    (taken : number least most cs = some (n, rest))
    {c : Char}
    (head : rest.head? = some c) :
    c.isDigit = true ∨ rest = cs.dropWhile Char.isDigit := by
  obtain ⟨others, rfl⟩ := List.head?_eq_some_iff.mp head
  cases digit : c.isDigit with
  | true => exact .inl rfl
  | false =>
      right
      rw [← dropWhile_isDigit_of_number taken]
      simp [digit]

/-- No mark stands behind a number that does not stand behind all of the digits. -/
theorem char_of_number
    (taken : number least most cs = some (n, rest))
    {mark : Char}
    (plain : mark.isDigit = false)
    (absent : (cs.dropWhile Char.isDigit).head? ≠ some mark) :
    char mark rest = none := by
  refine char_of_other fun head => ?_
  rcases eq_of_number taken head with digit | same
  · rw [plain] at digit
    cases digit
  · exact absent (same ▸ head)

end Number
end Scan

section Digits

variable
  {digits rest : List Char}
  (nonempty : digits ≠ [])
  (allDigits : ∀ c ∈ digits, c.isDigit = true)
  (ends : EndsNumber rest)

include nonempty allDigits

theorem exists_digit (behind : List Char) :
    ∃ c others, digits ++ behind = c :: others ∧ c.isDigit = true := by
  obtain ⟨c, others, rfl⟩ := List.exists_cons_of_ne_nil nonempty
  exact ⟨c, others ++ behind, rfl, allDigits c List.mem_cons_self⟩

include ends

omit nonempty in
theorem dropWhile_digits : (digits ++ rest).dropWhile Char.isDigit = rest := by
  rw [List.dropWhile_append_of_pos allDigits]
  exact Part.dropWhile_isDigit_of_endsNumber ends

/-- Digits with no month behind them begin no mail date. -/
theorem MailDate.scan_of_no_month
    (noMonth : ∀ behind, Scan.blanks rest = some ((), behind) →
      Scan.word months behind = none) :
    scan (digits ++ rest) = none := by
  obtain ⟨c, others, shape, digit⟩ := exists_digit nonempty allDigits rest
  have kept : trimStart (digits ++ rest) = digits ++ rest := by
    rw [shape]
    exact trimStart_cons_of_not_blank (isBlank_eq_false_of_isDigit digit) _
  have noWeekday : scanWeekday (digits ++ rest) = some (none, digits ++ rest) := by
    rw [shape]
    exact scanWeekday_of_not_letter (isAlpha_of_isDigit digit) _
  unfold scan
  rw [kept, noWeekday]
  change (Scan.number 1 2 (trimStart (digits ++ rest)) >>= _) = none
  rw [kept]
  cases taken : Scan.number 1 2 (digits ++ rest) with
  | none => rfl
  | some pair =>
      obtain ⟨day, behind⟩ := pair
      change (Scan.blanks behind >>= _) = none
      cases behind with
      | nil => rfl
      | cons d behind =>
          rcases Scan.eq_of_number taken rfl with digit | same
          · rw [Scan.blanks_of_visible (isBlank_eq_false_of_isDigit digit)]
            rfl
          · rw [same, dropWhile_digits allDigits ends]
            cases blank : Scan.blanks rest with
            | none => rfl
            | some pair =>
                change (Scan.word months pair.2 >>= _) = none
                rw [noMonth pair.2 blank]
                rfl

/-- Digits with neither a mark nor a month behind them are no date that does not depend on the
present. -/
theorem readAbsolute?_of_digits
    (noMark : ∀ mark, mark = '-' ∨ mark = '/' → rest.head? ≠ some mark)
    (noMonth : ∀ behind, Scan.blanks rest = some ((), behind) →
      Scan.word MailDate.months behind = none) :
    readAbsolute? (digits ++ rest) = none := by
  obtain ⟨c, others, shape, digit⟩ := exists_digit nonempty allDigits rest
  have stuck : ∀ {least most n : Nat} {behind : List Char} {mark : Char},
      mark = '-' ∨ mark = '/' → Scan.number least most (digits ++ rest) = some (n, behind) →
        Scan.char mark behind = none := by
    intro least most n behind mark marks taken
    refine Scan.char_of_number taken (by rcases marks with rfl | rfl <;> decide) ?_
    rw [dropWhile_digits allDigits ends]
    exact noMark mark marks
  refine readAbsolute?_eq_none ?_ (MailDate.scan_of_no_month nonempty allDigits ends noMonth)
    fun layout member => ?_
  · simp only [Timestamp.scanStrict, Option.bind_eq_bind]
    cases taken : Scan.number 4 4 (digits ++ rest) with
    | none => rfl
    | some pair =>
        rw [Option.bind_some, stuck (.inl rfl) taken, Option.bind_none]
  · obtain ⟨first, mark, back, rfl, begins, marks⟩ := exists_mark_of_mem_layouts member
    rcases begins with rfl | rfl
    · have year : Part.readYear (digits ++ rest) =
          (Scan.number 1 4 (digits ++ rest)).map fun taken => ((taken.1 : Int), taken.2) := by
        rw [shape]
        exact Part.readYear_of_digit digit others
      simp only [Layout.readAll, Layout.read, Part.read, year]
      cases taken : Scan.number 1 4 (digits ++ rest) with
      | none => rfl
      | some pair => simp only [Option.map_some, stuck marks taken, Option.map_none]
    · have month : Part.readShort (digits ++ rest) = Scan.number 1 2 (digits ++ rest) := by
        rw [Part.readShort, shape,
          trimStart_cons_of_not_blank (isBlank_eq_false_of_isDigit digit)]
      simp only [Layout.readAll, Layout.read, Part.read, month]
      cases taken : Scan.number 1 2 (digits ++ rest) with
      | none => rfl
      | some pair => simp only [Option.map_some, stuck marks taken, Option.map_none]

end Digits

/-! ## Decimal texts -/

/-- The text is the decimal form of the number, between any blanks. -/
def IsDecimal (text : String) (n : Int64) : Prop :=
  ∃ before after, (∀ c ∈ before, isBlank c = true) ∧ (∀ c ∈ after, isBlank c = true) ∧
    text.toList = before ++ (intDigits n.toInt ++ after)

theorem isBlank_of_mem_intDigits
    {n : Int}
    {c : Char}
    (member : c ∈ intDigits n) :
    isBlank c = false := by
  cases n with
  | ofNat n => exact isBlank_eq_false_of_isDigit (isDigit_of_mem_natDigits member)
  | negSucc n =>
      rcases List.mem_cons.mp member with rfl | digit
      · decide
      · exact isBlank_eq_false_of_isDigit (isDigit_of_mem_natDigits digit)

/-- The decimal form of a number is no date that does not depend on the present. -/
theorem readAbsolute?_intDigits (n : Int) : readAbsolute? (intDigits n) = none := by
  have digits : ∀ n, ∀ c ∈ natDigits n, c.isDigit = true :=
    fun _ _ member => isDigit_of_mem_natDigits member
  cases n with
  | ofNat n =>
      have refused := readAbsolute?_of_digits (natDigits_ne_nil n) (digits n) endsNumber_nil
        (by simp) (by simp [Scan.blanks])
      rwa [List.append_nil] at refused
  | negSucc n => exact readAbsolute?_of_minus (natDigits_ne_nil (n + 1)) (digits (n + 1))

theorem trim_of_isDecimal
    {text : String}
    {n : Int64}
    (decimal : IsDecimal text n) :
    trim text.toList = intDigits n.toInt := by
  obtain ⟨before, after, blankBefore, blankAfter, shape⟩ := decimal
  have visible : ∀ c ∈ intDigits n.toInt, isBlank c = false :=
    fun _ member => isBlank_of_mem_intDigits member
  have trimmed : IsTrimmed (intDigits n.toInt) :=
    ⟨fun c head => visible c (List.mem_of_mem_head? head),
      fun c last => visible c (List.mem_of_mem_getLast? last)⟩
  rw [shape, trim_padded blankBefore trimmed blankAfter]

section Decimal

variable
  (now : Instant)
  {text : String}
  {n : Int64}
  (decimal : IsDecimal text n)

include decimal

/-- Whenever it is read, the decimal text of a number is a count since 1970. -/
theorem read_of_isDecimal : read now text = ofEpoch n.toInt := by
  have visible : (intDigits n.toInt).isEmpty = false := by
    simpa using intDigits_ne_nil n.toInt
  simp only [read, trim_of_isDecimal decimal, visible, readAbsolute?_intDigits,
    readInt64?_intDigits]
  rfl

/-- In words of bounded width, too, the decimal text of a number is a count since 1970. -/
theorem bounded_read_of_isDecimal : Bounded.read now text = Bounded.ofEpoch n := by
  have number : readInt64? (trim text.toList) = some n := by
    rw [trim_of_isDecimal decimal, readInt64?_intDigits]
  have least : IsLeast text ↔ n = Int64.minValue := by
    rw [IsLeast, number, Option.some.injEq]
  rw [bounded_read_eq, if_neg (not_leavesCalendar_of_number number), Bounded.ofEpoch_eq,
    read_of_isDecimal now decimal]
  simp only [least]

end Decimal

/-! ## Counts since 1970 -/

/-- The instant lies a count of seconds after the beginning of 1970, or of milliseconds where the
count has twelve digits or more, and in no leap second. -/
def Instant.IsAt (instant : Instant) (count : Int) : Prop :=
  instant.nanos < nanosPerSecond ∧
    instant.seconds * 1000000000 + instant.nanos =
      if count.natAbs < 100000000000 then count * 1000000000 else count * 1000000

theorem Instant.ofParts?_eq_some_iff
    {seconds : Int}
    {nanos : Nat}
    (whole : nanos < nanosPerSecond)
    {instant : Instant} :
    ofParts? seconds nanos = some instant ↔ instant.seconds = seconds ∧ instant.nanos = nanos := by
  constructor
  · exact parts_of_ofParts?
  · rintro ⟨rfl, rfl⟩
    exact instant.ofParts?_parts

/-- A count is read as the instant that lies there, if there is one. -/
theorem ofEpoch_eq_ok_iff
    {count : Int}
    {instant : Instant} :
    ofEpoch count = .ok instant ↔ instant.IsAt count := by
  by_cases short : count.natAbs < 100000000000
  · have parts : ofEpoch count = .ok instant ↔ Instant.ofParts? count 0 = some instant := by
      unfold ofEpoch
      rw [if_pos (by exact short)]
      dsimp only
      cases Instant.ofParts? count 0 <;> simp
    rw [parts, Instant.ofParts?_eq_some_iff (by decide), Instant.IsAt, if_pos short]
    unfold nanosPerSecond
    omega
  · have parts : ofEpoch count = .ok instant ↔
        Instant.ofParts? (count / 1000) ((count % 1000).toNat * 1000000) = some instant := by
      unfold ofEpoch
      rw [if_neg (by exact short)]
      dsimp only
      cases Instant.ofParts? (count / 1000) ((count % 1000).toNat * 1000000) <;> simp
    have whole : (count % 1000).toNat * 1000000 < nanosPerSecond := by
      unfold nanosPerSecond
      omega
    rw [parts, Instant.ofParts?_eq_some_iff whole, Instant.IsAt, if_neg short]
    unfold nanosPerSecond
    omega

/-- Written in the layout of the server, a count is cut down to the second: it is read back as that
second, which for milliseconds before 1970 is the earlier one. -/
theorem Instant.IsAt.read_canonical
    {instant : Instant}
    {count : Int}
    (isAt : instant.IsAt count)
    (now : Instant) :
    ∃ whole : Instant, read now instant.canonical = .ok whole ∧ whole.nanos = 0 ∧
      whole.seconds = if count.natAbs < 100000000000 then count else count / 1000 := by
  obtain ⟨noLeap, place⟩ := isAt
  have small : instant.nanos < 1000000000 := noLeap
  refine ⟨instant.truncate, Time.read_canonical now instant, ?_, ?_⟩
  · rw [instant.nanos_truncate, if_pos noLeap]
  · rw [Instant.seconds_truncate]
    split at place
    · omega
    · omega

end Time
end ThreatIntel
