import ThreatIntel.Proofs.Binary64.Marks
import ThreatIntel.Proofs.Text.Lowered
import ThreatIntel.Proofs.Time.Counts

/-!
# Phrases that count from now

A phrase has three words: a count and a unit, with `ago` behind them or `in` before them, in any
case and with any blanks between and around. Main statement: no other reader takes such a phrase,
and it is read as the instant so many units away, or refused where the calendar has none there.
-/

namespace ThreatIntel
namespace Time

open Text

/-! ## Words between blanks -/

/-- Blanks stand in no number. -/
theorem isNoNumeral_of_isBlank
    {c : Char}
    (blank : isBlank c = true) :
    IsNoNumeral c where
  notAlphanumeric := by
    refine Bool.or_eq_false_iff.mpr ⟨isAlpha_of_isBlank blank, ?_⟩
    refine Bool.eq_false_iff.mpr fun digit => ?_
    rw [isBlank_eq_false_of_isDigit digit] at blank
    cases blank
  notSign := by
    constructor <;> rintro rfl <;> exact absurd blank (by decide)
  notPoint := by
    rintro rfl
    exact absurd blank (by decide)

/-- A row of blanks that divides two words. -/
structure IsGap (gap : List Char) : Prop where
  filled : gap ≠ []
  blanks : ∀ c ∈ gap, isBlank c = true

namespace Relative

theorem words_append_blank
    {c : Char}
    (blank : isBlank c = true)
    (front back : List Char) :
    words (front ++ c :: back) = words front ++ words back := by
  unfold words
  rw [List.splitOnP_append_cons front back blank, List.filter_append]

/-- Blanks in front of a text are in none of its words. -/
theorem words_blanks_append
    {gap : List Char}
    (blanks : ∀ c ∈ gap, isBlank c = true)
    (back : List Char) :
    words (gap ++ back) = words back := by
  induction gap with
  | nil => rfl
  | cons c gap inductionHypothesis =>
      obtain ⟨blank, others⟩ := List.forall_mem_cons.mp blanks
      have split : words (c :: (gap ++ back)) = words [] ++ words (gap ++ back) :=
        words_append_blank blank [] (gap ++ back)
      rw [List.cons_append, split, inductionHypothesis others]
      rfl

/-- The words on both sides of a gap are the words of a text. -/
theorem words_append_gap
    {gap : List Char}
    (isGap : IsGap gap)
    (front back : List Char) :
    words (front ++ (gap ++ back)) = words front ++ words back := by
  obtain ⟨filled, blanks⟩ := isGap
  obtain ⟨c, others, rfl⟩ := List.exists_cons_of_ne_nil filled
  obtain ⟨blank, blanks⟩ := List.forall_mem_cons.mp blanks
  rw [List.cons_append, words_append_blank blank, words_blanks_append blanks]

theorem words_of_visible
    {word : List Char}
    (filled : word ≠ [])
    (visible : ∀ c ∈ word, isBlank c = false) :
    words word = [word] := by
  unfold words
  rw [List.splitOnP_eq_singleton fun c member => visible c member]
  simp [filled]

end Relative

/-! ## Three words -/

/-- Gaps stay as they are in lower case. -/
theorem lower_append_gap
    {front gap back : List Char}
    (placelessFront : IsPlaceless front)
    (isGap : IsGap gap)
    (placelessBack : IsPlaceless back) :
    IsPlaceless (front ++ (gap ++ back)) ∧
      lower (front ++ (gap ++ back)) = lower front ++ (gap ++ lower back) := by
  obtain ⟨placelessGap, sameGap⟩ := lower_of_blanks isGap.blanks
  have placeless : IsPlaceless (gap ++ back) :=
    List.forall_mem_append.mpr ⟨placelessGap, placelessBack⟩
  refine ⟨List.forall_mem_append.mpr ⟨placelessFront, placeless⟩, ?_⟩
  rw [lower_append placelessFront placeless, lower_append placelessGap placelessBack, sameGap]

/-- Three words with what stands between them. -/
def triple (first gap second next third : List Char) : List Char :=
  first ++ (gap ++ (second ++ (next ++ third)))

section Triple

variable
  {first gap second next third lowFirst lowSecond lowThird : List Char}
  (isFirst : HasLower first lowFirst)
  (isGap : IsGap gap)
  (isSecond : HasLower second lowSecond)
  (isNext : IsGap next)
  (isThird : HasLower third lowThird)

include isGap in
/-- A text with a gap in it is no number. -/
theorem readInt64?_triple : readInt64? (triple first gap second next third) = none := by
  obtain ⟨c, others, shape⟩ := List.exists_cons_of_ne_nil isGap.filled
  have blank : isBlank c = true := isGap.blanks c (shape ▸ List.mem_cons_self)
  have inside : c ∈ triple first gap second next third := by
    simp [triple, shape]
  exact readInt64?_of_mem (isNoNumeral_of_isBlank blank) inside

include isFirst isGap isSecond isNext isThird

theorem lower_triple :
    IsPlaceless (triple first gap second next third) ∧
      lower (triple first gap second next third) =
        triple lowFirst gap lowSecond next lowThird := by
  obtain ⟨placeless, back⟩ := lower_append_gap isSecond.isPlaceless isNext isThird.isPlaceless
  obtain ⟨whole, front⟩ := lower_append_gap isFirst.isPlaceless isGap placeless
  refine ⟨whole, ?_⟩
  rw [triple, front, back, isFirst.lower_eq, isSecond.lower_eq, isThird.lower_eq, triple]

/-- A text of three words has these words in lower case. -/
theorem words_lower_triple :
    Relative.words (lower (triple first gap second next third)) =
      [lowFirst, lowSecond, lowThird] := by
  rw [(lower_triple isFirst isGap isSecond isNext isThird).2, triple,
    Relative.words_append_gap isGap, Relative.words_append_gap isNext,
    Relative.words_of_visible isFirst.filled isFirst.visible,
    Relative.words_of_visible isSecond.filled isSecond.visible,
    Relative.words_of_visible isThird.filled isThird.visible]
  rfl

omit isGap isSecond isNext in
/-- No blanks stand around three words. -/
theorem isTrimmed_triple : IsTrimmed (triple first gap second next third) where
  begins := isFirst.begins_visible _
  ends c last := by
    have regroup : triple first gap second next third =
        (first ++ (gap ++ (second ++ next))) ++ third := by
      simp [triple]
    rw [regroup, List.getLast?_append_of_ne_nil _ isThird.word_ne_nil] at last
    exact isThird.word_visible c (List.mem_of_mem_getLast? last)

/-- A single word that counts from now has no gap in it, and is no text of three words. -/
theorem lower_triple_ne :
    ∀ word ∈ ["now", "today", "yesterday", "tomorrow"],
      lower (triple first gap second next third) ≠ word.toList := by
  have one : ∀ word ∈ ["now", "today", "yesterday", "tomorrow"],
      (Relative.words word.toList).length = 1 := by
    decide
  intro word member same
  have length := one word member
  rw [← same, words_lower_triple isFirst isGap isSecond isNext isThird] at length
  cases length

/-- What a phrase is read as: the instant that it leads to, or a refusal where there is none. -/
def answered (input : String) : Option Instant → Except Refusal Instant
  | some instant => .ok instant
  | none => .error (.unrecognized input)

/-- A text of three words that is no date by itself is read as a phrase, in words of bounded width
too. -/
theorem read_triple
    {input : String}
    {before after : List Char}
    (blankBefore : ∀ c ∈ before, isBlank c = true)
    (blankAfter : ∀ c ∈ after, isBlank c = true)
    (shape : input.toList = before ++ (triple first gap second next third ++ after))
    (absolute : readAbsolute? (triple first gap second next third) = none)
    (now : Instant) :
    read now input =
        answered input (Relative.read? now (lower (triple first gap second next third))) ∧
      Bounded.read now input = .ok (read now input) := by
  have trimmed : trim input.toList = triple first gap second next third := by
    rw [shape]
    exact trim_padded blankBefore (isTrimmed_triple isFirst isThird) blankAfter
  have number : readInt64? (triple first gap second next third) = none := readInt64?_triple isGap
  have filled : (triple first gap second next third).isEmpty = false := by
    rw [List.isEmpty_eq_false_iff]
    exact List.append_ne_nil_of_left_ne_nil isFirst.word_ne_nil _
  have single := lower_triple_ne isFirst isGap isSecond isNext isThird
  have noYesterday := single "yesterday" (by simp)
  have noTomorrow := single "tomorrow" (by simp)
  have phrase : read now input =
      answered input (Relative.read? now (lower (triple first gap second next third))) := by
    have noNow := single "now" (by simp)
    have noToday := single "today" (by simp)
    simp only [read, trimmed, filled, absolute, number, readFromNow, noNow, noToday, noYesterday,
      noTomorrow, if_false, Bool.false_eq_true]
    cases Relative.read? now (lower (triple first gap second next third)) <;> rfl
  have stays : ¬LeavesCalendar now input := by
    rw [LeavesCalendar, trimmed]
    rintro (⟨word, -⟩ | ⟨word, -⟩)
    · exact noYesterday word
    · exact noTomorrow word
  have noLeast : ¬IsLeast input := by
    rw [IsLeast, trimmed, number]
    simp
  exact ⟨phrase, by rw [bounded_read_eq, if_neg stays, if_neg noLeast]⟩

end Triple

/-! ## Texts that begin with no date -/

/-- No word of a list is taken where the lower case begins otherwise. -/
theorem Scan.word_of_lower
    {words : List String}
    {cs low : List Char}
    (placeless : IsPlaceless cs)
    (begins : low <+: lower cs)
    (apart : ∀ word ∈ words, word.toList.all (·.toNat < 0x80) = true ∧
      ¬word.toList <+: low ∧ ¬low <+: word.toList) :
    Scan.word words cs = none := by
  have absent : words.findIdx? (fun word => word.toList.length ≤ cs.length &&
      (cs.take word.toList.length).map Char.toLower == word.toList) = none := by
    refine List.findIdx?_eq_none_iff.mpr fun word member => ?_
    refine Bool.eq_false_iff.mpr fun taken => ?_
    simp only [Bool.and_eq_true, decide_eq_true_eq, beq_iff_eq] at taken
    obtain ⟨ascii, noFront, noBack⟩ := apart word member
    have front := map_toLower_take_prefix_lower placeless (k := word.toList.length)
      (by rw [taken.2]; simpa using ascii)
    rw [taken.2] at front
    rcases List.prefix_or_prefix_of_prefix front begins with shorter | longer
    · exact noFront shorter
    · exact noBack longer
  simp only [Scan.word, absent]

/-- A text that begins with neither a number nor a weekday is no date that does not depend on the
present. -/
theorem readAbsolute?_of_other
    {c : Char}
    {rest : List Char}
    (plain : c.isDigit = false)
    (noSign : c ≠ '-' ∧ c ≠ '+')
    (visible : isBlank c = false)
    (noWeekday : Scan.word MailDate.weekdays (c :: rest) = none) :
    readAbsolute? (c :: rest) = none := by
  have ends : EndsNumber (c :: rest) := by simpa using plain
  have kept : trimStart (c :: rest) = c :: rest := trimStart_cons_of_not_blank visible rest
  have stuck : ∀ {least most : Nat}, 0 < least → Scan.number least most (c :: rest) = none :=
    fun positive => Scan.number_of_endsNumber ends positive
  have year : Part.readYear (c :: rest) = none := by
    unfold Part.readYear
    rw [kept]
    split
    · next equal =>
        cases equal
        exact absurd rfl noSign.1
    · next equal =>
        cases equal
        exact absurd rfl noSign.2
    · rw [stuck (by decide), Option.map_none]
  have month : Part.readShort (c :: rest) = none := by
    rw [Part.readShort, kept, stuck (by decide)]
  have mail : MailDate.scan (c :: rest) = none := by
    simp only [MailDate.scan, MailDate.scanWeekday, kept, noWeekday, stuck (by decide : 0 < 1),
      Option.bind_eq_bind, Option.bind_some, Option.bind_none]
  exact readAbsolute?_of_no_number (stuck (by decide)) year month mail

/-! ## Counts and units -/

theorem readNat?_padDigits (width n : Nat) : readNat? (padDigits width n) = some n := by
  have digits : (padDigits width n).all Char.isDigit = true :=
    List.all_eq_true.mpr fun _ member => isDigit_of_mem_padDigits member
  simp [readNat?, padDigits_ne_nil, digits]

/-- Zeros in front of a number do not count. -/
theorem readInt?_padDigits (width n : Nat) : readInt? (padDigits width n) = some (n : Int) := by
  have digits : ∀ c ∈ padDigits width n, c.isDigit = true :=
    fun _ member => isDigit_of_mem_padDigits member
  unfold readInt?
  split
  · next equal => exact absurd (digits '-' (by simp [equal])) (by decide)
  · next equal => exact absurd (digits '+' (by simp [equal])) (by decide)
  · rw [readNat?_padDigits]
    rfl

theorem hasLower_padDigits (width n : Nat) :
    HasLower (padDigits width n) (padDigits width n) where
  lower_eq := (lower_of_digits fun _ member => isDigit_of_mem_padDigits member).2
  filled := padDigits_ne_nil width n
  ascii _ member :=
    toNat_lt_of_isAlphanum (by simp [Char.isAlphanum, isDigit_of_mem_padDigits member])
  visible _ member := isBlank_eq_false_of_isDigit (isDigit_of_mem_padDigits member)

namespace TimeUnit

/-- A spelling is read as its unit, with any mark of the plural behind it. -/
theorem ofSpelling?_plural
    {unit : TimeUnit}
    {spelling : String}
    (member : spelling ∈ unit.spellings)
    (plural : Nat) :
    ofSpelling? (spelling.toList ++ List.replicate plural 's') = some unit := by
  have ends : ∀ spelling ∈ unit.spellings,
      spelling.toList.reverse.dropWhile (· == 's') = spelling.toList.reverse := by
    cases unit <;> decide
  have found : ∀ spelling ∈ unit.spellings,
      all.find? (fun unit => unit.spellings.any (·.toList == spelling.toList)) = some unit := by
    cases unit <;> decide
  unfold ofSpelling?
  rw [List.reverse_append, List.reverse_replicate, List.dropWhile_append_of_pos (by simp),
    ends spelling member, List.reverse_reverse]
  exact found spelling member

end TimeUnit

/-- A number and a spelling are read as a count and its unit. -/
theorem Relative.distance?_padDigits
    (width count : Nat)
    {low : List Char}
    {unit : TimeUnit}
    (isUnit : TimeUnit.ofSpelling? low = some unit) :
    distance? (padDigits width count) low = some (count, unit) := by
  have positive : ¬(count : Int) < 0 := by omega
  simp only [distance?, readInt?_padDigits, isUnit, Option.bind_eq_bind, Option.bind_some,
    positive, if_false, Int.toNat_natCast]
  rfl

/-- The word spells the unit: in any case, in full or short, with or without a mark of the plural.
-/
def Spells (word : List Char) (unit : TimeUnit) : Prop :=
  ∃ spelling ∈ unit.spellings, ∃ plural,
    lower word = spelling.toList ++ List.replicate plural 's'

/-- What a word that spells a unit is in lower case. -/
theorem Spells.exists_hasLower
    {word : List Char}
    {unit : TimeUnit}
    (spells : Spells word unit) :
    ∃ low, HasLower word low ∧ TimeUnit.ofSpelling? low = some unit ∧
      ∃ spelling ∈ unit.spellings, spelling.toList <+: low := by
  obtain ⟨spelling, member, plural, same⟩ := spells
  have marks : ∀ spelling ∈ unit.spellings, spelling.toList ≠ [] ∧
      spelling.toList.all (fun c => c.toNat < 0x80 && !isBlank c) = true := by
    cases unit <;> decide
  obtain ⟨filled, front⟩ := marks spelling member
  have back : (List.replicate plural 's').all (fun c => c.toNat < 0x80 && !isBlank c) = true := by
    refine List.all_eq_true.mpr fun c inside => ?_
    rw [List.eq_of_mem_replicate inside]
    decide
  exact ⟨_, .of_checked same (List.append_ne_nil_of_left_ne_nil filled _)
      (by rw [List.all_append, front, back]; rfl),
    TimeUnit.ofSpelling?_plural member plural, spelling, member, List.prefix_append _ _⟩

/-! ## Phrases -/

/-- The side on which a phrase counts. -/
inductive Heading where
  /-- Into the past. -/
  | back
  /-- Into the future. -/
  | ahead
  deriving DecidableEq, Repr

namespace Heading

/-- A count with the sign of its side. -/
def signed : Heading → Nat → Int
  | back, count => -count
  | ahead, count => count

/-- The other side. -/
def opposite : Heading → Heading
  | back => ahead
  | ahead => back

end Heading

/-- The text has three words with gaps in between, and any blanks around them. -/
def HasWords (text : String) (first second third : List Char) : Prop :=
  ∃ before gap next after, (∀ c ∈ before, isBlank c = true) ∧ (∀ c ∈ after, isBlank c = true) ∧
    IsGap gap ∧ IsGap next ∧
    text.toList = before ++ (triple first gap second next third ++ after)

/-- The text is the phrase for a number of units on one side: `ago` stands behind it or `in` before
it, in any case, and zeros may stand in front of the number. -/
inductive IsPhrase (text : String) (count : Nat) (unit : TimeUnit) : Heading → Prop
  | back
      {width : Nat}
      {word ago : List Char}
      (row : HasWords text (padDigits width count) word ago)
      (spells : Spells word unit)
      (side : lower ago = "ago".toList) :
      IsPhrase text count unit .back
  | ahead
      {width : Nat}
      {within word : List Char}
      (row : HasWords text within (padDigits width count) word)
      (spells : Spells word unit)
      (side : lower within = "in".toList) :
      IsPhrase text count unit .ahead

theorem Scan.blanks_of_gap
    {gap rest : List Char}
    (isGap : IsGap gap)
    (begins : ∀ c ∈ rest.head?, isBlank c = false) :
    Scan.blanks (gap ++ rest) = some ((), rest) := by
  obtain ⟨filled, blanks⟩ := isGap
  obtain ⟨c, others, rfl⟩ := List.exists_cons_of_ne_nil filled
  obtain ⟨blank, blanks⟩ := List.forall_mem_cons.mp blanks
  have dropped : trimStart (others ++ rest) = rest := by
    rw [trimStart, List.dropWhile_append_of_pos blanks, dropWhile_isBlank_of_begins begins]
  simp only [List.cons_append, Scan.blanks, blank, if_true, dropped]

section Readers

variable
  {gap word next low : List Char}
  {unit : TimeUnit}
  (isGap : IsGap gap)
  (isWord : HasLower word low)
  (isNext : IsGap next)

include isGap isWord isNext

/-- No unit begins like a month, so that a phrase with its count in front is no date by itself. -/
theorem readAbsolute?_count_first
    {spelling : String}
    (member : spelling ∈ unit.spellings)
    (begins : spelling.toList <+: low)
    {last lowLast : List Char}
    (isLast : HasLower last lowLast)
    (width n : Nat) :
    readAbsolute? (triple (padDigits width n) gap word next last) = none := by
  obtain ⟨c, others, shape⟩ := List.exists_cons_of_ne_nil isGap.filled
  have blank : isBlank c = true := isGap.blanks c (shape ▸ List.mem_cons_self)
  obtain ⟨placeless, lowered⟩ := lower_append_gap isWord.isPlaceless isNext isLast.isPlaceless
  have apart : ∀ spelling ∈ unit.spellings, ∀ month ∈ MailDate.months,
      month.toList.all (·.toNat < 0x80) = true ∧
        ¬month.toList <+: spelling.toList ∧ ¬spelling.toList <+: month.toList := by
    cases unit <;> decide
  refine readAbsolute?_of_digits (padDigits_ne_nil width n)
    (fun _ inside => isDigit_of_mem_padDigits inside) ?_ ?_ ?_
  · rw [shape]
    simpa using (isNoNumeral_of_isBlank blank).notDigit
  · intro mark marks head
    have same : c = mark := by simpa [shape] using head
    rcases marks with rfl | rfl
    · exact absurd (same ▸ blank) (by decide)
    · exact absurd (same ▸ blank) (by decide)
  · intro behind taken
    rw [Scan.blanks_of_gap isGap (isWord.begins_visible _)] at taken
    cases taken
    refine Scan.word_of_lower placeless ?_ (apart spelling member)
    rw [lowered, isWord.lower_eq]
    exact begins.trans (List.prefix_append _ _)

/-- No weekday begins like `in`, so that a phrase with this word in front is no date by itself. -/
theorem readAbsolute?_in_first
    {within last lowLast : List Char}
    (isWithin : HasLower within "in".toList)
    (isLast : HasLower last lowLast) :
    readAbsolute? (triple within gap word next last) = none := by
  obtain ⟨placeless, lowered⟩ := lower_triple isWithin isGap isWord isNext isLast
  have noWeekday : Scan.word MailDate.weekdays (triple within gap word next last) = none := by
    have begins : "in".toList <+: lower (triple within gap word next last) := by
      rw [lowered, triple]
      exact List.prefix_append _ _
    exact Scan.word_of_lower placeless begins (by decide)
  obtain ⟨c, others, shape⟩ := List.exists_cons_of_ne_nil isWithin.word_ne_nil
  have member : c ∈ within := shape ▸ List.mem_cons_self
  -- A character of ASCII without case would stand in the word `in` itself.
  have cased : ∀ {d : Char}, d ∈ within → d.toNat < 0x80 → d.toLower = d → d = 'i' ∨ d = 'n' := by
    intro d inside ascii caseless
    have there := isWithin.mem_of_caseless inside (by rw [lowerChar_of_ascii ascii, caseless])
    simpa using there
  have plain : c.isDigit = false := by
    refine Bool.eq_false_iff.mpr fun digit => ?_
    have ascii := toNat_lt_of_isAlphanum (c := c) (by simp [Char.isAlphanum, digit])
    rcases cased member ascii (toLower_of_not_isAlpha (isAlpha_of_isDigit digit)) with rfl | rfl
    · exact absurd digit (by decide)
    · exact absurd digit (by decide)
  have noSign : c ≠ '-' ∧ c ≠ '+' := by
    constructor
    · rintro rfl
      exact absurd (cased member (by decide) (by decide)) (by decide)
    · rintro rfl
      exact absurd (cased member (by decide) (by decide)) (by decide)
  rw [triple, shape, List.cons_append] at noWeekday ⊢
  exact readAbsolute?_of_other plain noSign (isWithin.word_visible c member) noWeekday

end Readers

/-- A phrase is read as the instant so many units away, and refused where the calendar has none
there, in words of bounded width too. -/
theorem IsPhrase.read_eq
    {text : String}
    {count : Nat}
    {unit : TimeUnit}
    {heading : Heading}
    (phrase : IsPhrase text count unit heading)
    (now : Instant) :
    read now text = answered text (unit.shift (heading.signed count) now) ∧
      Bounded.read now text = .ok (read now text) := by
  cases phrase with
  | @back width word ago row spells side =>
      obtain ⟨before, gap, next, after, blankBefore, blankAfter, isGap, isNext, shape⟩ := row
      obtain ⟨low, isWord, isUnit, spelling, member, begins⟩ := spells.exists_hasLower
      have isCount := hasLower_padDigits width count
      have isAgo : HasLower ago "ago".toList := .of_checked side (by decide) (by decide)
      obtain ⟨reads, bounded⟩ := read_triple isCount isGap isWord isNext isAgo blankBefore
        blankAfter shape (readAbsolute?_count_first isGap isWord isNext member begins isAgo _ _) now
      refine ⟨reads.trans (congrArg (answered text) ?_), bounded⟩
      simp only [Relative.read?, words_lower_triple isCount isGap isWord isNext isAgo, if_true,
        Relative.distance?_padDigits width count isUnit, Option.bind_eq_bind, Option.bind_some]
      rfl
  | @ahead width within word row spells side =>
      obtain ⟨before, gap, next, after, blankBefore, blankAfter, isGap, isNext, shape⟩ := row
      obtain ⟨low, isWord, isUnit, spelling, member, begins⟩ := spells.exists_hasLower
      have isCount := hasLower_padDigits width count
      have isWithin : HasLower within "in".toList := .of_checked side (by decide) (by decide)
      have notAgo : low ≠ "ago".toList := by
        rintro rfl
        have apart : ∀ spelling ∈ unit.spellings, ¬spelling.toList <+: "ago".toList := by
          cases unit <;> decide
        exact apart spelling member begins
      obtain ⟨reads, bounded⟩ := read_triple isWithin isGap isCount isNext isWord blankBefore
        blankAfter shape (readAbsolute?_in_first isGap isCount isNext isWithin isWord) now
      refine ⟨reads.trans (congrArg (answered text) ?_), bounded⟩
      simp only [Relative.read?, words_lower_triple isWithin isGap isCount isNext isWord, notAgo,
        if_false, if_true, Relative.distance?_padDigits width count isUnit, Option.bind_eq_bind,
        Option.bind_some]
      rfl

end Time
end ThreatIntel
