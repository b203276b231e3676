import Mathlib.Data.List.Forall2
import ThreatIntel.Proofs.Query.Calls
import ThreatIntel.Proofs.Query.Dates
import ThreatIntel.Proofs.Time.Counts

/-!
# Counts in clauses

A date may be given as a count of seconds or milliseconds since 1970, in a number or in the decimal
text of one. Main statement: both are kept as the same date or refused for the same reason, item by
item in a list, and a count is kept just when the calendar has an instant there.
-/

namespace ThreatIntel
namespace Query
namespace Filter

open Text Time

variable
  {now : Instant}

/-- A count is converted alike as a number and as a text. -/
theorem dateText_of_isDecimal
    {text : String}
    {n : Int64}
    (decimal : IsDecimal text n) :
    dateText now text = dateCount n := by
  unfold dateText dateCount
  rw [read_of_isDecimal now decimal]

/-- A list of counts is converted alike as numbers and as texts, up to the first refused item. -/
theorem mapM_dateText_of_isDecimal
    {texts : List String}
    {ns : List Int64}
    (decimal : List.Forall₂ IsDecimal texts ns) :
    texts.mapM (dateText now) = ns.mapM dateCount := by
  induction decimal with
  | nil => rfl
  | cons first others inductionHypothesis =>
      rw [List.mapM_cons, List.mapM_cons, dateText_of_isDecimal first, inductionHypothesis]

theorem dateCount_eq_ok_iff_isAt
    {n : Int64}
    {date : String} :
    dateCount n = .ok date ↔
      ∃ instant : Instant, instant.IsAt n.toInt ∧ instant.canonical = date := by
  rw [dateCount_eq_ok_iff]
  simp only [ofEpoch_eq_ok_iff]

/-- A list of counts is converted when the calendar has an instant for each of them. -/
theorem mapM_dateCount_eq_ok_iff
    {ns : List Int64}
    {dates : List String} :
    ns.mapM dateCount = .ok dates ↔
      ∃ instants : List Instant, List.Forall₂ (fun n instant => instant.IsAt n.toInt) ns instants ∧
        instants.map Instant.canonical = dates := by
  constructor
  · intro converted
    obtain ⟨instants, read, written⟩ :=
      exists_values_of_mapM_eq_ok (fun n date => (dateCount_eq_ok_iff n date).mp) converted
    rw [← List.forall₂_eq_eq_eq, List.forall₂_map_left_iff, List.forall₂_map_right_iff] at read
    exact ⟨instants, read.imp fun _ _ => ofEpoch_eq_ok_iff.mp, written⟩
  · rintro ⟨instants, placed, rfl⟩
    rw [mapM_eq_ok_iff_forall₂, List.forall₂_map_right_iff]
    exact placed.imp fun _ instant isAt => dateCount_eq_ok_iff_isAt.mpr ⟨instant, isAt, rfl⟩

section Add

variable
  {filter : Filter}
  {field : Field}
  {name : String}
  (found : filter.resource.field? name = some field)
  (date : field.type = .date)
  (operator : Operator)

include found

/-- Literals that come to the same are kept alike, or refused for the same reason. -/
theorem add_congr
    {left right : Operand}
    (same : coerce now field left = coerce now field right) :
    filter.add now name operator left = filter.add now name operator right := by
  simp only [add, found, set, same]

include date

/-- A literal that is brought into the layout of the server is kept when the operator takes as many.
-/
theorem add_date_eq_ok_iff
    {operand : Operand}
    (next : Filter) :
    filter.add now name operator operand = .ok next ↔
      ∃ result, coerce now field operand = .ok result ∧
        operator.takesList = result.shape.isList ∧ next = filter.kept field operator result := by
  have known : field ∈ filter.resource.fields := ((Resource.field?_eq_some_iff name).mp found).1
  have declared : field.type.valueType = .text := by rw [date]; rfl
  rw [add_eq_ok_iff]
  simp only [found, Option.some.injEq, exists_eq_left', set_eq_ok_iff, declared]
  refine exists_congr fun result => and_congr_right fun coerced => ?_
  have texts : result.shape.type = .text := by
    cases dated_of_coerce date coerced <;> rfl
  rw [refusal?_date_eq_none_iff known operator texts]
  rfl

/-- A number is kept just when the calendar has an instant there. -/
theorem add_integer_eq_ok_iff
    (n : Int64)
    (next : Filter) :
    filter.add now name operator (.integer n) = .ok next ↔
      operator.takesList = false ∧ ∃ instant : Instant, instant.IsAt n.toInt ∧
        next = filter.kept field operator (.text instant.canonical) := by
  have coerced : coerce now field (.integer n) = (dateCount n).map .text := by
    simp only [coerce, date, if_true]
  rw [add_date_eq_ok_iff found date, coerced]
  constructor
  · rintro ⟨result, converted, single, rfl⟩
    obtain ⟨written, counted, rfl⟩ := (map_eq_ok_iff _ _ _).mp converted
    obtain ⟨instant, isAt, rfl⟩ := dateCount_eq_ok_iff_isAt.mp counted
    exact ⟨single, instant, isAt, rfl⟩
  · rintro ⟨single, instant, isAt, rfl⟩
    have counted : dateCount n = .ok instant.canonical :=
      dateCount_eq_ok_iff_isAt.mpr ⟨instant, isAt, rfl⟩
    exact ⟨_, (map_eq_ok_iff _ _ _).mpr ⟨_, counted, rfl⟩, single, rfl⟩

/-- A list of numbers is kept just when the calendar has an instant for each of them. -/
theorem add_integers_eq_ok_iff
    (ns : List Int64)
    (next : Filter) :
    filter.add now name operator (.integers ns) = .ok next ↔
      operator.takesList = true ∧ ∃ instants : List Instant,
        List.Forall₂ (fun n instant => instant.IsAt n.toInt) ns instants ∧
        next = filter.kept field operator (.texts (instants.map Instant.canonical)) := by
  have coerced : coerce now field (.integers ns) = (ns.mapM dateCount).map .texts := by
    simp only [coerce, date, if_true]
  rw [add_date_eq_ok_iff found date, coerced]
  constructor
  · rintro ⟨result, converted, several, rfl⟩
    obtain ⟨written, counted, rfl⟩ := (map_eq_ok_iff _ _ _).mp converted
    obtain ⟨instants, placed, rfl⟩ := mapM_dateCount_eq_ok_iff.mp counted
    exact ⟨several, instants, placed, rfl⟩
  · rintro ⟨several, instants, placed, rfl⟩
    have counted : ns.mapM dateCount = .ok (instants.map Instant.canonical) :=
      mapM_dateCount_eq_ok_iff.mpr ⟨instants, placed, rfl⟩
    exact ⟨_, (map_eq_ok_iff _ _ _).mpr ⟨_, counted, rfl⟩, several, rfl⟩

/-- A count since 1970 means the same as a number and as its decimal text, whatever its sign, its
length and the blanks around it, in words of bounded width too: compared with a date, both leave the
same clause or are refused for the same reason, and so do lists of them, item by item. A count is
kept just when the calendar has an instant there and the operator takes as many: below twelve digits
the second, from there on the millisecond, which is written and read again as the second in which it
lies. -/
theorem counts_kept_alike :
    (∀ (text : String) (n : Int64), IsDecimal text n →
      filter.add now name operator (.text text) = filter.add now name operator (.integer n) ∧
        Bounded.read now text = Bounded.ofEpoch n) ∧
    (∀ (texts : List String) (ns : List Int64), List.Forall₂ IsDecimal texts ns →
      filter.add now name operator (.texts texts) = filter.add now name operator (.integers ns)) ∧
    (∀ (n : Int64) (next : Filter), filter.add now name operator (.integer n) = .ok next ↔
      operator.takesList = false ∧ ∃ instant : Instant, instant.IsAt n.toInt ∧
        next = filter.kept field operator (.text instant.canonical)) ∧
    (∀ (ns : List Int64) (next : Filter), filter.add now name operator (.integers ns) = .ok next ↔
      operator.takesList = true ∧ ∃ instants : List Instant,
        List.Forall₂ (fun n instant => instant.IsAt n.toInt) ns instants ∧
        next = filter.kept field operator (.texts (instants.map Instant.canonical))) ∧
    ∀ (n : Int64) (instant : Instant), instant.IsAt n.toInt → ∀ later : Instant,
      ∃ whole : Instant, read later instant.canonical = .ok whole ∧ whole.nanos = 0 ∧
        whole.seconds = if n.toInt.natAbs < 100000000000 then n.toInt else n.toInt / 1000 := by
  refine ⟨?_, ?_, add_integer_eq_ok_iff found date operator,
    add_integers_eq_ok_iff found date operator, ?_⟩
  · intro text n decimal
    refine ⟨add_congr found operator ?_, bounded_read_of_isDecimal now decimal⟩
    simp only [coerce, date, if_true, dateText_of_isDecimal decimal]
  · intro texts ns decimal
    refine add_congr found operator ?_
    simp only [coerce, date, if_true, mapM_dateText_of_isDecimal decimal]
  · exact fun n instant isAt later => isAt.read_canonical later

end Add

/-- A millisecond before 1970 and the last second below the threshold, as texts between blanks. -/
theorem counts_kept_alike_at_threshold :
    (empty .artifact).add .epoch "date_added" .among
        (.texts ["\u2003-100000000001\n", "99999999999"]) =
      .ok ((empty .artifact).kept ⟨"dateAdded", .date⟩ .among
        (.texts ["1966-10-31T14:13:19", "5138-11-16T09:46:39"])) ∧
    ∃ whole : Instant, read .epoch "1966-10-31T14:13:19" = .ok whole ∧ whole.nanos = 0 ∧
      whole.seconds = -100000001 := by
  let before : Instant := ⟨-100000001, 999000000, by decide, by decide⟩
  let last : Instant := ⟨99999999999, 0, by decide, by decide⟩
  have found : (empty .artifact).resource.field? "date_added" = some ⟨"dateAdded", .date⟩ := by
    decide +kernel
  obtain ⟨-, texts, -, numbers, reread⟩ :=
    @counts_kept_alike .epoch _ _ _ found rfl .among
  have blank : ∀ c ∈ "\u2003".toList ++ "\n".toList, isBlank c = true :=
    List.all_eq_true.mp (by decide)
  have decimal : List.Forall₂ IsDecimal ["\u2003-100000000001\n", "99999999999"]
      [-100000000001, 99999999999] :=
    .cons ⟨"\u2003".toList, "\n".toList, fun c member => blank c (List.mem_append_left _ member),
        fun c member => blank c (List.mem_append_right _ member), by decide +kernel⟩
      (.cons ⟨[], [], by simp, by simp, by decide +kernel⟩ .nil)
  have placed : before.IsAt (-100000000001 : Int64).toInt := ⟨by decide, by decide⟩
  have written : before.canonical = "1966-10-31T14:13:19" ∧
      last.canonical = "5138-11-16T09:46:39" := by
    decide +kernel
  constructor
  · rw [texts _ _ decimal, numbers]
    refine ⟨rfl, [before, last], .cons placed (.cons ⟨by decide, by decide⟩ .nil), ?_⟩
    rw [List.map_cons, List.map_singleton, written.1, written.2]
  · rw [← written.1]
    exact reread (-100000000001) before placed .epoch

end Filter
end Query
end ThreatIntel
