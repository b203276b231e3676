import ThreatIntel.Proofs.Query.Coercion
import ThreatIntel.Proofs.Query.Names
import ThreatIntel.Proofs.Time.Canonical

/-!
# Dates stay as they are kept

A literal that is compared with a date is kept in the layout of the server. Dates in this layout are
kept without change: the text that a coercion leaves is read as the second that it was written for,
and writing that second gives the text again.
-/

namespace ThreatIntel
namespace Query
namespace Filter

open Time

/-- The filter with one clause more, behind all others, that compares a date with texts. -/
def kept
    (filter : Filter)
    (field : Field)
    (operator : Operator)
    (operand : Operand) : Filter where
  resource := filter.resource
  query := {
    clauses := filter.query.clauses ++ [⟨field.keyword, operator, operand, .text⟩]
    join := filter.query.join }

/-- A date in the layout of the server is left as it is. -/
theorem dateText_canonical (now instant : Instant) :
    dateText now instant.canonical = .ok instant.canonical := by
  simp only [dateText, read_canonical, instant.canonical_truncate]

/-- Dates in the layout of the server are left as they are. -/
theorem coerce_of_isCanonical
    {field : Field}
    (date : field.type = .date)
    {operand : Operand}
    (canonical : operand.IsCanonical)
    (now : Instant) :
    coerce now field operand = .ok operand := by
  unfold coerce
  rw [if_pos date]
  cases operand with
  | text value =>
      obtain ⟨instant, rfl⟩ := canonical
      exact (map_eq_ok_iff _ _ _).mpr ⟨_, dateText_canonical now instant, rfl⟩
  | texts values =>
      have kept : values.map (dateText now) = values.map .ok := by
        refine List.map_congr_left fun value member => ?_
        obtain ⟨instant, rfl⟩ := canonical value member
        exact dateText_canonical now instant
      exact (map_eq_ok_iff _ _ _).mpr ⟨values, (mapM_eq_ok_iff _ _ _).mpr kept, rfl⟩
  | boolean value => exact canonical.elim
  | integer value => exact canonical.elim
  | integers values => exact canonical.elim
  | subQuery query => exact canonical.elim

/-- A clause that compares a known date with texts fits together when its operator takes as many. -/
theorem refusal?_date_eq_none_iff
    {resource : Resource}
    {field : Field}
    (known : field ∈ resource.fields)
    (operator : Operator)
    {operand : Operand}
    (texts : operand.shape.type = .text) :
    Clause.refusal? ⟨field.keyword, operator, operand, .text⟩ = none ↔
      operator.takesList = operand.shape.isList := by
  have allowed : isKeyword field.keyword = true :=
    (Resource.isKeyword_of_mem_keywords (Resource.keyword_mem_of_field known)).1
  by_cases fits : operator.takesList = operand.shape.isList
  · simp [Clause.refusal?, allowed, texts, fits, ValueType.supports]
  · have differs : operand.shape.isList ≠ operator.takesList := fun same => fits same.symm
    simp [Clause.refusal?, allowed, texts, fits, differs]

/-- An instant that is compared with a date is kept in the layout of the server. -/
theorem set_ofInstant
    (now instant : Instant)
    {filter : Filter}
    {field : Field}
    (known : field ∈ filter.resource.fields)
    (date : field.type = .date)
    {operator : Operator}
    (single : operator.takesList = false) :
    filter.set now field operator (ofInstant instant) =
      .ok (filter.kept field operator (.text instant.canonical)) := by
  have canonical : (ofInstant instant).IsCanonical := ⟨instant, rfl⟩
  have coerced : coerce now field (ofInstant instant) = .ok (.text instant.canonical) :=
    coerce_of_isCanonical date canonical now
  have added : filter.query.add ⟨field.keyword, operator, .text instant.canonical, .text⟩ =
      .ok (filter.query.push ⟨field.keyword, operator, .text instant.canonical, .text⟩) :=
    (Expression.add_eq_ok_iff _ _ _).mpr
      ⟨(refusal?_date_eq_none_iff known operator rfl).mpr single, rfl⟩
  have declared : field.type.valueType = .text := by rw [date]; rfl
  simp only [set, coerced, declared, bind, Except.bind, added, kept, Expression.push]

/-- The layout of the server is where dates come to rest. A written instant is read, at any time, as
its whole second, in which a leap second stays one; what a coercion of dates leaves is left as it is
by every later one; and an instant is kept just as it is written, in a clause behind all others. -/
theorem canonical_dates_stay :
    (∀ now instant : Instant, ∃ whole, Time.read now instant.canonical = .ok whole ∧
      whole.seconds = instant.seconds ∧
      whole.nanos = if instant.nanos < nanosPerSecond then 0 else nanosPerSecond) ∧
    ∀ field : Field, field.type = .date →
      (∀ (now later : Instant) (operand result : Operand),
        coerce now field operand = .ok result → coerce later field result = .ok result) ∧
      ∀ (now instant : Instant) (filter : Filter) (operator : Operator),
        field ∈ filter.resource.fields → operator.takesList = false →
        filter.set now field operator (ofInstant instant) =
          .ok (filter.kept field operator (.text instant.canonical)) := by
  refine ⟨fun now instant => ?_, fun field date => ⟨?_, ?_⟩⟩
  · exact ⟨instant.truncate, read_canonical now instant, rfl, instant.nanos_truncate⟩
  · intro now later operand result coerced
    exact coerce_of_isCanonical date (dated_of_coerce date coerced).isCanonical later
  · intro now instant filter operator known single
    exact set_ofInstant now instant known date single

theorem canonical_dates_stay_of_leap_second :
    coerce .epoch ⟨"dateAdded", .date⟩ (.texts ["+12345-12-31 23:59:60.5", "0"]) =
        .ok (.texts ["+12345-12-31T23:59:60", "1970-01-01T00:00:00"]) ∧
      coerce .epoch ⟨"dateAdded", .date⟩ (.texts ["+12345-12-31T23:59:60", "1970-01-01T00:00:00"]) =
        .ok (.texts ["+12345-12-31T23:59:60", "1970-01-01T00:00:00"]) ∧
      set .epoch (empty .artifact) ⟨"dateAdded", .date⟩ .equal (ofInstant .epoch) =
        .ok ⟨.artifact, ⟨[⟨"dateAdded", .equal, .text "1970-01-01T00:00:00", .text⟩], .and⟩⟩ := by
  obtain ⟨stays, stored⟩ := canonical_dates_stay.2 ⟨"dateAdded", .date⟩ rfl
  have coerced : coerce .epoch ⟨"dateAdded", .date⟩ (.texts ["+12345-12-31 23:59:60.5", "0"]) =
      .ok (.texts ["+12345-12-31T23:59:60", "1970-01-01T00:00:00"]) := by
    decide +kernel
  have written : Instant.epoch.canonical = "1970-01-01T00:00:00" := by
    decide +kernel
  have added := stored .epoch .epoch (empty .artifact) .equal (by decide) rfl
  rw [written] at added
  exact ⟨coerced, stays _ _ _ _ coerced, added⟩

end Filter
end Query
end ThreatIntel
