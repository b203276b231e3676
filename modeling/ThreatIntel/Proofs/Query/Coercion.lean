import ThreatIntel.Proofs.Lists
import ThreatIntel.Query.Filter

/-!
# Dates in clauses

What becomes of a literal that is compared with a date: it is a date, or a list of dates, in the
layout of the server, and a literal that cannot be brought into that layout is refused. A list is
refused as a whole when one of its items is.
-/

namespace ThreatIntel

namespace Query

/-- The literal is a date or a list of dates in the layout of the server. -/
def Operand.IsCanonical : Operand → Prop
  | .text value => ∃ instant : Time.Instant, value = instant.canonical
  | .texts values => ∀ value ∈ values, ∃ instant : Time.Instant, value = instant.canonical
  | .boolean _ | .integer _ | .integers _ | .subQuery _ => False

/-- The literal cannot be read as a date, or some item of it cannot. -/
def Operand.HasNoDate (now : Time.Instant) : Operand → Prop
  | .text value => ∃ cause, Time.read now value = .error cause
  | .texts values => ∃ value ∈ values, ∃ cause, Time.read now value = .error cause
  | .integer value => ∃ cause, Time.ofEpoch value.toInt = .error cause
  | .integers values => ∃ value ∈ values, ∃ cause, Time.ofEpoch value.toInt = .error cause
  | .boolean _ | .subQuery _ => True

/-- A literal and the same dates in the layout of the server. -/
inductive Operand.Dated (now : Time.Instant) : Operand → Operand → Prop
  | text
      {value : String}
      {instant : Time.Instant}
      (read : Time.read now value = .ok instant) :
      Dated now (.text value) (.text instant.canonical)
  | integer
      {value : Int64}
      {instant : Time.Instant}
      (read : Time.ofEpoch value.toInt = .ok instant) :
      Dated now (.integer value) (.text instant.canonical)
  | texts
      {values : List String}
      {instants : List Time.Instant}
      (read : values.map (Time.read now) = instants.map .ok) :
      Dated now (.texts values) (.texts (instants.map Time.Instant.canonical))
  | integers
      {values : List Int64}
      {instants : List Time.Instant}
      (read : values.map (fun value => Time.ofEpoch value.toInt) = instants.map .ok) :
      Dated now (.integers values) (.texts (instants.map Time.Instant.canonical))

namespace Operand

theorem Dated.isCanonical
    {now : Time.Instant}
    {operand result : Operand}
    (dated : Dated now operand result) :
    result.IsCanonical := by
  cases dated with
  | @text _ instant _ => exact ⟨instant, rfl⟩
  | @integer _ instant _ => exact ⟨instant, rfl⟩
  | texts _ | integers _ =>
      intro value member
      obtain ⟨instant, -, same⟩ := List.mem_map.mp member
      exact ⟨instant, same.symm⟩

/-- A list with an item that cannot be read has not been read. -/
theorem map_ne_of_error
    {α : Type}
    {read : α → Except Time.Refusal Time.Instant}
    {values : List α}
    {value : α}
    (member : value ∈ values)
    {cause : Time.Refusal}
    (fails : read value = .error cause)
    (instants : List Time.Instant) :
    values.map read ≠ instants.map .ok := by
  intro all
  have image : read value ∈ instants.map .ok := all ▸ List.mem_map_of_mem member
  rw [fails] at image
  simp at image

theorem Dated.not_hasNoDate
    {now : Time.Instant}
    {operand result : Operand}
    (dated : Dated now operand result) :
    ¬operand.HasNoDate now := by
  intro unreadable
  cases dated with
  | text read | integer read =>
      obtain ⟨cause, fails⟩ := unreadable
      simp [read] at fails
  | texts read | integers read =>
      obtain ⟨value, member, cause, fails⟩ := unreadable
      exact map_ne_of_error member fails _ read

end Operand

namespace Filter

theorem dateText_eq_ok_iff
    (now : Time.Instant)
    (text date : String) :
    dateText now text = .ok date ↔
      ∃ instant, Time.read now text = .ok instant ∧ instant.canonical = date := by
  unfold dateText
  cases Time.read now text <;> simp

theorem dateCount_eq_ok_iff
    (count : Int64)
    (date : String) :
    dateCount count = .ok date ↔
      ∃ instant, Time.ofEpoch count.toInt = .ok instant ∧ instant.canonical = date := by
  unfold dateCount
  cases Time.ofEpoch count.toInt <;> simp

section Coerce

variable
  {now : Time.Instant}
  {field : Field}
  {operand : Operand}

/-- What is compared with a date is brought into the layout of the server. -/
theorem dated_of_coerce
    (date : field.type = .date)
    {result : Operand}
    (coerced : coerce now field operand = .ok result) :
    operand.Dated now result := by
  unfold coerce at coerced
  rw [if_pos date] at coerced
  cases operand with
  | text value =>
      obtain ⟨written, converted, rfl⟩ := (map_eq_ok_iff _ _ _).mp coerced
      obtain ⟨instant, read, rfl⟩ := (dateText_eq_ok_iff now value written).mp converted
      exact .text read
  | integer value =>
      obtain ⟨written, converted, rfl⟩ := (map_eq_ok_iff _ _ _).mp coerced
      obtain ⟨instant, read, rfl⟩ := (dateCount_eq_ok_iff value written).mp converted
      exact .integer read
  | texts values =>
      obtain ⟨written, converted, rfl⟩ := (map_eq_ok_iff _ _ _).mp coerced
      obtain ⟨instants, read, rfl⟩ := exists_values_of_mapM_eq_ok
        (fun value text => (dateText_eq_ok_iff now value text).mp) converted
      exact .texts read
  | integers values =>
      obtain ⟨written, converted, rfl⟩ := (map_eq_ok_iff _ _ _).mp coerced
      obtain ⟨instants, read, rfl⟩ := exists_values_of_mapM_eq_ok
        (fun value text => (dateCount_eq_ok_iff value text).mp) converted
      exact .integers read
  | boolean value => cases coerced
  | subQuery query => cases coerced

/-- What cannot be read as a date is not compared with one; one such item in a list is enough. -/
theorem coerce_refused
    (date : field.type = .date)
    (unreadable : operand.HasNoDate now) :
    ∃ refusal, coerce now field operand = .error refusal := by
  cases coerced : coerce now field operand with
  | error refusal => exact ⟨refusal, rfl⟩
  | ok result => exact absurd unreadable (dated_of_coerce date coerced).not_hasNoDate

end Coerce
end Filter
end Query
end ThreatIntel
