import ThreatIntel.Proofs.Query.Calls
import ThreatIntel.Proofs.Query.Coercion

/-!
# Filters conform to the schema

A query conforms to a kind of record when each of its clauses names a field or a relation of that
kind, declares the type that belongs to it, compares dates with nothing but dates in the layout of
the server, and nests, under a relation, a query that conforms to the related kind. Whatever is
called on a filter, by name or by its methods, accepted or refused, its query conforms to its kind.
-/

namespace ThreatIntel
namespace Query

/-- The clause is one that the schema of a kind of record allows. -/
inductive Clause.Conforms : Resource → Clause → Prop
  | field
      {resource : Resource}
      {field : Field}
      {operator : Operator}
      {operand : Operand}
      (known : field ∈ resource.fields)
      (canonical : field.type = .date → operand.IsCanonical) :
      Conforms resource ⟨field.keyword, operator, operand, field.type.valueType⟩
  | relation
      {resource : Resource}
      {relation : Relation}
      {child : Expression}
      (known : relation ∈ resource.relations)
      (nested : ∀ clause ∈ child.clauses, Conforms relation.target clause) :
      Conforms resource ⟨relation.keyword, .equal, .subQuery child, .subQuery⟩

/-- Every clause of the query is one that the schema of a kind of record allows. -/
def Expression.Conforms (resource : Resource) (query : Expression) : Prop :=
  ∀ clause ∈ query.clauses, clause.Conforms resource

namespace Expression

theorem conforms_empty (resource : Resource) : empty.Conforms resource := by
  simp [Conforms, empty]

/-- A clause that the schema allows may be appended. -/
theorem Conforms.push
    {resource : Resource}
    {query : Expression}
    {clause : Clause}
    (conforms : query.Conforms resource)
    (allowed : clause.Conforms resource) :
    (query.push clause).Conforms resource := by
  intro other member
  rw [clauses_push, List.mem_append, List.mem_singleton] at member
  rcases member with old | new
  · exact conforms other old
  · exact new ▸ allowed

end Expression

namespace Filter

/-- The filter is one over a kind of record, and its query conforms to that kind. -/
structure Conforms (resource : Resource) (filter : Filter) : Prop where
  /-- The kind of record. -/
  kind : filter.resource = resource
  /-- The query conforms to it. -/
  query : filter.query.Conforms resource

theorem conforms_empty (resource : Resource) : (empty resource).Conforms resource where
  kind := rfl
  query := Expression.conforms_empty resource

section Step

variable
  {resource : Resource}
  {filter : Filter}

/-- Trying to append a clause on a field keeps the filter in conformance. -/
theorem Conforms.tryAdd
    (conforms : filter.Conforms resource)
    (now : Time.Instant)
    (name : String)
    (operator : Operator)
    (operand : Operand) :
    (filter.tryAdd now name operator operand).2.Conforms resource := by
  cases called : filter.add now name operator operand with
  | error refusal =>
      rw [tryAdd_of_refused called]
      exact conforms
  | ok next =>
      rw [tryAdd_of_accepted called]
      obtain ⟨field, found, accepted⟩ :=
        (add_eq_ok_iff now filter next name operator operand).mp called
      obtain ⟨result, coerced, -, rfl⟩ :=
        (set_eq_ok_iff now filter next field operator operand).mp accepted
      have known : field ∈ resource.fields := by
        rw [← conforms.kind]
        exact List.mem_of_find?_eq_some found
      have canonical : field.type = .date → result.IsCanonical := fun date =>
        (dated_of_coerce date coerced).isCanonical
      exact ⟨conforms.kind, conforms.query.push (.field known canonical)⟩

/-- Calls on a nested filter keep the filter in conformance if they keep the nested filter so. -/
theorem Conforms.into
    (conforms : filter.Conforms resource)
    {relation : Relation}
    (known : relation ∈ resource.relations)
    {calls : Filter → Outcome}
    (nested : (calls (empty relation.target)).2.Conforms relation.target) :
    (filter.into relation (opening calls)).2.Conforms resource where
  kind := conforms.kind
  query := conforms.query.push (.relation known nested.query)

end Step
end Filter

open Query.Filter

/-- Calls by name keep a filter in conformance. -/
theorem NamedCalls.conforms_run
    (calls : NamedCalls)
    {resource : Resource}
    {filter : Filter}
    (conforms : filter.Conforms resource) :
    (calls.run filter).2.Conforms resource := by
  induction calls generalizing resource filter with
  | done => exact conforms
  | add now name operator operand rest inductionHypothesis =>
      exact inductionHypothesis (conforms.tryAdd now name operator operand)
  | within name nested rest nestedHypothesis inductionHypothesis =>
      apply inductionHypothesis
      cases found : filter.resource.relation? name with
      | none =>
          rw [tryWithin_of_unknown found]
          exact conforms
      | some relation =>
          rw [tryWithin_of_known found]
          have known : relation ∈ resource.relations := by
            rw [← conforms.kind]
            exact List.mem_of_find?_eq_some found
          exact conforms.into known (nestedHypothesis (conforms_empty relation.target))

/-- Calls of either style keep a filter in conformance. -/
theorem Calls.conforms_run
    {resource : Resource}
    (calls : Calls resource)
    {filter : Filter}
    (conforms : filter.Conforms resource) :
    (calls.run filter).2.Conforms resource := by
  induction calls generalizing filter with
  | done => exact conforms
  | compare now field known operator operand rest inductionHypothesis =>
      exact inductionHypothesis (conforms.tryAdd now field.keyword operator operand)
  | follow relation known nested rest nestedHypothesis inductionHypothesis =>
      exact inductionHypothesis
        (conforms.into known (nestedHypothesis (conforms_empty relation.target)))
  | named calls rest inductionHypothesis =>
      exact inductionHypothesis (calls.conforms_run conforms)

/-- A date field takes no literal that cannot be read as a date, and no list with such an item. -/
theorem Filter.add_refused
    {now : Time.Instant}
    {filter : Filter}
    {name : String}
    {field : Field}
    {operand : Operand}
    (found : filter.resource.field? name = some field)
    (date : field.type = .date)
    (unreadable : operand.HasNoDate now)
    (operator : Operator) :
    ∃ refusal, filter.add now name operator operand = .error refusal := by
  obtain ⟨refusal, refused⟩ := coerce_refused date unreadable
  exact ⟨refusal, by simp [add, found, set, refused, bind, Except.bind]⟩

/-- Whatever is called on a filter that starts without clauses, its query conforms to its kind of
record. Without the refused calls, at any depth, the row of calls leads to the same query; and a
call that compares a date with a literal, or a list with an item, that is none is refused. -/
theorem Calls.run_empty_conforms
    (resource : Resource)
    (calls : Calls resource) :
    let start := Filter.empty resource
    let reached := (calls.run start).2
    reached.resource = resource ∧ reached.query.Conforms resource ∧
      (calls.accepted start).run start = ((calls.run start).1.filter (·.isOk), reached) ∧
      ∀ (now : Time.Instant) (name : String) (field : Field) (operator : Operator)
        (operand : Operand),
        resource.field? name = some field → field.type = .date → operand.HasNoDate now →
          ∃ refusal, reached.tryAdd now name operator operand = ([.error refusal], reached) := by
  intro start reached
  have conforms : reached.Conforms resource := calls.conforms_run (conforms_empty resource)
  refine ⟨conforms.kind, conforms.query, calls.run_accepted start, ?_⟩
  intro now name field operator operand found date unreadable
  rw [← conforms.kind] at found
  obtain ⟨refusal, refused⟩ := add_refused found date unreadable operator
  exact ⟨refusal, tryAdd_of_refused refused⟩

/-- Calls in both styles on notes: a list of dates of which one is none is refused in the filter and
inside a nested one on tasks. -/
theorem Calls.run_empty_conforms_of_mixed :
    let now := Time.Instant.epoch
    let dates : Operand := .texts ["2024-01-02", "never"]
    let nested : NamedCalls :=
      .add now "dueDate" .among dates (.add now "name" .startsWith (.text "APT") .done)
    let calls : Calls .note :=
      .compare now ⟨"dateAdded", .date⟩ (by decide) .above (.integer 0)
        (.named (.add now "date_added" .among dates (.within "has_task" nested .done)) .done)
    let reached := (calls.run (.empty .note)).2
    reached.query.Conforms .note ∧ reached.query.size = 2 ∧
      Resource.note.field? "date_added" = some ⟨"dateAdded", .date⟩ ∧ dates.HasNoDate now ∧
      ∃ refusal, reached.tryAdd now "date_added" .among dates = ([.error refusal], reached) := by
  intro now dates nested calls reached
  have found : Resource.note.field? "date_added" = some ⟨"dateAdded", .date⟩ := by
    decide +kernel
  have unreadable : dates.HasNoDate now := ⟨"never", by simp, .unrecognized "never", by rfl⟩
  obtain ⟨-, conforms, -, refused⟩ := Calls.run_empty_conforms .note calls
  exact ⟨conforms, by decide +kernel, found, unreadable,
    refused now "date_added" ⟨"dateAdded", .date⟩ .among dates found rfl unreadable⟩

end Query
end ThreatIntel
