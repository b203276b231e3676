import ThreatIntel.Query.Printer
import ThreatIntel.Query.Schema
import ThreatIntel.Time.Reading

/-!
# Filters

A filter is a query over one kind of record. A clause enters it only for a field or relation of that
kind; a literal compared with a date may be written in any way in which dates are read, and is kept
in the one layout that the server takes.
-/

namespace ThreatIntel
namespace Query

/-- A query over records of one kind. -/
structure Filter where
  /-- The kind of record. -/
  resource : Resource
  /-- The query so far. -/
  query : Expression
  deriving DecidableEq

namespace Filter

/-- Why a call on a filter is refused. -/
inductive Refusal where
  /-- Records of the kind have no such field. -/
  | unknownField (name : String) (resource : Resource)
  /-- Records of the kind have no such relation. -/
  | unknownRelation (name : String) (resource : Resource)
  /-- A literal of this form is never a date. -/
  | notDate (keyword : String) (given : Shape)
  /-- The literal could not be read as a date. -/
  | date (cause : Time.Refusal)
  /-- The clause does not fit together. -/
  | clause (cause : Query.Refusal)
  deriving DecidableEq

namespace Refusal

/-- A refusal as the error of a call. -/
def error : Refusal → Error
  | unknownField name resource =>
      .validation s!"'{name}' is not a filterable field of {resource.name}"
  | unknownRelation name resource =>
      .validation s!"'{name}' is not a relation of {resource.name}"
  | notDate keyword given =>
      .validation s!"Date field '{keyword}' cannot take a {given.label} value"
  | date cause => cause.error
  | clause cause => .validation cause.message

end Refusal

/-- An instant as a literal of a clause. -/
def ofInstant (instant : Time.Instant) : Operand :=
  .text instant.canonical

/-- A filter without clauses. -/
def empty (resource : Resource) : Filter := ⟨resource, .empty⟩

/-- A date written as a text, in the layout of the server. -/
def dateText (now : Time.Instant) (text : String) : Except Refusal String :=
  match Time.read now text with
  | .ok instant => .ok instant.canonical
  | .error cause => .error (.date cause)

/-- A date given as a count since 1970, in the layout of the server. -/
def dateCount (count : Int64) : Except Refusal String :=
  match Time.ofEpoch count.toInt with
  | .ok instant => .ok instant.canonical
  | .error cause => .error (.date cause)

/-- A literal as it is compared with a field: dates are brought into the layout of the server. -/
def coerce (now : Time.Instant) (field : Field) (operand : Operand) : Except Refusal Operand :=
  if field.type = .date then
    match operand with
    | .text value => (dateText now value).map .text
    | .integer value => (dateCount value).map .text
    | .texts values => (values.mapM (dateText now)).map .texts
    | .integers values => (values.mapM dateCount).map .texts
    | other => .error (.notDate field.keyword other.shape)
  else .ok operand

/-- Append a clause on a given field. -/
def set (now : Time.Instant) (filter : Filter) (field : Field) (operator : Operator)
    (operand : Operand) : Except Refusal Filter := do
  let operand ← coerce now field operand
  match filter.query.add ⟨field.keyword, operator, operand, field.type.valueType⟩ with
  | .ok query => .ok { filter with query := query }
  | .error cause => .error (.clause cause)

/-- Append a clause on the field that goes by a name. -/
def add (now : Time.Instant) (filter : Filter) (name : String) (operator : Operator)
    (operand : Operand) : Except Refusal Filter :=
  match filter.resource.field? name with
  | some field => filter.set now field operator operand
  | none => .error (.unknownField name filter.resource)

/-- Append a nested query along a given relation: `build` starts from the empty filter of the
related kind, and what it leaves is appended. -/
def into (filter : Filter) (relation : Relation) (build : Filter → α × Filter) : α × Filter :=
  let (result, child) := build (empty relation.target)
  (result, { filter with query := filter.query.pushSubQuery relation.keyword child.query })

/-- Append a nested query along the relation that goes by a name. -/
def within (filter : Filter) (name : String) (build : Filter → α × Filter) :
    Except Refusal (α × Filter) :=
  match filter.resource.relation? name with
  | some relation => .ok (filter.into relation build)
  | none => .error (.unknownRelation name filter.resource)

/-- The text of the query. -/
def render (filter : Filter) : String :=
  filter.query.render

end Filter
end Query
end ThreatIntel
