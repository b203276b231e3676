import ThreatIntel.Query.Operator

/-!
# Value types

The types a clause can declare for its literal, and the operators each type supports.
-/

namespace ThreatIntel
namespace Query

/-- The declared type of a clause's literal. -/
inductive ValueType where
  /-- `true` or `false`. -/
  | boolean
  /-- A whole number. -/
  | integer
  /-- A text. -/
  | text
  /-- A nested query. -/
  | subQuery
  deriving DecidableEq, Repr

namespace ValueType

/-- Every value type. -/
def all : List ValueType :=
  [boolean, integer, text, subQuery]

/-- The name of the type, as stored and as printed. -/
def name : ValueType → String
  | boolean => "boolean"
  | integer => "integer"
  | text => "string"
  | subQuery => "sub_query"

/-- The type stored under a name. -/
def ofName? (name : String) : Option ValueType :=
  all.find? fun type => type.name == name

/-- Whether the operator can apply to literals of the type. -/
def supports : ValueType → Operator → Bool
  | boolean, operator => operator == .equal || operator == .notEqual
  | integer, operator => !operator.isPattern
  | text, _ => true
  | subQuery, operator => operator == .equal

@[simp] theorem ofName?_name (type : ValueType) : ofName? type.name = some type := by
  cases type <;> decide

end ValueType
end Query
end ThreatIntel
