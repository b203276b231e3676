import ThreatIntel.Query.Filter
import ThreatIntel.Text.Cut

/-!
# Clauses on a command line

A clause is spelled as a field, an operator and a value between colons; before the field there may
be a relation and a point. The value is read as the type of the field asks. A row of clauses is a
row of calls on a filter, which ends with the first call that fails; what the calls before it did
stays.
-/

namespace ThreatIntel
namespace Command

open Query

/-- Calls on a filter, one after the other. -/
abbrev Building (α : Type) := ExceptT Error (StateM Filter) α

/-- Why a clause is refused before the filter sees it. -/
inductive ClauseFault where
  /-- There are not two colons. -/
  | form (clause : String)
  /-- There is no point behind a relation. -/
  | relation (clause : String)
  /-- The value is not `true` or `false`. -/
  | boolean (value : String)
  /-- The value is not a whole number. -/
  | integer (value : String)
  deriving DecidableEq, Repr

namespace ClauseFault

/-- A fault as the error of a command. -/
def error : ClauseFault → Error
  | form clause => .validation s!"Invalid filter '{clause}', expected keyword:operator:value"
  | relation clause =>
      .validation s!"Invalid --has clause '{clause}', expected relation.keyword:operator:value"
  | boolean value => .validation s!"'{value}' is not a boolean"
  | integer value => .validation s!"'{value}' is not an integer"

end ClauseFault

/-- The three parts of a clause; the last one may hold more colons. -/
def clauseParts? (clause : List Char) : Option (List Char × List Char × List Char) := do
  let (keyword, rest) := Text.cutAt ':' clause
  let (operator, value) := Text.cutAt ':' (← rest)
  pure (keyword, operator, ← value)

/-- Read a whole number. -/
def readInteger (cs : List Char) : Except ClauseFault Int64 :=
  match Text.readInt64? cs with
  | some value => .ok value
  | none => .error (.integer (String.ofList cs))

/-- Read a truth value in any case. -/
def readBoolean (cs : List Char) : Except ClauseFault Bool :=
  let lower := cs.map Char.toLower
  if lower = "true".toList then .ok true
  else if lower = "false".toList then .ok false
  else .error (.boolean (String.ofList cs))

/-- The items of a list between commas, without the blanks around them. -/
def listItems (cs : List Char) : List (List Char) :=
  (cs.splitOn ',').map Text.trim

/-- Read the value of a clause as the type of its field and its operator ask. -/
def readOperand (type : FieldType) (operator : Operator) (cs : List Char) :
    Except ClauseFault Operand :=
  if operator.takesList then
    match type with
    | .integer => ((listItems cs).mapM readInteger).map .integers
    | .boolean | .text | .date => .ok (.texts ((listItems cs).map String.ofList))
  else
    match type with
    | .boolean => (readBoolean cs).map .boolean
    | .integer => (readInteger cs).map .integer
    | .text | .date => .ok (.text (String.ofList cs))

/-- The call that a clause on a kind of record spells: name of the field, operator and literal. -/
def readClause (resource : Resource) (clause : List Char) :
    Except Error (String × Operator × Operand) :=
  match clauseParts? clause with
  | none => .error (ClauseFault.form (String.ofList clause)).error
  | some (keyword, operator, value) => do
      let name := String.ofList keyword
      let operator ← Operator.ofSpelling (String.ofList operator)
      let type := ((resource.field? name).map Field.type).getD .text
      match readOperand type operator value with
      | .ok operand => pure (name, operator, operand)
      | .error fault => throw fault.error

/-- Make the call that a clause spells. -/
def addClause (now : Time.Instant) (clause : List Char) (filter : Filter) :
    Except Error Unit × Filter :=
  match readClause filter.resource clause with
  | .error error => (.error error, filter)
  | .ok (name, operator, operand) =>
      match filter.add now name operator operand with
      | .ok filter => (.ok (), filter)
      | .error refusal => (.error refusal.error, filter)

/-- Make the calls that a clause behind a relation spells: the nested query is opened first, and
stays open to the clause alone. -/
def addNested (now : Time.Instant) (clause : List Char) (filter : Filter) :
    Except Error Unit × Filter :=
  match Text.cutAt '.' clause with
  | (_, none) => (.error (ClauseFault.relation (String.ofList clause)).error, filter)
  | (relation, some rest) =>
      match filter.within (String.ofList relation) (addClause now rest) with
      | .ok (result, filter) => (result, filter)
      | .error refusal => (.error refusal.error, filter)

/-- Make the calls that rows of clauses and of clauses behind relations spell. -/
def addClauses (now : Time.Instant) (clauses nested : List String) : Building Unit := do
  clauses.forM fun clause => addClause now clause.toList
  nested.forM fun clause => addNested now clause.toList

end Command
end ThreatIntel
