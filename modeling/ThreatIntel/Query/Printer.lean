import ThreatIntel.Query.Basic
import ThreatIntel.Text.Decimal
import ThreatIntel.Text.Quoted

/-!
# Query text

A query is written on one line, its clauses in order. Texts are quoted, numbers and truth values
stand bare, lists stand in parentheses, and a nested query is written as the quoted text of itself.
-/

namespace ThreatIntel
namespace Query

/-- Items between parentheses, with commas between them. -/
def parenthesized (items : List (List Char)) : List Char :=
  '(' :: (List.intercalate [','] items ++ [')'])

/-- A truth value as it stands in a query. -/
def booleanChars : Bool → List Char
  | true => "true".toList
  | false => "false".toList

mutual

/-- The text of a literal. -/
def Operand.chars : Operand → List Char
  | .boolean value => booleanChars value
  | .integer value => Text.intDigits value.toInt
  | .text value => Text.quote value.toList
  | .integers values => parenthesized (values.map fun value => Text.intDigits value.toInt)
  | .texts values => parenthesized (values.map fun value => Text.quote value.toList)
  | .subQuery query => Text.quote (Expression.chars query)

/-- The text of a clause. -/
def Clause.chars : Clause → List Char
  | ⟨keyword, operator, operand, _⟩ =>
      keyword.toList ++ ' ' :: (operator.token.toList ++ ' ' :: Operand.chars operand)

/-- The texts of a list of clauses. -/
def Clause.charsList : List Clause → List (List Char)
  | [] => []
  | clause :: clauses => Clause.chars clause :: Clause.charsList clauses

/-- The text of a query. -/
def Expression.chars : Expression → List Char
  | ⟨clauses, join⟩ => List.intercalate join.separator.toList (Clause.charsList clauses)

end

/-- The text of a literal. -/
def Operand.render (operand : Operand) : String :=
  String.ofList operand.chars

/-- The text of a clause. -/
def Clause.render (clause : Clause) : String :=
  String.ofList clause.chars

/-- The text of a query. -/
def Expression.render (query : Expression) : String :=
  String.ofList query.chars

@[simp] theorem Clause.charsList_eq_map (clauses : List Clause) :
    Clause.charsList clauses = clauses.map Clause.chars := by
  induction clauses with
  | nil => rfl
  | cons clause clauses inductionHypothesis =>
      simp [Clause.charsList, inductionHypothesis]

@[simp] theorem Expression.render_empty : Expression.empty.render = "" := rfl

end Query
end ThreatIntel
