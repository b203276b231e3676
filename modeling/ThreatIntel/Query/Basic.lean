import ThreatIntel.Query.ValueType

/-!
# Queries

A query is a list of clauses, each of which compares a keyword with a literal; the literal may be a
whole query over a related resource. A clause enters a query only after its parts have been checked
against each other.
-/

namespace ThreatIntel
namespace Query

/-- How the clauses of a query are combined. -/
inductive Join where
  /-- Every clause must hold. -/
  | and
  /-- Some clause must hold. -/
  | or
  deriving DecidableEq, Repr

namespace Join

/-- What is written between two clauses. -/
def separator : Join → String
  | and => " and "
  | or => " or "

end Join

mutual

/-- The literal on the right-hand side of a clause. -/
inductive Operand where
  /-- A truth value. -/
  | boolean (value : Bool)
  /-- A whole number. -/
  | integer (value : Int64)
  /-- A text. -/
  | text (value : String)
  /-- A list of whole numbers. -/
  | integers (values : List Int64)
  /-- A list of texts. -/
  | texts (values : List String)
  /-- A nested query. -/
  | subQuery (query : Expression)

/-- One comparison. -/
structure Clause where
  /-- The name of the field or relation. -/
  keyword : String
  /-- The comparison. -/
  operator : Operator
  /-- What the field is compared with. -/
  operand : Operand
  /-- The declared type of the literal. -/
  type : ValueType

/-- A list of clauses and the way they are combined. -/
structure Expression where
  /-- The clauses, in the order in which they were added. -/
  clauses : List Clause := []
  /-- How the clauses are combined. -/
  join : Join := .and

end

instance : Inhabited Expression := ⟨{}⟩

mutual

/-- Equality of literals is decidable. -/
def Operand.decEq : (left right : Operand) → Decidable (left = right)
  | .boolean a, .boolean b =>
      if same : a = b then isTrue (by rw [same]) else isFalse (by simp [same])
  | .integer a, .integer b =>
      if same : a = b then isTrue (by rw [same]) else isFalse (by simp [same])
  | .text a, .text b =>
      if same : a = b then isTrue (by rw [same]) else isFalse (by simp [same])
  | .integers a, .integers b =>
      if same : a = b then isTrue (by rw [same]) else isFalse (by simp [same])
  | .texts a, .texts b =>
      if same : a = b then isTrue (by rw [same]) else isFalse (by simp [same])
  | .subQuery a, .subQuery b =>
      match Expression.decEq a b with
      | isTrue same => isTrue (by rw [same])
      | isFalse different => isFalse (by simp [different])
  | .boolean _, .integer _ | .boolean _, .text _ | .boolean _, .integers _
  | .boolean _, .texts _ | .boolean _, .subQuery _
  | .integer _, .boolean _ | .integer _, .text _ | .integer _, .integers _
  | .integer _, .texts _ | .integer _, .subQuery _
  | .text _, .boolean _ | .text _, .integer _ | .text _, .integers _
  | .text _, .texts _ | .text _, .subQuery _
  | .integers _, .boolean _ | .integers _, .integer _ | .integers _, .text _
  | .integers _, .texts _ | .integers _, .subQuery _
  | .texts _, .boolean _ | .texts _, .integer _ | .texts _, .text _
  | .texts _, .integers _ | .texts _, .subQuery _
  | .subQuery _, .boolean _ | .subQuery _, .integer _ | .subQuery _, .text _
  | .subQuery _, .integers _ | .subQuery _, .texts _ => isFalse nofun

/-- Equality of clauses is decidable. -/
def Clause.decEq : (left right : Clause) → Decidable (left = right)
  | ⟨keyword, operator, operand, type⟩, ⟨keyword', operator', operand', type'⟩ =>
      match Operand.decEq operand operand' with
      | isFalse different => isFalse (by simp [different])
      | isTrue same =>
          if others : keyword = keyword' ∧ operator = operator' ∧ type = type' then
            isTrue (by rw [same, others.1, others.2.1, others.2.2])
          else
            isFalse fun equal => others (by simp_all)

/-- Equality of lists of clauses is decidable. -/
def Clause.decEqList : (left right : List Clause) → Decidable (left = right)
  | [], [] => isTrue rfl
  | [], _ :: _ => isFalse nofun
  | _ :: _, [] => isFalse nofun
  | a :: as, b :: bs =>
      match Clause.decEq a b, Clause.decEqList as bs with
      | isTrue head, isTrue tail => isTrue (by rw [head, tail])
      | isFalse head, _ => isFalse (by simp [head])
      | _, isFalse tail => isFalse (by simp [tail])

/-- Equality of queries is decidable. -/
def Expression.decEq : (left right : Expression) → Decidable (left = right)
  | ⟨clauses, join⟩, ⟨clauses', join'⟩ =>
      match Clause.decEqList clauses clauses' with
      | isFalse different => isFalse (by simp [different])
      | isTrue same =>
          if joins : join = join' then isTrue (by rw [same, joins]) else isFalse (by simp [joins])

end

instance : DecidableEq Operand := Operand.decEq
instance : DecidableEq Clause := Clause.decEq
instance : DecidableEq Expression := Expression.decEq

/-- The form of a literal, apart from its value. -/
inductive Shape where
  /-- A truth value. -/
  | boolean
  /-- A whole number. -/
  | integer
  /-- A text. -/
  | text
  /-- A list of whole numbers. -/
  | integers
  /-- A list of texts. -/
  | texts
  /-- A nested query. -/
  | subQuery
  deriving DecidableEq, Repr

namespace Shape

/-- How the form is called in an error text. -/
def label : Shape → String
  | boolean => "boolean"
  | integer => "integer"
  | text => "string"
  | integers => "integer list"
  | texts => "string list"
  | subQuery => "sub-query"

/-- Whether the form is a list. -/
def isList : Shape → Bool
  | integers | texts => true
  | _ => false

/-- The declared type that literals of the form have. -/
def type : Shape → ValueType
  | boolean => .boolean
  | integer | integers => .integer
  | text | texts => .text
  | subQuery => .subQuery

end Shape

/-- The form of a literal. -/
def Operand.shape : Operand → Shape
  | .boolean _ => .boolean
  | .integer _ => .integer
  | .text _ => .text
  | .integers _ => .integers
  | .texts _ => .texts
  | .subQuery _ => .subQuery

/-- Whether a text can stand as a keyword: not empty, no blank and no double quote. -/
def isKeyword (keyword : String) : Bool :=
  !keyword.toList.isEmpty && keyword.toList.all fun c => !Text.isBlank c && c != '"'

/-- Why a clause or a change of a query is refused. -/
inductive Refusal where
  /-- The keyword cannot be written. -/
  | badKeyword (keyword : String)
  /-- The literal is not of the declared type. -/
  | typeMismatch (keyword : String) (given : Shape) (declared : ValueType)
  /-- A list meets an operator for single literals, or the reverse. -/
  | arityMismatch (operator : Operator) (keyword : String) (given : Shape)
  /-- The operator never applies to the declared type. -/
  | unsupported (operator : Operator) (declared : ValueType) (keyword : String)
  /-- Alternatives are asked for, which the server cannot read. -/
  | joinedByOr
  deriving DecidableEq, Repr

/-- The text of a refusal. -/
def Refusal.message : Refusal → String
  | badKeyword keyword => s!"Invalid TQL keyword: '{keyword}'"
  | typeMismatch keyword given declared =>
      s!"Value for '{keyword}' is a {given.label} but the field type is {declared.name}"
  | arityMismatch operator keyword given =>
      s!"Operator '{operator.token}' on '{keyword}' cannot take a {given.label} value"
  | unsupported operator declared keyword =>
      s!"Operator '{operator.token}' is not valid for {declared.name} field '{keyword}'"
  | joinedByOr => "TQL join Or is not supported; clauses are always joined with 'and'"

namespace Clause

/-- The first reason for which a clause is refused. -/
def refusal? (clause : Clause) : Option Refusal :=
  let given := clause.operand.shape
  if !isKeyword clause.keyword then some (.badKeyword clause.keyword)
  else if given.type != clause.type then
    some (.typeMismatch clause.keyword given clause.type)
  else if given.isList != clause.operator.takesList then
    some (.arityMismatch clause.operator clause.keyword given)
  else if !clause.type.supports clause.operator then
    some (.unsupported clause.operator clause.type clause.keyword)
  else none

/-- The nested query of a clause, if its literal is one. -/
def subQuery? (clause : Clause) : Option Expression :=
  match clause.operand with
  | .subQuery query => some query
  | _ => none

end Clause

namespace Expression

/-- The query without clauses. -/
def empty : Expression := {}

/-- Number of clauses. -/
def size (query : Expression) : Nat :=
  query.clauses.length

/-- Whether there is no clause. -/
def isEmpty (query : Expression) : Bool :=
  query.clauses.isEmpty

/-- Append a clause as it is. -/
def push (query : Expression) (clause : Clause) : Expression :=
  { query with clauses := query.clauses ++ [clause] }

/-- Append a clause whose parts fit each other. -/
def add (query : Expression) (clause : Clause) : Except Refusal Expression :=
  match clause.refusal? with
  | some refusal => .error refusal
  | none => .ok (query.push clause)

/-- Append a relation to a nested query as it is. -/
def pushSubQuery (query : Expression) (keyword : String) (child : Expression) : Expression :=
  query.push ⟨keyword, .equal, .subQuery child, .subQuery⟩

/-- Append a nested query: `build` starts from the empty query, and what it leaves is appended
under the keyword. -/
def addSubQuery (query : Expression) (keyword : String) (build : Expression → α × Expression) :
    Except Refusal (α × Expression) :=
  if isKeyword keyword then
    let (result, child) := build empty
    .ok (result, query.pushSubQuery keyword child)
  else .error (.badKeyword keyword)

/-- Remove every clause. -/
def clear (query : Expression) : Expression :=
  { query with clauses := [] }

/-- Choose how the clauses are combined; only conjunction is accepted. -/
def setJoin (query : Expression) : Join → Except Refusal Expression
  | .and => .ok { query with join := .and }
  | .or => .error .joinedByOr

@[simp] theorem clauses_push (query : Expression) (clause : Clause) :
    (query.push clause).clauses = query.clauses ++ [clause] := rfl

@[simp] theorem join_push (query : Expression) (clause : Clause) :
    (query.push clause).join = query.join := rfl

@[simp] theorem clauses_clear (query : Expression) : query.clear.clauses = [] := rfl

/-- A clause is accepted exactly when nothing speaks against it. -/
theorem add_eq_ok_iff (query result : Expression) (clause : Clause) :
    query.add clause = .ok result ↔
      clause.refusal? = none ∧ result = query.push clause := by
  unfold add
  cases clause.refusal? <;> simp [eq_comm]

end Expression
end Query
end ThreatIntel
