import ThreatIntel.Proofs.Query.Built

/-!
# Well-formed queries

The parts of a clause fit each other when the keyword can be written, the literal is of the declared
type and is a list exactly for the operators that compare with one, and the operator applies to the
type. A query is well formed when this holds of every clause at every depth and all clauses are
combined by conjunction. Main statements: a clause is accepted exactly when its parts fit, and a
query can be built exactly when it is well formed.
-/

namespace ThreatIntel
namespace Query

/-- The literal is one of the declared type; a list is of the type of its items. -/
inductive Operand.OfType : Operand → ValueType → Prop
  | boolean (value : Bool) : OfType (.boolean value) .boolean
  | integer (value : Int64) : OfType (.integer value) .integer
  | integers (values : List Int64) : OfType (.integers values) .integer
  | text (value : String) : OfType (.text value) .text
  | texts (values : List String) : OfType (.texts values) .text
  | subQuery (query : Expression) : OfType (.subQuery query) .subQuery

/-- The parts of a clause fit each other. -/
structure Clause.Fits (clause : Clause) : Prop where
  nonempty : clause.keyword ≠ ""
  writable : ∀ c ∈ clause.keyword.toList, Text.isBlank c = false ∧ c ≠ '"'
  typed : clause.operand.OfType clause.type
  listed : clause.operand.shape.isList = true ↔
    clause.operator = .among ∨ clause.operator = .notAmong
  supported : clause.type.supports clause.operator = true

/-- The parts of the clause fit each other, and so it is at every depth of its nested query. -/
inductive Clause.WellFormed : Clause → Prop
  | intro
      {clause : Clause}
      (fits : clause.Fits)
      (joins : ∀ child, clause.subQuery? = some child → child.join = .and)
      (nested : ∀ child, clause.subQuery? = some child →
        ∀ inner ∈ child.clauses, WellFormed inner) :
      WellFormed clause

/-- At every depth the parts of the clauses fit each other and the clauses are combined by
conjunction. -/
structure Expression.WellFormed (query : Expression) : Prop where
  join : query.join = .and
  clauses : ∀ clause ∈ query.clauses, clause.WellFormed

/-! ## The checks of a clause -/

theorem isKeyword_iff (keyword : String) :
    isKeyword keyword = true ↔
      keyword ≠ "" ∧ ∀ c ∈ keyword.toList, Text.isBlank c = false ∧ c ≠ '"' := by
  simp [isKeyword]

theorem Operand.ofType_iff
    (operand : Operand)
    (type : ValueType) :
    operand.OfType type ↔ operand.shape.type = type := by
  constructor
  · intro typed
    cases typed <;> rfl
  · rintro rfl
    cases operand <;> constructor

theorem Operator.takesList_iff (operator : Operator) :
    operator.takesList = true ↔ operator = .among ∨ operator = .notAmong := by
  cases operator <;> simp [takesList]

theorem Shape.isList_iff_takesList
    (shape : Shape)
    (operator : Operator) :
    shape.isList = operator.takesList ↔
      (shape.isList = true ↔ operator = .among ∨ operator = .notAmong) := by
  rw [← operator.takesList_iff, Bool.eq_iff_iff]

/-- Nothing speaks against a clause exactly when its parts fit each other. -/
theorem Clause.refusal?_eq_none_iff (clause : Clause) :
    clause.refusal? = none ↔ clause.Fits := by
  have checks : clause.refusal? = none ↔
      isKeyword clause.keyword = true ∧ clause.operand.shape.type = clause.type ∧
        clause.operand.shape.isList = clause.operator.takesList ∧
        clause.type.supports clause.operator = true := by
    unfold refusal?
    cases isKeyword clause.keyword <;> cases clause.type.supports clause.operator <;>
      by_cases typed : clause.operand.shape.type = clause.type <;>
      by_cases listed : clause.operand.shape.isList = clause.operator.takesList <;>
      simp [typed, listed]
  rw [checks, isKeyword_iff, ← clause.operand.ofType_iff,
    clause.operand.shape.isList_iff_takesList]
  constructor
  · rintro ⟨⟨nonempty, writable⟩, typed, listed, supported⟩
    exact ⟨nonempty, writable, typed, listed, supported⟩
  · rintro ⟨nonempty, writable, typed, listed, supported⟩
    exact ⟨⟨nonempty, writable⟩, typed, listed, supported⟩

/-- Only a clause that declares a nested query holds one. -/
theorem Clause.Fits.subQuery?_eq_none
    {clause : Clause}
    (fits : clause.Fits)
    (other : clause.type ≠ .subQuery) :
    clause.subQuery? = none := by
  obtain ⟨keyword, operator, operand, type⟩ := clause
  cases fits.typed with
  | subQuery query => exact absurd rfl other
  | _ => rfl

/-! ## Queries that can be built are the well-formed ones -/

namespace Expression

theorem wellFormed_empty : empty.WellFormed where
  join := rfl
  clauses := by simp [empty]

theorem WellFormed.push
    {query : Expression}
    {clause : Clause}
    (wellFormed : query.WellFormed)
    (allowed : clause.WellFormed) :
    (query.push clause).WellFormed where
  join := wellFormed.join
  clauses := by
    intro other member
    rw [clauses_push, List.mem_append, List.mem_singleton] at member
    rcases member with old | new
    · exact wellFormed.clauses other old
    · exact new ▸ allowed

end Expression

/-- A clause whose parts fit is well formed if its nested query is. -/
theorem Clause.Fits.wellFormed
    {clause : Clause}
    (fits : clause.Fits)
    (nested : ∀ child, clause.subQuery? = some child → child.WellFormed) :
    clause.WellFormed :=
  .intro fits (fun child held => (nested child held).join)
    fun child held => (nested child held).clauses

namespace Expression

/-- Each accepted operation keeps a query well formed. -/
theorem Built.wellFormed {query : Expression} (built : query.Built) : query.WellFormed := by
  induction built with
  | empty => exact wellFormed_empty
  | @add query next clause _ _ accepted wellFormed nested =>
      obtain ⟨passes, rfl⟩ := (add_eq_ok_iff query next clause).mp accepted
      have fits : clause.Fits := clause.refusal?_eq_none_iff.mp passes
      exact wellFormed.push (fits.wellFormed nested)
  | @addSubQuery α query next keyword build result _ _ accepted wellFormed nested =>
      obtain ⟨allowed, -, rfl⟩ :=
        (addSubQuery_eq_ok_iff query next keyword build result).mp accepted
      have fits := (Clause.refusal?_eq_none_iff _).mp
        (Clause.refusal?_relation allowed (build .empty).2)
      apply wellFormed.push (fits.wellFormed _)
      rintro child ⟨⟩
      exact nested
  | clear _ wellFormed => exact ⟨wellFormed.join, by simp⟩
  | @setJoin query next join _ accepted wellFormed =>
      obtain ⟨-, rfl⟩ := (setJoin_eq_ok_iff query next join).mp accepted
      exact ⟨rfl, wellFormed.clauses⟩

/-- Clauses whose parts fit can be appended one after the other. -/
theorem Built.append
    {clauses : List Clause}
    (built : Built ⟨clauses, .and⟩)
    (more : List Clause)
    (fits : ∀ clause ∈ more, clause.Fits)
    (nested : ∀ clause ∈ more, ∀ child, clause.subQuery? = some child → child.Built) :
    Built ⟨clauses ++ more, .and⟩ := by
  induction more generalizing clauses with
  | nil => simpa using built
  | cons clause more inductionHypothesis =>
      rw [List.forall_mem_cons] at fits nested
      have pushed : Built ⟨clauses ++ [clause], .and⟩ :=
        built.push clause (clause.refusal?_eq_none_iff.mpr fits.1) nested.1
      have appended := inductionHypothesis pushed fits.2 nested.2
      rwa [List.append_assoc] at appended

end Expression

theorem Clause.WellFormed.fits
    {clause : Clause}
    (wellFormed : clause.WellFormed) :
    clause.Fits := by
  cases wellFormed with
  | intro fits _ _ => exact fits

theorem Clause.WellFormed.nested
    {clause : Clause}
    (wellFormed : clause.WellFormed)
    {child : Expression}
    (held : clause.subQuery? = some child) :
    child.WellFormed := by
  cases wellFormed with
  | intro _ joins nested => exact ⟨joins child held, nested child held⟩

/-- The nested query of a well-formed clause can be built. -/
theorem Clause.WellFormed.built_nested
    {clause : Clause}
    (wellFormed : clause.WellFormed) :
    ∀ child, clause.subQuery? = some child → child.Built := by
  induction wellFormed with
  | intro _ joins nested inductionHypothesis =>
      rintro ⟨clauses, join⟩ held
      obtain rfl : join = .and := joins _ held
      exact Expression.Built.empty.append clauses
        (fun inner member => (nested _ held inner member).fits) (inductionHypothesis _ held)

/-- A query can be built exactly when it is well formed. -/
theorem Expression.built_iff_wellFormed (query : Expression) :
    query.Built ↔ query.WellFormed := by
  constructor
  · exact Built.wellFormed
  · obtain ⟨clauses, join⟩ := query
    rintro ⟨rfl, wellFormed⟩
    exact Built.empty.append clauses (fun clause member => (wellFormed clause member).fits)
      fun clause member => (wellFormed clause member).built_nested

end Query
end ThreatIntel
