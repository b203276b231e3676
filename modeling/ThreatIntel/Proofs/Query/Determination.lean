import ThreatIntel.Proofs.Query.Conformance
import ThreatIntel.Proofs.Query.Names
import ThreatIntel.Proofs.Query.Reader
import ThreatIntel.Proofs.Query.WellFormed

/-!
# The text of a filter determines its query

Of a query in general the text shows neither the type of an empty list nor whether a quoted text is
a nested query. In a query that conforms to a kind of record the keyword tells both: it belongs to
one field, whose type and operator leave a single form of literal, or else to one relation. Main
statement: two rows of calls on filters of one kind lead to the same text only if they lead to the
same query, at every depth.
-/

namespace ThreatIntel
namespace Query

theorem FieldType.valueType_ne_subQuery (type : FieldType) : type.valueType ≠ .subQuery := by
  cases type <;> simp [valueType]

/-! ## Queries of filters can be built -/

namespace Filter

variable {filter : Filter}

/-- A clause on a field holds no nested query, and enters only if its parts fit. -/
theorem built_tryAdd
    (built : filter.query.Built)
    (now : Time.Instant)
    (name : String)
    (operator : Operator)
    (operand : Operand) :
    (filter.tryAdd now name operator operand).2.query.Built := by
  cases called : filter.add now name operator operand with
  | error refusal =>
      rw [tryAdd_of_refused called]
      exact built
  | ok next =>
      rw [tryAdd_of_accepted called]
      obtain ⟨field, -, accepted⟩ :=
        (add_eq_ok_iff now filter next name operator operand).mp called
      obtain ⟨result, -, passes, rfl⟩ :=
        (set_eq_ok_iff now filter next field operator operand).mp accepted
      have fits := (Clause.refusal?_eq_none_iff _).mp passes
      apply built.push _ passes
      intro child held
      rw [fits.subQuery?_eq_none field.type.valueType_ne_subQuery] at held
      cases held

/-- A relation is appended unchecked; its keyword comes from the schema. -/
theorem built_into
    (built : filter.query.Built)
    {resource : Resource}
    {relation : Relation}
    (known : relation ∈ resource.relations)
    {calls : Filter → Outcome}
    (nested : (calls (empty relation.target)).2.query.Built) :
    (filter.into relation (opening calls)).2.query.Built := by
  have allowed : isKeyword relation.keyword = true :=
    (Resource.isKeyword_of_mem_keywords (Resource.keyword_mem_of_relation known)).1
  apply built.push _ (Clause.refusal?_relation allowed _)
  rintro child ⟨⟩
  exact nested

end Filter

open Query.Filter

theorem NamedCalls.built_run
    (calls : NamedCalls)
    {filter : Filter}
    (built : filter.query.Built) :
    (calls.run filter).2.query.Built := by
  induction calls generalizing filter with
  | done => exact built
  | add now name operator operand rest inductionHypothesis =>
      exact inductionHypothesis (built_tryAdd built now name operator operand)
  | within name nested rest nestedHypothesis inductionHypothesis =>
      apply inductionHypothesis
      cases found : filter.resource.relation? name with
      | none =>
          rw [tryWithin_of_unknown found]
          exact built
      | some relation =>
          rw [tryWithin_of_known found]
          have known := ((Resource.relation?_eq_some_iff name).mp found).1
          exact built_into built known (nestedHypothesis .empty)

/-- Calls of either style lead to a query that can be built. -/
theorem Calls.built_run
    {resource : Resource}
    (calls : Calls resource)
    {filter : Filter}
    (built : filter.query.Built) :
    (calls.run filter).2.query.Built := by
  induction calls generalizing filter with
  | done => exact built
  | compare now field known operator operand rest inductionHypothesis =>
      exact inductionHypothesis (built_tryAdd built now field.keyword operator operand)
  | follow relation known nested rest nestedHypothesis inductionHypothesis =>
      exact inductionHypothesis (built_into built known (nestedHypothesis .empty))
  | named calls rest inductionHypothesis =>
      exact inductionHypothesis (calls.built_run built)

/-! ## Form of a literal -/

theorem Shape.eq_of_type_eq
    {left right : Shape}
    (type : left.type = right.type)
    (list : left.isList = right.isList) :
    left = right := by
  cases left <;> cases right <;> simp_all [Shape.type, Shape.isList]

/-- The declared type and the operator leave a single form of literal. -/
theorem Clause.Fits.shape_eq
    {left right : Clause}
    (leftFits : left.Fits)
    (rightFits : right.Fits)
    (type : left.type = right.type)
    (operator : left.operator = right.operator) :
    left.operand.shape = right.operand.shape := by
  have leftType := (left.operand.ofType_iff left.type).mp leftFits.typed
  have rightType := (right.operand.ofType_iff right.type).mp rightFits.typed
  apply Shape.eq_of_type_eq
  · rw [leftType, rightType, type]
  · rw [Bool.eq_iff_iff, leftFits.listed, rightFits.listed, operator]

/-- Literals of one form show all that they hold, unless they are nested queries. -/
theorem Operand.eq_of_asWritten_eq
    {left right : Operand}
    (form : left.shape = right.shape)
    (single : left.shape ≠ .subQuery)
    (same : left.asWritten = right.asWritten) :
    left = right := by
  cases left with
  | subQuery query => exact absurd rfl single
  | texts values =>
      cases right with
      | texts others =>
          cases values <;> cases others <;> first | rfl | exact same | cases same
      | _ => cases form
  | boolean value | integer value | text value | integers values =>
      cases right <;> first | exact same | cases form

/-! ## Clauses of a kind of record -/

theorem eq_of_map_eq
    {α β : Type}
    {change : α → β}
    {left right : List α}
    (injective : ∀ a ∈ left, ∀ b ∈ right, change a = change b → a = b)
    (same : left.map change = right.map change) :
    left = right := by
  have lengths : left.length = right.length := by
    simpa using congrArg List.length same
  apply List.ext_getElem lengths
  intro index inLeft inRight
  apply injective _ (List.getElem_mem inLeft) _ (List.getElem_mem inRight)
  have entries : (left.map change)[index]? = (right.map change)[index]? := by rw [same]
  simpa [inLeft, inRight] using entries

/-- Well-formed queries with the same text are the same if their clauses are the same wherever they
show the same. -/
theorem Expression.eq_of_render_eq_of_clauses
    {left right : Expression}
    (leftFormed : left.WellFormed)
    (rightFormed : right.WellFormed)
    (determined : ∀ clause ∈ left.clauses, ∀ other ∈ right.clauses,
      clause.asWritten = other.asWritten → clause = other)
    (same : left.render = right.render) :
    left = right := by
  -- The texts are read back clause by clause.
  have shown : left.asWritten = right.asWritten :=
    asWritten_eq_of_render_eq (left.built_iff_wellFormed.mpr leftFormed)
      (right.built_iff_wellFormed.mpr rightFormed) same
  have clauses : left.clauses = right.clauses := eq_of_map_eq determined shown
  have join : left.join = right.join := leftFormed.join.trans rightFormed.join.symm
  obtain ⟨_, _⟩ := left
  obtain ⟨_, _⟩ := right
  simp only at clauses join
  rw [clauses, join]

/-- Two clauses on fields of one kind that show the same are the same. -/
theorem eq_of_asWritten_eq_of_fields
    {resource : Resource}
    {field other : Field}
    {operator otherOperator : Operator}
    {operand otherOperand : Operand}
    (known : field ∈ resource.fields)
    (otherKnown : other ∈ resource.fields)
    (fits : Clause.Fits ⟨field.keyword, operator, operand, field.type.valueType⟩)
    (otherFits : Clause.Fits
      ⟨other.keyword, otherOperator, otherOperand, other.type.valueType⟩)
    (keywords : field.keyword = other.keyword)
    (operators : operator = otherOperator)
    (literals : operand.asWritten = otherOperand.asWritten) :
    (⟨field.keyword, operator, operand, field.type.valueType⟩ : Clause) =
      ⟨other.keyword, otherOperator, otherOperand, other.type.valueType⟩ := by
  obtain rfl : field = other := Resource.field_eq_of_keyword_eq known otherKnown keywords
  subst operators
  have form : operand.shape = otherOperand.shape := fits.shape_eq otherFits rfl rfl
  have single : operand.shape ≠ .subQuery := by
    intro nested
    have type : operand.shape.type = field.type.valueType :=
      (operand.ofType_iff _).mp fits.typed
    rw [nested] at type
    exact field.type.valueType_ne_subQuery type.symm
  rw [Operand.eq_of_asWritten_eq form single literals]

/-- Two well-formed clauses that one kind of record allows are the same if they show the same. -/
theorem Clause.Conforms.eq_of_asWritten_eq
    {resource : Resource}
    {left right : Clause}
    (leftConforms : left.Conforms resource)
    (rightConforms : right.Conforms resource)
    (leftFormed : left.WellFormed)
    (rightFormed : right.WellFormed)
    (same : left.asWritten = right.asWritten) :
    left = right := by
  induction leftConforms generalizing right with
  | field known canonical =>
      cases rightConforms with
      | field otherKnown otherCanonical =>
          simp only [asWritten, Comparison.mk.injEq] at same
          obtain ⟨keywords, operators, literals⟩ := same
          exact eq_of_asWritten_eq_of_fields known otherKnown leftFormed.fits rightFormed.fits
            keywords operators literals
      | relation otherKnown otherNested =>
          have keywords := congrArg Comparison.keyword same
          exact absurd keywords (Resource.field_keyword_ne_relation_keyword known otherKnown)
  | @relation resource relation child known nested inductionHypothesis =>
      cases rightConforms with
      | field otherKnown otherCanonical =>
          have keywords := (congrArg Comparison.keyword same).symm
          exact absurd keywords (Resource.field_keyword_ne_relation_keyword otherKnown known)
      | @relation _ other otherChild otherKnown otherNested =>
          simp only [asWritten, Operand.asWritten, Comparison.mk.injEq, Operand.text.injEq,
            true_and] at same
          obtain ⟨keywords, texts⟩ := same
          obtain rfl : relation = other :=
            Resource.relation_eq_of_keyword_eq known otherKnown keywords
          obtain rfl : child = otherChild := by
            apply Expression.eq_of_render_eq_of_clauses (leftFormed.nested rfl)
              (rightFormed.nested rfl) _ texts
            intro inner member otherInner otherMember
            exact inductionHypothesis inner member (otherNested otherInner otherMember)
              ((leftFormed.nested rfl).clauses inner member)
              ((rightFormed.nested rfl).clauses otherInner otherMember)
          rfl

/-- Two queries that conform to one kind of record and can be built are the same if they have the
same text. -/
theorem Expression.Conforms.eq_of_render_eq
    {resource : Resource}
    {left right : Expression}
    (leftConforms : left.Conforms resource)
    (rightConforms : right.Conforms resource)
    (leftBuilt : left.Built)
    (rightBuilt : right.Built)
    (same : left.render = right.render) :
    left = right := by
  have leftFormed := leftBuilt.wellFormed
  have rightFormed := rightBuilt.wellFormed
  apply eq_of_render_eq_of_clauses leftFormed rightFormed _ same
  intro clause member other otherMember
  exact (leftConforms clause member).eq_of_asWritten_eq (rightConforms other otherMember)
    (leftFormed.clauses clause member) (rightFormed.clauses other otherMember)

/-- Two rows of calls on filters of one kind that start without clauses have the same text exactly
when they have led to the same query: the same keywords, operators, literals and types, and the same
nested queries. -/
theorem Calls.render_determines_query
    {resource : Resource}
    (left right : Calls resource) :
    let start := Filter.empty resource
    (left.run start).2.render = (right.run start).2.render ↔
      (left.run start).2.query = (right.run start).2.query := by
  intro start
  have conforms : ∀ calls : Calls resource, (calls.run start).2.query.Conforms resource :=
    fun calls => (calls.conforms_run (Filter.conforms_empty resource)).query
  have built : ∀ calls : Calls resource, (calls.run start).2.query.Built :=
    fun calls => calls.built_run .empty
  constructor
  · exact (conforms left).eq_of_render_eq (conforms right) (built left) (built right)
  · intro same
    rw [Filter.render, Filter.render, same]

end Query
end ThreatIntel
