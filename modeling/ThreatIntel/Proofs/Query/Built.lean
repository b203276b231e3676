import ThreatIntel.Query.Basic

/-!
# Queries that can be built

The queries that the operations on queries lead to, starting from the one without clauses. A
refused operation leaves a query as it was, so only the accepted ones are listed. Every clause of
such a query fits together, and its clauses are combined by conjunction.
-/

namespace ThreatIntel
namespace Query

/-- Queries that the operations lead to. The nested query of a new clause has been built by itself,
and so has the one that is built under a keyword. -/
inductive Expression.Built : Expression → Prop
  | empty : Built .empty
  | add
      {query next : Expression}
      {clause : Clause}
      (built : Built query)
      (nested : ∀ child, clause.subQuery? = some child → Built child)
      (accepted : query.add clause = .ok next) :
      Built next
  | addSubQuery
      {α : Type}
      {query next : Expression}
      {keyword : String}
      {build : Expression → α × Expression}
      {result : α}
      (built : Built query)
      (nested : Built (build .empty).2)
      (accepted : query.addSubQuery keyword build = .ok (result, next)) :
      Built next
  | clear
      {query : Expression}
      (built : Built query) :
      Built query.clear
  | setJoin
      {query next : Expression}
      {join : Join}
      (built : Built query)
      (accepted : query.setJoin join = .ok next) :
      Built next

/-- A nested query is appended to a query exactly under a word that can stand as a keyword. -/
theorem Expression.addSubQuery_eq_ok_iff
    (query next : Expression)
    (keyword : String)
    (build : Expression → α × Expression)
    (result : α) :
    query.addSubQuery keyword build = .ok (result, next) ↔
      isKeyword keyword = true ∧ result = (build .empty).1 ∧
        next = query.pushSubQuery keyword (build .empty).2 := by
  unfold addSubQuery
  cases isKeyword keyword <;> simp [eq_comm]

/-- Only conjunction is accepted as the way to combine clauses. -/
theorem Expression.setJoin_eq_ok_iff
    (query next : Expression)
    (join : Join) :
    query.setJoin join = .ok next ↔ join = .and ∧ next = { query with join := .and } := by
  cases join <;> simp [setJoin, eq_comm]

theorem Clause.isKeyword_of_refusal?_eq_none
    {clause : Clause}
    (fits : clause.refusal? = none) :
    isKeyword clause.keyword = true := by
  cases allowed : isKeyword clause.keyword with
  | true => rfl
  | false => simp [refusal?, allowed] at fits

/-- A relation fits together under any word that can stand as a keyword. -/
theorem Clause.refusal?_relation
    {keyword : String}
    (allowed : isKeyword keyword = true)
    (child : Expression) :
    Clause.refusal? ⟨keyword, .equal, .subQuery child, .subQuery⟩ = none := by
  simp [refusal?, allowed, Operand.shape, Shape.type, Shape.isList, Operator.takesList,
    ValueType.supports]

/-- What holds of every query that can be built. -/
structure Expression.Sound (query : Expression) : Prop where
  /-- The clauses are combined by conjunction. -/
  join : query.join = .and
  /-- Every clause fits together. -/
  fits : ∀ clause ∈ query.clauses, clause.refusal? = none

namespace Expression

theorem sound_empty : empty.Sound where
  join := rfl
  fits := by simp [empty]

/-- A clause that fits together may be appended. -/
theorem Sound.push
    {query : Expression}
    {clause : Clause}
    (sound : query.Sound)
    (fits : clause.refusal? = none) :
    (query.push clause).Sound where
  join := sound.join
  fits := by
    intro other member
    rw [clauses_push, List.mem_append, List.mem_singleton] at member
    rcases member with old | new
    · exact sound.fits other old
    · exact new ▸ fits

/-- A clause that fits together leads from one query to the next. -/
theorem Built.push
    {query : Expression}
    (built : query.Built)
    (clause : Clause)
    (fits : clause.refusal? = none)
    (nested : ∀ child, clause.subQuery? = some child → child.Built) :
    (query.push clause).Built :=
  .add built nested ((add_eq_ok_iff query _ clause).mpr ⟨fits, rfl⟩)

/-- Whatever can be built is sound: each accepted operation keeps it so. -/
theorem Built.sound {query : Expression} (built : query.Built) : query.Sound := by
  induction built with
  | empty => exact sound_empty
  | @add query next clause _ _ accepted sound _ =>
      obtain ⟨fits, rfl⟩ := (add_eq_ok_iff query next clause).mp accepted
      exact sound.push fits
  | @addSubQuery α query next keyword build result _ _ accepted sound _ =>
      obtain ⟨allowed, -, rfl⟩ :=
        (addSubQuery_eq_ok_iff query next keyword build result).mp accepted
      exact sound.push (Clause.refusal?_relation allowed _)
  | clear _ sound => exact ⟨sound.join, by simp⟩
  | @setJoin query next join _ accepted sound =>
      obtain ⟨-, rfl⟩ := (setJoin_eq_ok_iff query next join).mp accepted
      exact ⟨rfl, sound.fits⟩

end Expression
end Query
end ThreatIntel
