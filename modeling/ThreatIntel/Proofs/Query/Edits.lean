import ThreatIntel.Proofs.Query.WellFormed
import ThreatIntel.Query.Printer

/-!
# Rows of operations on queries

What any row of operations on a query leads to, accepted or refused. Every operation, at whatever
depth it is made, leaves an event: the query before it, its answer and the query after it. Main
statement: on a query that starts without clauses every event, at every depth, stands between
well-formed queries; a clause is taken exactly when it is well formed; and a refusal is a validation
error that changes nothing.
-/

namespace ThreatIntel
namespace Query

/-- A refusal as the error of an operation. -/
def Refusal.error (refusal : Refusal) : Error :=
  .validation refusal.message

/-- One operation on a query. -/
inductive Operation where
  /-- Append a clause. -/
  | add (clause : Clause)
  /-- Append a nested query, which further operations then build. -/
  | within (keyword : String)
  /-- Remove every clause. -/
  | clear
  /-- Choose how the clauses are combined. -/
  | setJoin (join : Join)
  /-- Copy the query and go on with the copy. -/
  | copy

/-- An operation that has been made. -/
structure Event where
  before : Expression
  operation : Operation
  answer : Except Error Unit
  after : Expression

/-- A row of operations on a query. The nested query of a new clause may be any that can be built,
also a copy of the query itself; under a keyword a nested query is built by a row of its own. -/
inductive Edits where
  | done
  | add
      (clause : Clause)
      (nested : ∀ child, clause.subQuery? = some child → child.Built)
      (rest : Edits)
  | within (keyword : String) (nested rest : Edits)
  | clear (rest : Edits)
  | setJoin (join : Join) (rest : Edits)
  | copy (rest : Edits)

namespace Edits

/-- The events of a row, those within a nested query behind the one that opens it, and the query at
the end. -/
abbrev Outcome := List Event × Expression

/-- Make an operation: refused, it leaves the query as it was. -/
def perform
    (query : Expression)
    (operation : Operation)
    (result : Except Refusal Outcome) : Outcome :=
  match result with
  | .ok (inner, next) => (⟨query, operation, .ok (), next⟩ :: inner, next)
  | .error refusal => ([⟨query, operation, .error refusal.error, query⟩], query)

/-- Go on from the query at the end of earlier operations, whose events come first. -/
def andThen (earlier : Outcome) (edits : Expression → Outcome) : Outcome :=
  let later := edits earlier.2
  (earlier.1 ++ later.1, later.2)

/-- Make a row of operations. -/
def run : Edits → Expression → Outcome
  | .done => fun query => ([], query)
  | .add clause _ rest => fun query =>
      andThen (perform query (.add clause) ((query.add clause).map fun next => ([], next))) rest.run
  | .within keyword nested rest => fun query =>
      andThen (perform query (.within keyword) (query.addSubQuery keyword nested.run)) rest.run
  | .clear rest => fun query =>
      andThen (perform query .clear (.ok ([], query.clear))) rest.run
  | .setJoin join rest => fun query =>
      andThen (perform query (.setJoin join) ((query.setJoin join).map fun next => ([], next)))
        rest.run
  | .copy rest => fun query => andThen (perform query .copy (.ok ([], query))) rest.run

end Edits

/-! ## One operation -/

/-- The law of an operation on a query. -/
structure Event.Lawful (event : Event) : Prop where
  before : event.before.WellFormed
  after : event.after.WellFormed
  /-- A clause is taken exactly when it is well formed, and then stands at the end. -/
  added : ∀ clause, event.operation = .add clause →
    (event.answer = .ok () ↔ clause.WellFormed) ∧
      (event.answer = .ok () → event.after = event.before.push clause)
  /-- A refusal is a validation error, and nothing shows of the refused operation. -/
  refused : ∀ error, event.answer = .error error →
    error.kind = .validation ∧ event.after = event.before ∧
      event.after.render = event.before.render

/-- The law of a row of operations on a query. -/
structure Edits.Lawful (outcome : Edits.Outcome) : Prop where
  query : outcome.2.WellFormed
  events : ∀ event ∈ outcome.1, event.Lawful

/-- A clause whose nested query can be built is appended exactly when it is well formed. -/
theorem Expression.add_eq_ok_iff_wellFormed
    (query next : Expression)
    (clause : Clause)
    (nested : ∀ child, clause.subQuery? = some child → child.Built) :
    query.add clause = .ok next ↔ clause.WellFormed ∧ next = query.push clause := by
  rw [add_eq_ok_iff, clause.refusal?_eq_none_iff]
  constructor
  · rintro ⟨fits, rfl⟩
    exact ⟨fits.wellFormed fun child held => (nested child held).wellFormed, rfl⟩
  · rintro ⟨wellFormed, rfl⟩
    exact ⟨wellFormed.fits, rfl⟩

namespace Edits

variable
  {query next : Expression}
  {operation : Operation}

/-- An accepted operation is lawful if it leads to a well-formed query by lawful operations, and a
clause that it appends is well formed. -/
theorem lawful_accepted
    (wellFormed : query.WellFormed)
    {events : List Event}
    (inner : Lawful (events, next))
    (added : ∀ clause, operation = .add clause →
      clause.WellFormed ∧ next = query.push clause) :
    Lawful (perform query operation (.ok (events, next))) where
  query := inner.query
  events := by
    intro event member
    rcases List.mem_cons.mp member with rfl | member
    · refine ⟨wellFormed, inner.query, ?_, nofun⟩
      intro clause same
      obtain ⟨allowed, pushed⟩ := added clause same
      exact ⟨iff_of_true rfl allowed, fun _ => pushed⟩
    · exact inner.events event member

/-- A refused operation is lawful if a clause that it would append is not well formed. -/
theorem lawful_refused
    (wellFormed : query.WellFormed)
    (refusal : Refusal)
    (added : ∀ clause, operation = .add clause → ¬clause.WellFormed) :
    Lawful (perform query operation (.error refusal)) where
  query := wellFormed
  events := by
    intro event member
    obtain rfl := List.mem_singleton.mp member
    refine ⟨wellFormed, wellFormed, ?_, ?_⟩
    · intro clause same
      exact ⟨iff_of_false nofun (added clause same), nofun⟩
    · rintro error ⟨⟩
      exact ⟨rfl, rfl, rfl⟩

/-- Lawful operations one after the other are lawful. -/
theorem Lawful.andThen
    {earlier : Outcome}
    {edits : Expression → Outcome}
    (first : Lawful earlier)
    (second : Lawful (edits earlier.2)) :
    Lawful (andThen earlier edits) where
  query := second.query
  events := by
    intro event member
    rcases List.mem_append.mp member with early | late
    · exact first.events event early
    · exact second.events event late

theorem lawful_add
    (wellFormed : query.WellFormed)
    (clause : Clause)
    (nested : ∀ child, clause.subQuery? = some child → child.Built) :
    Lawful (perform query (.add clause) ((query.add clause).map fun next => ([], next))) := by
  cases called : query.add clause with
  | ok next =>
      obtain ⟨allowed, rfl⟩ :=
        (query.add_eq_ok_iff_wellFormed next clause nested).mp called
      apply lawful_accepted wellFormed ⟨wellFormed.push allowed, by simp⟩
      rintro other ⟨⟩
      exact ⟨allowed, rfl⟩
  | error refusal =>
      apply lawful_refused wellFormed
      rintro other ⟨⟩ allowed
      have accepted :=
        (query.add_eq_ok_iff_wellFormed _ clause nested).mpr ⟨allowed, rfl⟩
      rw [called] at accepted
      cases accepted

theorem lawful_within
    (wellFormed : query.WellFormed)
    (keyword : String)
    {edits : Expression → Outcome}
    (nested : Lawful (edits .empty)) :
    Lawful (perform query (.within keyword) (query.addSubQuery keyword edits)) := by
  cases called : query.addSubQuery keyword edits with
  | ok result =>
      obtain ⟨events, next⟩ := result
      obtain ⟨allowed, rfl, rfl⟩ :=
        (query.addSubQuery_eq_ok_iff next keyword edits events).mp called
      have fits := (Clause.refusal?_eq_none_iff _).mp
        (Clause.refusal?_relation allowed (edits .empty).2)
      have relation :
          Clause.WellFormed ⟨keyword, .equal, .subQuery (edits .empty).2, .subQuery⟩ := by
        apply fits.wellFormed
        rintro child ⟨⟩
        exact nested.query
      exact lawful_accepted wellFormed ⟨wellFormed.push relation, nested.events⟩ nofun
  | error refusal => exact lawful_refused wellFormed refusal nofun

theorem lawful_setJoin
    (wellFormed : query.WellFormed)
    (join : Join) :
    Lawful (perform query (.setJoin join)
      ((query.setJoin join).map fun next => ([], next))) := by
  cases join with
  | and => exact lawful_accepted wellFormed ⟨⟨rfl, wellFormed.clauses⟩, by simp⟩ nofun
  | or => exact lawful_refused wellFormed .joinedByOr nofun

/-! ## Rows of operations -/

/-- On a well-formed query every row of operations is lawful. -/
theorem lawful_run
    (edits : Edits)
    (wellFormed : query.WellFormed) :
    Lawful (edits.run query) := by
  induction edits generalizing query with
  | done => exact ⟨wellFormed, by simp [run]⟩
  | add clause nested rest inductionHypothesis =>
      have first := lawful_add wellFormed clause nested
      exact first.andThen (inductionHypothesis first.query)
  | within keyword nested rest nestedHypothesis inductionHypothesis =>
      have first := lawful_within wellFormed keyword
        (nestedHypothesis Expression.wellFormed_empty)
      exact first.andThen (inductionHypothesis first.query)
  | clear rest inductionHypothesis =>
      have first : Lawful (perform query .clear (.ok ([], query.clear))) :=
        lawful_accepted wellFormed ⟨⟨wellFormed.join, by simp⟩, by simp⟩ nofun
      exact first.andThen (inductionHypothesis first.query)
  | setJoin join rest inductionHypothesis =>
      have first := lawful_setJoin wellFormed join
      exact first.andThen (inductionHypothesis first.query)
  | copy rest inductionHypothesis =>
      have first : Lawful (perform query .copy (.ok ([], query))) :=
        lawful_accepted wellFormed ⟨wellFormed, by simp⟩ nofun
      exact first.andThen (inductionHypothesis first.query)

/-- Whatever is done to a query that starts without clauses, it is well formed at the end, and so
are the queries before and after every operation, also of those on nested queries and of those that
are refused; each operation follows the law. -/
theorem run_empty_lawful (edits : Edits) :
    (edits.run .empty).2.WellFormed ∧ ∀ event ∈ (edits.run .empty).1, event.Lawful := by
  have lawful := edits.lawful_run Expression.wellFormed_empty
  exact ⟨lawful.query, lawful.events⟩

/-- A single text in place of a list is refused inside a nested query, as is a combination by
alternatives; a keyword with a blank in it opens no nested query. -/
theorem run_empty_lawful_of_refused :
    let inner : Edits :=
      .add ⟨"name", .among, .text "APT", .text⟩ nofun
        (.add ⟨"name", .among, .texts ["APT"], .text⟩ nofun (.setJoin .or .done))
    let edits : Edits := .within "hasTag" inner (.within "has tag" inner (.copy .done))
    let events := (edits.run .empty).1
    events.map (·.answer.isOk) = [true, false, true, false, false, true] ∧
      (∀ event ∈ events, event.Lawful) ∧ (edits.run .empty).2.WellFormed := by
  intro inner edits events
  obtain ⟨wellFormed, lawful⟩ := run_empty_lawful edits
  exact ⟨by decide, lawful, wellFormed⟩

end Edits
end Query
end ThreatIntel
