import ThreatIntel.Command.Run
import ThreatIntel.Proofs.Command.Clauses
import ThreatIntel.Proofs.Lists

/-!
# Clauses that are refused

Whether a clause is refused depends on the clause and the kind of record alone, and not on the
clauses in front of it. So a row of clauses fails exactly if one of them is refused. The error is
about what was asked for, unless a date would lie outside the calendar.
-/

namespace ThreatIntel

/-- The days before and after an instant lie in the calendar. -/
def Time.Instant.HasNeighbours (now : Time.Instant) : Prop :=
  ∀ days : Int, days = -1 ∨ days = 1 → (now.midnight.addSeconds (days * 86400)).isSome

namespace Query.Filter

/-! ## Dates outside the calendar -/

variable {now : Time.Instant}

theorem neighbour_ne
    (neighbours : now.HasNeighbours)
    {days : Int}
    (next : days = -1 ∨ days = 1) :
    Time.neighbour now days ≠ .error .beyondCalendar := by
  obtain ⟨instant, there⟩ := Option.isSome_iff_exists.mp (neighbours days next)
  simp [Time.neighbour, there]

theorem ofEpoch_ne (epoch : Int) : Time.ofEpoch epoch ≠ .error .beyondCalendar := by
  unfold Time.ofEpoch
  dsimp only
  split <;> simp

theorem read_ne
    (neighbours : now.HasNeighbours)
    (input : String) :
    Time.read now input ≠ .error .beyondCalendar := by
  have fromNow : ∀ cs, Time.readFromNow now input cs ≠ .error .beyondCalendar := by
    intro cs
    unfold Time.readFromNow
    dsimp only
    split_ifs
    · simp
    · simp
    · exact neighbour_ne neighbours (.inl rfl)
    · exact neighbour_ne neighbours (.inr rfl)
    · split <;> simp
  unfold Time.read
  dsimp only
  split
  · simp
  · split
    · simp
    · split
      · exact ofEpoch_ne _
      · exact fromNow _

theorem dateText_ne
    (neighbours : now.HasNeighbours)
    (text : String) :
    dateText now text ≠ .error (.date .beyondCalendar) := by
  have read := read_ne neighbours text
  unfold dateText
  cases reads : Time.read now text with
  | ok instant => simp
  | error cause => simpa [reads] using read

theorem dateCount_ne (count : Int64) : dateCount count ≠ .error (.date .beyondCalendar) := by
  have read := ofEpoch_ne count.toInt
  unfold dateCount
  cases reads : Time.ofEpoch count.toInt with
  | ok instant => simp
  | error cause => simpa [reads] using read

/-- No literal is refused for a day next to an instant that has both. -/
theorem coerce_ne
    (neighbours : now.HasNeighbours)
    (field : Field)
    (operand : Operand) :
    coerce now field operand ≠ .error (.date .beyondCalendar) := by
  unfold coerce
  split
  · cases operand with
    | text value => exact map_ne (dateText_ne neighbours value) _
    | integer value => exact map_ne (dateCount_ne value) _
    | texts values => exact map_ne (mapM_ne (dateText_ne neighbours) values) _
    | integers values => exact map_ne (mapM_ne dateCount_ne values) _
    | boolean | subQuery => simp
  · simp

/-- What a filter of a kind does with a clause does not depend on its query. -/
theorem add_eq
    (now : Time.Instant)
    (filter : Filter)
    (name : String)
    (operator : Operator)
    (operand : Operand) :
    filter.add now name operator operand =
      ((empty filter.resource).add now name operator operand).map fun single =>
        { filter with query := { filter.query with
          clauses := filter.query.clauses ++ single.query.clauses } } := by
  have kind : (empty filter.resource).resource = filter.resource := rfl
  simp only [add, kind]
  cases filter.resource.field? name with
  | none => rfl
  | some field =>
      dsimp only
      unfold set
      cases coerce now field operand with
      | error refusal => rfl
      | ok result =>
          simp only [bind, Except.bind]
          unfold Expression.add
          cases Clause.refusal? ⟨field.keyword, operator, result, field.type.valueType⟩ <;> rfl

/-- A refusal for anything but a day outside the calendar is about what was asked for. -/
theorem Refusal.kind_error
    {refusal : Refusal}
    (within : refusal ≠ .date .beyondCalendar) :
    refusal.error.kind = .validation := by
  cases refusal with
  | unknownField | unknownRelation | notDate | clause => rfl
  | date cause =>
      cases cause with
      | blank | epochOutOfRange | unrecognized => rfl
      | beyondCalendar => exact absurd rfl within

theorem kind_of_add
    {filter : Filter}
    (neighbours : now.HasNeighbours)
    {name : String}
    {operator : Operator}
    {operand : Operand}
    {refusal : Refusal}
    (refused : filter.add now name operator operand = .error refusal) :
    refusal.error.kind = .validation := by
  apply Refusal.kind_error
  rintro rfl
  unfold add at refused
  split at refused
  next field _ =>
    unfold set at refused
    have coerced := coerce_ne neighbours field operand
    cases result : coerce now field operand with
    | error refusal =>
        rw [result] at refused coerced
        cases refused
        exact coerced rfl
    | ok result =>
        simp only [result, bind, Except.bind] at refused
        split at refused <;> cases refused
  next => cases refused

end Query.Filter

namespace Command

open Query

/-- Whether the call fails, and how, depends on the kind of record alone, and the call leaves the
kind. -/
structure Effect.Steady (call : Effect) : Prop where
  /-- The query does not matter. -/
  result_eq : ∀ filter, (call filter).1 = (call (.empty filter.resource)).1
  /-- The kind stays. -/
  resource_eq : ∀ filter, (call filter).2.resource = filter.resource

/-- The error in which the call ends on filters of a kind, if it does. -/
def Effect.refusal? (call : Effect) (resource : Resource) : Option Error :=
  match (call (.empty resource)).1 with
  | .ok () => none
  | .error error => some error

theorem steady_addClause (now : Time.Instant) (clause : List Char) :
    Effect.Steady (addClause now clause) := by
  constructor
  all_goals
    intro filter
    have kind : (Filter.empty filter.resource).resource = filter.resource := rfl
    simp only [addClause, kind]
    cases readClause filter.resource clause with
    | error error => rfl
    | ok call =>
        dsimp only
        rw [Filter.add_eq now filter]
        cases (Filter.empty filter.resource).add now call.1 call.2.1 call.2.2 <;> rfl

theorem steady_addNested (now : Time.Instant) (clause : List Char) :
    Effect.Steady (addNested now clause) := by
  constructor
  all_goals
    intro filter
    have kind : (Filter.empty filter.resource).resource = filter.resource := rfl
    simp only [addNested, Filter.within, kind]
    split
    · rfl
    · cases filter.resource.relation? _ <;> rfl

/-! ## The errors of clauses -/

theorem ClauseFault.kind_error (fault : ClauseFault) : fault.error.kind = .validation := by
  cases fault <;> rfl

theorem kind_of_readClause
    {resource : Resource}
    {clause : List Char}
    {error : Error}
    (failed : readClause resource clause = .error error) :
    error.kind = .validation := by
  unfold readClause at failed
  generalize clauseParts? clause = found at failed
  cases found with
  | none =>
      cases failed
      exact ClauseFault.kind_error _
  | some parts =>
      obtain ⟨keyword, operator, value⟩ := parts
      dsimp only [Operator.ofSpelling] at failed
      generalize Operator.ofSpelling? (String.ofList operator) = spelled at failed
      cases spelled with
      | none =>
          cases failed
          rfl
      | some operator =>
          dsimp only [bind, Except.bind] at failed
          generalize readOperand _ operator value = operand at failed
          cases operand with
          | ok operand => cases failed
          | error fault =>
              cases failed
              exact fault.kind_error

theorem kind_of_addClause
    {now : Time.Instant}
    (neighbours : now.HasNeighbours)
    {clause : List Char}
    {filter : Filter}
    {error : Error}
    (failed : (addClause now clause filter).1 = .error error) :
    error.kind = .validation := by
  unfold addClause at failed
  cases reads : readClause filter.resource clause with
  | error problem =>
      simp only [reads] at failed
      cases failed
      exact kind_of_readClause reads
  | ok call =>
      simp only [reads] at failed
      cases added : filter.add now call.1 call.2.1 call.2.2 with
      | error refusal =>
          simp only [added] at failed
          cases failed
          exact Filter.kind_of_add neighbours added
      | ok next =>
          simp only [added] at failed
          cases failed

theorem kind_of_addNested
    {now : Time.Instant}
    (neighbours : now.HasNeighbours)
    {clause : List Char}
    {filter : Filter}
    {error : Error}
    (failed : (addNested now clause filter).1 = .error error) :
    error.kind = .validation := by
  unfold addNested Filter.within at failed
  split at failed
  · cases failed
    rfl
  · generalize filter.resource.relation? _ = relation at failed
    cases relation with
    | none =>
        cases failed
        rfl
    | some relation => exact kind_of_addClause neighbours failed

/-! ## Rows of calls -/

/-- A row of calls ends in the error of the first one that is refused, or well. -/
theorem fst_makeAll
    {calls : List Effect}
    (steady : ∀ call ∈ calls, call.Steady)
    (filter : Filter) :
    (makeAll calls filter).1 =
      match calls.findSome? (·.refusal? filter.resource) with
      | some error => .error error
      | none => .ok () := by
  induction calls generalizing filter with
  | nil => rfl
  | cons call calls inductionHypothesis =>
      obtain ⟨here, kept⟩ := steady call List.mem_cons_self
      have result := here filter
      have kind := kept filter
      rw [makeAll, List.findSome?_cons, Effect.refusal?]
      generalize (call (.empty filter.resource)).1 = ended at result
      generalize call filter = outcome at result kind
      obtain ⟨same, next⟩ := outcome
      obtain rfl : same = ended := result
      cases same with
      | error error => rfl
      | ok =>
          have rest := inductionHypothesis
            (fun other member => steady other (List.mem_cons_of_mem _ member)) next
          exact kind ▸ rest

end Command

/-! ## Selections -/

namespace Selection

open Command

/-- The calls that the clauses of a selection make, in order. -/
def calls (selection : Selection) (now : Time.Instant) : List Effect :=
  selection.clauses.map (fun clause => addClause now clause.toList) ++
    selection.nested.map fun clause => addNested now clause.toList

/-- The error of the first clause that is refused, if one is. -/
def refusal? (selection : Selection) (now : Time.Instant) : Option Error :=
  (selection.calls now).findSome? (·.refusal? selection.resource)

theorem steady_of_mem_calls
    {selection : Selection}
    {now : Time.Instant}
    {call : Effect}
    (member : call ∈ selection.calls now) :
    call.Steady := by
  rcases List.mem_append.mp member with plain | nested
  · obtain ⟨clause, -, rfl⟩ := List.mem_map.mp plain
    exact steady_addClause now clause.toList
  · obtain ⟨clause, -, rfl⟩ := List.mem_map.mp nested
    exact steady_addNested now clause.toList

theorem run_addClauses
    (selection : Selection)
    (now : Time.Instant)
    (filter : Query.Filter) :
    (addClauses now selection.clauses selection.nested).run.run filter =
      makeAll (selection.calls now) filter := by
  rw [addClauses, ExceptT.run_bind, StateT.run_bind, run_forM, calls, makeAll_append]
  generalize makeAll (selection.clauses.map fun clause => addClause now clause.toList) filter =
    outcome
  obtain ⟨result, next⟩ := outcome
  cases result with
  | ok => exact run_forM _ selection.nested next
  | error error => rfl

/-- The calls of a selection end in the error of its first clause that is refused, or well. -/
theorem fst_run_addClauses
    (selection : Selection)
    (now : Time.Instant)
    (query : Query.Expression) :
    ((addClauses now selection.clauses selection.nested).run.run
        ⟨selection.resource, query⟩).1 =
      match selection.refusal? now with
      | some error => .error error
      | none => .ok () := by
  rw [run_addClauses]
  exact fst_makeAll (fun _ member => steady_of_mem_calls member) _

theorem select_of_refused
    {selection : Selection}
    {now : Time.Instant}
    {error : Error}
    (refused : selection.refusal? now = some error)
    (query : Query.Expression) :
    select now selection query = .error error := by
  have ended := selection.fst_run_addClauses now query
  unfold select
  generalize (addClauses now selection.clauses selection.nested).run.run _ = outcome at ended
  rw [refused] at ended
  obtain ⟨result, filter⟩ := outcome
  obtain rfl : result = .error error := ended
  rfl

theorem exists_select_of_accepted
    {selection : Selection}
    {now : Time.Instant}
    (accepted : selection.refusal? now = none)
    (query : Query.Expression) :
    ∃ result, select now selection query = .ok result := by
  have ended := selection.fst_run_addClauses now query
  unfold select
  generalize (addClauses now selection.clauses selection.nested).run.run _ = outcome at ended
  rw [accepted] at ended
  obtain ⟨result, filter⟩ := outcome
  obtain rfl : result = .ok () := ended
  exact ⟨filter.query, rfl⟩

/-- A clause is refused for what it asks for. -/
theorem kind_of_refusal?
    {selection : Selection}
    {now : Time.Instant}
    (neighbours : now.HasNeighbours)
    {error : Error}
    (refused : selection.refusal? now = some error) :
    error.kind = .validation := by
  obtain ⟨call, member, failed⟩ := List.exists_of_findSome?_eq_some refused
  have ended : (call (.empty selection.resource)).1 = .error error := by
    unfold Effect.refusal? at failed
    generalize (call (.empty selection.resource)).1 = result at failed
    cases result with
    | ok => cases failed
    | error problem => exact congrArg Except.error (Option.some.inj failed)
  rcases List.mem_append.mp member with plain | nested
  · obtain ⟨clause, -, rfl⟩ := List.mem_map.mp plain
    exact kind_of_addClause neighbours ended
  · obtain ⟨clause, -, rfl⟩ := List.mem_map.mp nested
    exact kind_of_addNested neighbours ended

end Selection
end ThreatIntel
