import ThreatIntel.Query.Filter

/-!
# Calls on filters

Rows of calls on a filter, and what they lead to. A caller chooses fields and relations by name, or
by the methods that a filter of one kind has; the two styles may be mixed. A relation opens a nested
filter, which gets a row of calls of its own. A refused call leaves the filter as it was, and the
row goes on.
-/

namespace ThreatIntel
namespace Query

/-- A row of calls that choose fields and relations by name. -/
inductive NamedCalls where
  /-- No call. -/
  | done
  /-- Append a clause on the field that goes by a name, at a given instant. -/
  | add
      (now : Time.Instant)
      (name : String)
      (operator : Operator)
      (operand : Operand)
      (rest : NamedCalls)
  /-- Append a nested query along the relation that goes by a name. -/
  | within
      (name : String)
      (nested : NamedCalls)
      (rest : NamedCalls)

/-- A row of calls on a filter that has one method for each field and relation of its kind. -/
inductive Calls : Resource → Type where
  /-- No call. -/
  | done {resource : Resource} : Calls resource
  /-- The method of a field, called at a given instant. -/
  | compare
      {resource : Resource}
      (now : Time.Instant)
      (field : Field)
      (known : field ∈ resource.fields)
      (operator : Operator)
      (operand : Operand)
      (rest : Calls resource) :
      Calls resource
  /-- The method of a relation. -/
  | follow
      {resource : Resource}
      (relation : Relation)
      (known : relation ∈ resource.relations)
      (nested : Calls relation.target)
      (rest : Calls resource) :
      Calls resource
  /-- Calls by name on the same filter. -/
  | named
      {resource : Resource}
      (calls : NamedCalls)
      (rest : Calls resource) :
      Calls resource

namespace Filter

/-- What an accepted call answers. -/
inductive Answer where
  /-- A clause has been appended. -/
  | added
  /-- A nested filter of the given kind has been opened. -/
  | opened (resource : Resource)
  deriving DecidableEq

/-- What a row of calls comes to: the answers in the order of the calls, and the filter at its
end. -/
abbrev Outcome := List (Except Refusal Answer) × Filter

/-- A refused call leaves the filter as it was. -/
def settle (filter : Filter) : Except Refusal Outcome → Outcome
  | .ok outcome => outcome
  | .error refusal => ([.error refusal], filter)

/-- Go on from where earlier calls have come. -/
def andThen (earlier : Outcome) (calls : Filter → Outcome) : Outcome :=
  let later := calls earlier.2
  (earlier.1 ++ later.1, later.2)

/-- Try to append a clause on the field that goes by a name. -/
def tryAdd
    (now : Time.Instant)
    (name : String)
    (operator : Operator)
    (operand : Operand)
    (filter : Filter) : Outcome :=
  filter.settle ((filter.add now name operator operand).map fun next => ([.ok .added], next))

/-- Calls on a nested filter, after the answer that it has been opened. -/
def opening (calls : Filter → Outcome) (nested : Filter) : Outcome :=
  (.ok (.opened nested.resource) :: (calls nested).1, (calls nested).2)

/-- Try to append a nested query along the relation that goes by a name. -/
def tryWithin (name : String) (calls : Filter → Outcome) (filter : Filter) : Outcome :=
  filter.settle (filter.within name (opening calls))

end Filter

open Query.Filter

/-- Make a row of calls. -/
def NamedCalls.run : NamedCalls → Filter → Outcome
  | .done => fun filter => ([], filter)
  | .add now name operator operand rest => fun filter =>
      andThen (filter.tryAdd now name operator operand) rest.run
  | .within name nested rest => fun filter =>
      andThen (filter.tryWithin name nested.run) rest.run

/-- Make a row of calls; the method of a field appends a clause on its keyword. -/
def Calls.run : {resource : Resource} → Calls resource → Filter → Outcome
  | _, .done => fun filter => ([], filter)
  | _, .compare now field _ operator operand rest => fun filter =>
      andThen (filter.tryAdd now field.keyword operator operand) rest.run
  | _, .follow relation _ nested rest => fun filter =>
      andThen (filter.into relation (opening nested.run)) rest.run
  | _, .named calls rest => fun filter => andThen (calls.run filter) rest.run

/-! ## What one call does -/

namespace Filter

/-- The method of a field appends a clause on it, with the literal brought into the form in which it
is compared. -/
theorem set_eq_ok_iff
    (now : Time.Instant)
    (filter next : Filter)
    (field : Field)
    (operator : Operator)
    (operand : Operand) :
    filter.set now field operator operand = .ok next ↔
      ∃ result, coerce now field operand = .ok result ∧
        Clause.refusal? ⟨field.keyword, operator, result, field.type.valueType⟩ = none ∧
        next = { filter with
          query := filter.query.push ⟨field.keyword, operator, result, field.type.valueType⟩ } := by
  unfold set
  cases coerce now field operand with
  | error refusal => simp [bind, Except.bind]
  | ok result =>
      simp only [bind, Except.bind, Except.ok.injEq, exists_eq_left']
      unfold Expression.add
      cases Clause.refusal? ⟨field.keyword, operator, result, field.type.valueType⟩ with
      | none => simp [eq_comm]
      | some refusal => simp

/-- A name stands for the method of the field that goes by it. -/
theorem add_eq_ok_iff
    (now : Time.Instant)
    (filter next : Filter)
    (name : String)
    (operator : Operator)
    (operand : Operand) :
    filter.add now name operator operand = .ok next ↔
      ∃ field, filter.resource.field? name = some field ∧
        filter.set now field operator operand = .ok next := by
  unfold add
  cases filter.resource.field? name <;> simp

end Filter

/-! ## Refused calls -/

/-- The calls of a row that are accepted, at any depth. -/
def NamedCalls.accepted : NamedCalls → Filter → NamedCalls
  | .done => fun _ => .done
  | .add now name operator operand rest => fun filter =>
      match filter.add now name operator operand with
      | .ok next => .add now name operator operand (rest.accepted next)
      | .error _ => rest.accepted filter
  | .within name nested rest => fun filter =>
      match filter.resource.relation? name with
      | some relation =>
          .within name (nested.accepted (empty relation.target))
            (rest.accepted (filter.into relation nested.run).2)
      | none => rest.accepted filter

/-- The calls of a row that are accepted, at any depth. -/
def Calls.accepted : {resource : Resource} → Calls resource → Filter → Calls resource
  | _, .done => fun _ => .done
  | _, .compare now field known operator operand rest => fun filter =>
      match filter.add now field.keyword operator operand with
      | .ok next => .compare now field known operator operand (rest.accepted next)
      | .error _ => rest.accepted filter
  | _, .follow relation known nested rest => fun filter =>
      .follow relation known (nested.accepted (empty relation.target))
        (rest.accepted (filter.into relation nested.run).2)
  | _, .named calls rest => fun filter =>
      .named (calls.accepted filter) (rest.accepted (calls.run filter).2)

namespace Filter

section Try

variable
  {now : Time.Instant}
  {name : String}
  {operator : Operator}
  {operand : Operand}
  {filter next : Filter}
  {refusal : Refusal}
  {relation : Relation}

theorem tryAdd_of_accepted (accepted : filter.add now name operator operand = .ok next) :
    filter.tryAdd now name operator operand = ([.ok .added], next) := by
  rw [tryAdd, accepted]
  rfl

theorem tryAdd_of_refused (refused : filter.add now name operator operand = .error refusal) :
    filter.tryAdd now name operator operand = ([.error refusal], filter) := by
  rw [tryAdd, refused]
  rfl

theorem tryWithin_of_known
    (known : filter.resource.relation? name = some relation)
    (calls : Filter → Outcome) :
    filter.tryWithin name calls = filter.into relation (opening calls) := by
  simp [tryWithin, within, known, settle]

theorem tryWithin_of_unknown
    (unknown : filter.resource.relation? name = none)
    (calls : Filter → Outcome) :
    filter.tryWithin name calls =
      ([.error (.unknownRelation name filter.resource)], filter) := by
  simp [tryWithin, within, unknown, settle]

end Try

/-- What a row of calls comes to, without the refusals among the answers. -/
def withoutRefusals (outcome : Outcome) : Outcome :=
  (outcome.1.filter (·.isOk), outcome.2)

/-- Two parts of a row that come to the same but for refusals do so together. -/
theorem andThen_eq_withoutRefusals
    {kept earlier : Outcome}
    {keptLater later : Filter → Outcome}
    (first : kept = withoutRefusals earlier)
    (second : keptLater earlier.2 = withoutRefusals (later earlier.2)) :
    andThen kept keptLater = withoutRefusals (andThen earlier later) := by
  subst first
  simp only [andThen, withoutRefusals] at second ⊢
  rw [second, List.filter_append]

/-- A refusal counts for nothing. -/
theorem withoutRefusals_andThen_refused
    (refusal : Refusal)
    (filter : Filter)
    (calls : Filter → Outcome) :
    withoutRefusals (andThen ([.error refusal], filter) calls) =
      withoutRefusals (calls filter) := by
  simp [withoutRefusals, andThen, Except.isOk, Except.toBool]

/-- Calls on a nested filter that come to the same but for refusals do so in the whole: the answer
that the nested filter has been opened is no refusal. -/
theorem into_opening_withoutRefusals
    (filter : Filter)
    {relation : Relation}
    {calls others : Filter → Outcome}
    (same : others (empty relation.target) = withoutRefusals (calls (empty relation.target))) :
    filter.into relation (opening others) =
      withoutRefusals (filter.into relation (opening calls)) := by
  simp only [into, opening, same]
  rfl

end Filter

/-- Without its refused calls, a row leads to the same filter, and gets the same answers but for
the refusals. -/
theorem NamedCalls.run_accepted (calls : NamedCalls) (filter : Filter) :
    (calls.accepted filter).run filter = withoutRefusals (calls.run filter) := by
  induction calls generalizing filter with
  | done => rfl
  | add now name operator operand rest inductionHypothesis =>
      cases called : filter.add now name operator operand with
      | ok next =>
          simp only [accepted, called, run, tryAdd_of_accepted called]
          exact andThen_eq_withoutRefusals rfl (inductionHypothesis next)
      | error refusal =>
          simp only [accepted, called, run, tryAdd_of_refused called]
          rw [withoutRefusals_andThen_refused]
          exact inductionHypothesis filter
  | within name nested rest nestedHypothesis inductionHypothesis =>
      cases found : filter.resource.relation? name with
      | some relation =>
          have inner := nestedHypothesis (empty relation.target)
          simp only [accepted, found, run, tryWithin_of_known found]
          exact andThen_eq_withoutRefusals (into_opening_withoutRefusals filter inner)
            (inductionHypothesis _)
      | none =>
          simp only [accepted, found, run, tryWithin_of_unknown found]
          rw [withoutRefusals_andThen_refused]
          exact inductionHypothesis filter

/-- Without its refused calls, a row leads to the same filter, and gets the same answers but for
the refusals. -/
theorem Calls.run_accepted
    {resource : Resource}
    (calls : Calls resource)
    (filter : Filter) :
    (calls.accepted filter).run filter = withoutRefusals (calls.run filter) := by
  induction calls generalizing filter with
  | done => rfl
  | compare now field known operator operand rest inductionHypothesis =>
      cases called : filter.add now field.keyword operator operand with
      | ok next =>
          simp only [accepted, called, run, tryAdd_of_accepted called]
          exact andThen_eq_withoutRefusals rfl (inductionHypothesis next)
      | error refusal =>
          simp only [accepted, called, run, tryAdd_of_refused called]
          rw [withoutRefusals_andThen_refused]
          exact inductionHypothesis filter
  | follow relation known nested rest nestedHypothesis inductionHypothesis =>
      have inner := nestedHypothesis (empty relation.target)
      simp only [accepted, run]
      exact andThen_eq_withoutRefusals (into_opening_withoutRefusals filter inner)
        (inductionHypothesis _)
  | named calls rest inductionHypothesis =>
      simp only [accepted, run]
      exact andThen_eq_withoutRefusals (calls.run_accepted filter) (inductionHypothesis _)

end Query
end ThreatIntel
