import ThreatIntel.Proofs.Query.Calls
import ThreatIntel.Proofs.Query.Names

/-!
# Styles of calling a filter

The steps that can be taken on a filter of one kind, apart from how they are called. A caller takes
them by the methods of the filter, by any names of the fields and relations, or in part by one and
in part by the other. Main statement: whichever way the steps are taken, each gets the same answer,
and they lead to the same filter.
-/

namespace ThreatIntel
namespace Query

/-- A row of steps on a filter of one kind: clauses on its fields, each at a given instant, and
nested queries along its relations. -/
inductive Steps : Resource → Type where
  | done {resource : Resource} : Steps resource
  | compare
      {resource : Resource}
      (now : Time.Instant)
      (field : Field)
      (known : field ∈ resource.fields)
      (operator : Operator)
      (operand : Operand)
      (rest : Steps resource) :
      Steps resource
  | follow
      {resource : Resource}
      (relation : Relation)
      (known : relation ∈ resource.relations)
      (nested : Steps relation.target)
      (rest : Steps resource) :
      Steps resource

namespace Steps

/-- The steps taken by the methods of the filter. -/
def byMethod {resource : Resource} : Steps resource → Calls resource
  | .done => .done
  | .compare now field known operator operand rest =>
      .compare now field known operator operand rest.byMethod
  | .follow relation known nested rest => .follow relation known nested.byMethod rest.byMethod

/-- One row of steps behind another. -/
def append {resource : Resource} : Steps resource → Steps resource → Steps resource
  | .done, later => later
  | .compare now field known operator operand rest, later =>
      .compare now field known operator operand (rest.append later)
  | .follow relation known nested rest, later =>
      .follow relation known nested (rest.append later)

/-- The calls take the steps by names of the fields and relations. -/
inductive ByName : {resource : Resource} → Steps resource → NamedCalls → Prop
  | done {resource : Resource} : ByName (.done : Steps resource) .done
  | compare
      {resource : Resource}
      {now : Time.Instant}
      {field : Field}
      {known : field ∈ resource.fields}
      {operator : Operator}
      {operand : Operand}
      {rest : Steps resource}
      {name : String}
      {calls : NamedCalls}
      (named : IsNameOf name field.keyword)
      (later : ByName rest calls) :
      ByName (.compare now field known operator operand rest)
        (.add now name operator operand calls)
  | follow
      {resource : Resource}
      {relation : Relation}
      {known : relation ∈ resource.relations}
      {nested : Steps relation.target}
      {rest : Steps resource}
      {name : String}
      {inner calls : NamedCalls}
      (named : IsNameOf name relation.keyword)
      (within : ByName nested inner)
      (later : ByName rest calls) :
      ByName (.follow relation known nested rest) (.within name inner calls)

/-- The calls take the steps in either style: any part of a row may be taken by names. -/
inductive InStyles : {resource : Resource} → Steps resource → Calls resource → Prop
  | done {resource : Resource} : InStyles (.done : Steps resource) .done
  | compare
      {resource : Resource}
      {now : Time.Instant}
      {field : Field}
      {known : field ∈ resource.fields}
      {operator : Operator}
      {operand : Operand}
      {rest : Steps resource}
      {calls : Calls resource}
      (later : InStyles rest calls) :
      InStyles (.compare now field known operator operand rest)
        (.compare now field known operator operand calls)
  | follow
      {resource : Resource}
      {relation : Relation}
      {known : relation ∈ resource.relations}
      {nested : Steps relation.target}
      {rest : Steps resource}
      {inner : Calls relation.target}
      {calls : Calls resource}
      (within : InStyles nested inner)
      (later : InStyles rest calls) :
      InStyles (.follow relation known nested rest) (.follow relation known inner calls)
  | named
      {resource : Resource}
      {front rest : Steps resource}
      {named : NamedCalls}
      {calls : Calls resource}
      (byName : ByName front named)
      (later : InStyles rest calls) :
      InStyles (front.append rest) (.named named calls)

end Steps

/-! ## One step -/

namespace Filter

/-- To go on after calls that have gone on is to go on once. -/
theorem andThen_assoc
    (earlier : Outcome)
    (calls later : Filter → Outcome) :
    andThen (andThen earlier calls) later =
      andThen earlier fun filter => andThen (calls filter) later := by
  simp [andThen]

theorem done_andThen
    (filter : Filter)
    (calls : Filter → Outcome) :
    andThen ([], filter) calls = calls filter := by
  simp [andThen]

theorem andThen_congr
    {earlier others : Outcome}
    {calls later : Filter → Outcome}
    (first : earlier = others)
    (second : calls others.2 = later others.2) :
    andThen earlier calls = andThen others later := by
  rw [first, andThen, andThen, second]

variable
  {filter : Filter}
  {name : String}

/-- Trying to append a clause leaves the kind of record. -/
theorem resource_tryAdd
    (now : Time.Instant)
    (name : String)
    (operator : Operator)
    (operand : Operand) :
    (filter.tryAdd now name operator operand).2.resource = filter.resource := by
  cases called : filter.add now name operator operand with
  | error refusal => rw [tryAdd_of_refused called]
  | ok next =>
      rw [tryAdd_of_accepted called]
      obtain ⟨field, -, accepted⟩ :=
        (add_eq_ok_iff now filter next name operator operand).mp called
      obtain ⟨result, -, -, rfl⟩ :=
        (set_eq_ok_iff now filter next field operator operand).mp accepted
      rfl

/-- A field is reached by either of its names. -/
theorem tryAdd_eq_of_isNameOf
    {field : Field}
    (known : field ∈ filter.resource.fields)
    (named : IsNameOf name field.keyword)
    (now : Time.Instant)
    (operator : Operator)
    (operand : Operand) :
    filter.tryAdd now name operator operand =
      filter.tryAdd now field.keyword operator operand := by
  have found : filter.resource.field? name = some field :=
    (Resource.field?_eq_some_iff name).mpr ⟨known, named⟩
  have foundByKeyword : filter.resource.field? field.keyword = some field :=
    (Resource.field?_eq_some_iff field.keyword).mpr ⟨known, .inl rfl⟩
  simp only [tryAdd, add, found, foundByKeyword]

/-- A relation is reached by either of its names. -/
theorem tryWithin_eq_of_isNameOf
    {relation : Relation}
    (known : relation ∈ filter.resource.relations)
    (named : IsNameOf name relation.keyword)
    (calls : Filter → Outcome) :
    filter.tryWithin name calls = filter.into relation (opening calls) :=
  tryWithin_of_known ((Resource.relation?_eq_some_iff name).mpr ⟨known, named⟩) calls

theorem into_opening_congr
    (filter : Filter)
    {relation : Relation}
    {calls others : Filter → Outcome}
    (same : calls (empty relation.target) = others (empty relation.target)) :
    filter.into relation (opening calls) = filter.into relation (opening others) := by
  simp only [into, opening, same]

end Filter

/-! ## Rows of steps -/

open Query.Filter

namespace Steps

variable
  {resource : Resource}
  {filter : Filter}

theorem run_append
    (front rest : Steps resource)
    (filter : Filter) :
    (front.append rest).byMethod.run filter =
      andThen (front.byMethod.run filter) rest.byMethod.run := by
  induction front generalizing filter with
  | done => exact (done_andThen filter _).symm
  | compare now field known operator operand more inductionHypothesis =>
      simp only [append, byMethod, Calls.run, andThen_assoc]
      exact andThen_congr rfl (inductionHypothesis rest _)
  | follow relation known nested more _ inductionHypothesis =>
      simp only [append, byMethod, Calls.run, andThen_assoc]
      exact andThen_congr rfl (inductionHypothesis rest _)

/-- Steps leave the kind of record. -/
theorem resource_run
    (steps : Steps resource)
    (filter : Filter) :
    (steps.byMethod.run filter).2.resource = filter.resource := by
  induction steps generalizing filter with
  | done => rfl
  | compare now field known operator operand rest inductionHypothesis =>
      exact (inductionHypothesis _).trans (resource_tryAdd now field.keyword operator operand)
  | follow relation known nested rest _ inductionHypothesis => exact inductionHypothesis _

/-- Steps taken by names come to the same as steps taken by methods. -/
theorem ByName.run_eq
    {steps : Steps resource}
    {calls : NamedCalls}
    (byName : steps.ByName calls)
    (kind : filter.resource = resource) :
    calls.run filter = steps.byMethod.run filter := by
  induction byName generalizing filter with
  | done => rfl
  | @compare resource now field known operator operand rest name calls named later
      inductionHypothesis =>
      subst kind
      apply andThen_congr
      · exact tryAdd_eq_of_isNameOf known named now operator operand
      · exact inductionHypothesis (resource_tryAdd now field.keyword operator operand)
  | @follow resource relation known nested rest name inner calls named within later
      nestedHypothesis inductionHypothesis =>
      subst kind
      apply andThen_congr
      · rw [tryWithin_eq_of_isNameOf known named]
        exact into_opening_congr filter (nestedHypothesis rfl)
      · exact inductionHypothesis rfl

/-- Steps taken in either style come to the same as steps taken by methods. -/
theorem InStyles.run_eq
    {steps : Steps resource}
    {calls : Calls resource}
    (inStyles : steps.InStyles calls)
    (kind : filter.resource = resource) :
    calls.run filter = steps.byMethod.run filter := by
  induction inStyles generalizing filter with
  | done => rfl
  | @compare resource now field known operator operand rest calls later inductionHypothesis =>
      apply andThen_congr rfl
      exact inductionHypothesis ((resource_tryAdd now field.keyword operator operand).trans kind)
  | @follow resource relation known nested rest inner calls within later nestedHypothesis
      inductionHypothesis =>
      apply andThen_congr
      · exact into_opening_congr filter (nestedHypothesis rfl)
      · exact inductionHypothesis kind
  | @named resource front rest named calls byName later inductionHypothesis =>
      rw [run_append]
      apply andThen_congr
      · exact byName.run_eq kind
      · exact inductionHypothesis ((front.resource_run filter).trans kind)

/-- The steps on a filter of a kind get the same answers, success or refusal and the kind of each
nested filter, and lead to the same filter, whether they are taken by its methods, by names of the
fields and relations, or in a mixture of both. -/
theorem run_eq_in_any_style
    (steps : Steps resource)
    (query : Expression) :
    let filter : Filter := ⟨resource, query⟩
    (∀ calls, steps.ByName calls → calls.run filter = steps.byMethod.run filter) ∧
      ∀ calls, steps.InStyles calls → calls.run filter = steps.byMethod.run filter := by
  intro filter
  constructor
  · intro calls byName
    exact byName.run_eq rfl
  · intro calls inStyles
    exact inStyles.run_eq rfl

/-- On notes: a date that is none, and a nested query on tasks in which a list meets an operator for
single texts, are refused in every style. -/
theorem run_eq_in_any_style_of_refused :
    let now := Time.Instant.epoch
    let name : Field := ⟨"name", .text⟩
    let inner : Steps .task :=
      .compare now name (by decide) .equal (.texts ["triage"])
        (.compare now name (by decide) .startsWith (.text "triage") .done)
    let innerNamed : NamedCalls :=
      .add now "name" .equal (.texts ["triage"])
        (.add now "name" .startsWith (.text "triage") .done)
    let steps : Steps .note :=
      .compare now ⟨"dateAdded", .date⟩ (by decide) .above (.text "never")
        (.follow ⟨"hasTask", .task⟩ (by decide) inner .done)
    let named : NamedCalls :=
      .add now "date_added" .above (.text "never") (.within "has_task" innerNamed .done)
    let mixed : Calls .note :=
      .compare now ⟨"dateAdded", .date⟩ (by decide) .above (.text "never")
        (.named (.within "hasTask" innerNamed .done) .done)
    let start := Filter.empty .note
    (steps.ByName named ∧ steps.InStyles mixed) ∧
      named.run start = steps.byMethod.run start ∧ mixed.run start = steps.byMethod.run start ∧
      (named.run start).1.map (·.isOk) = [false, true, false, true] := by
  intro now name inner innerNamed steps named mixed start
  have innerByName : inner.ByName innerNamed := .compare (.inl rfl) (.compare (.inl rfl) .done)
  have byName : steps.ByName named :=
    .compare (.inr (by decide)) (.follow (.inr (by decide)) innerByName .done)
  have follows : ByName (.follow ⟨"hasTask", .task⟩ (by decide) inner .done : Steps .note)
      (.within "hasTask" innerNamed .done) :=
    .follow (.inl rfl) innerByName .done
  have inStyles : steps.InStyles mixed := .compare (.named follows .done)
  obtain ⟨sameByName, sameInStyles⟩ := run_eq_in_any_style steps .empty
  exact ⟨⟨byName, inStyles⟩, sameByName named byName, sameInStyles mixed inStyles,
    by decide +kernel⟩

end Steps
end Query
end ThreatIntel
