import ThreatIntel.Proofs.Collection.Budgets
import ThreatIntel.Proofs.Collection.Requests

/-!
# Listings

A listing takes records of a collection, a number of them or all. What it comes to is told by the
walk over the entities of the collection: the first entities; or all of them, where the walk ends
before; or the error, where the walk fails before. The listing asks for no page that this walk does
not ask for.
-/

namespace ThreatIntel
namespace Collection

/-- What a listing comes to, and the requests that it takes: so many calls are made on the walk over
entities as there are entities wanted, but none behind the one that answers with the end or with an
error. -/
inductive Lists (collection : Collection) (server : Server) (count : Option Nat) :
    Except Error (List Entity) → List Request → Prop
  | wanted
      {entities : List Entity}
      {pager : Pager}
      {log : List Request}
      (walks : collection.WalksEntities server (entities.map .item) pager log)
      (all : count = some entities.length) :
      Lists collection server count (.ok entities) log
  | ended
      {entities : List Entity}
      {pager : Pager}
      {log : List Request}
      (walks : collection.WalksEntities server (entities.map .item ++ [.ended]) pager log)
      (fewer : ∀ wanted ∈ count, entities.length < wanted) :
      Lists collection server count (.ok entities) log
  | failed
      {entities : List Entity}
      {error : Error}
      {pager : Pager}
      {log : List Request}
      (walks : collection.WalksEntities server (entities.map .item ++ [.failed error]) pager log)
      (fewer : ∀ wanted ∈ count, entities.length < wanted) :
      Lists collection server count (.error error) log

/-! ## The results of a listing -/

theorem untilError_append
    (values : List α)
    (rest : List (Except Error α)) :
    untilError (values.map .ok ++ rest) = (untilError rest).map (values ++ ·) := by
  induction values with
  | nil =>
      change untilError rest = _
      cases untilError rest <;> rfl
  | cons value values inductionHypothesis =>
      rw [List.map_cons, List.cons_append, untilError, inductionHypothesis]
      cases untilError rest <;> rfl

section List

variable
  {collection : Collection}
  {server : Server}
  {count : Option Nat}
  {log : List Request}

/-- The results that a listing looks at. -/
def results
    (server : Server)
    (budget : Nat)
    (collection : Collection)
    (count : Option Nat) :
    Session (List (Except Error collection.resource.Record) × Pager) :=
  match count with
  | some count => Pager.take server collection.read budget count collection.walk
  | none => Pager.drain server collection.read budget collection.walk

theorem run_list
    (server : Server)
    (budget : Nat)
    (collection : Collection)
    (count : Option Nat)
    (log : List Request) :
    (list server budget collection count).outcome.run log =
      (untilError ((results server budget collection count).run log).1.1,
        ((results server budget collection count).run log).2) := by
  have start : list server budget collection count = (do
      let run ← (liftM (results server budget collection count) : Call _)
      (untilError run.1 : Except Error _)) := by
    cases count <;> rfl
  rw [start, Call.run_bind, Call.run_lift_session]
  exact Call.run_lift _ _

/-- A listing asks for pages of the collection only. -/
theorem asks_of_mem_run_list
    (server : Server)
    (budget : Nat)
    (collection : Collection)
    (count : Option Nat)
    {request : Request}
    (member : request ∈ ((list server budget collection count).outcome.run []).2) :
    Pager.Asks collection.resource.endpoint collection.query.render collection.window request := by
  rw [run_list] at member
  have asked : ∀ {after later}, Pager.Continues collection.walk [] after later →
      request ∈ later →
      Pager.Asks collection.resource.endpoint collection.query.render collection.window
        request := by
    intro after later continues inside
    obtain ⟨requests, rfl, asks⟩ := continues.sent
    exact asks request inside
  cases count with
  | some count => exact asked (.take server collection.walk [] collection.read budget count) member
  | none => exact asked (.drain server collection.walk [] collection.read budget) member

/-! ## The walk behind a listing -/

/-- Steps that another reader makes items of are items. -/
theorem exists_items_of_map
    {change : α → β}
    {steps : List (Step α)}
    {values : List β}
    (same : steps.map (Step.map change) = values.map .item) :
    ∃ originals : List α, steps = originals.map .item ∧ values = originals.map change := by
  induction steps generalizing values with
  | nil => exact ⟨[], rfl, List.map_eq_nil_iff.mp same.symm⟩
  | cons step steps inductionHypothesis =>
      obtain ⟨value, values, rfl, here, rest⟩ := List.map_eq_cons_iff.mp same.symm
      obtain ⟨originals, rfl, rfl⟩ := inductionHypothesis rest.symm
      cases step with
      | item original =>
          cases here
          exact ⟨original :: originals, rfl, rfl⟩
      | failed | ended | unfinished => cases here

theorem eq_ended_of_map
    {change : α → β}
    {step : Step α}
    (same : step.map change = .ended) :
    step = .ended := by
  cases step with
  | ended => rfl
  | item | failed | unfinished => cases same

theorem eq_failed_of_map
    {change : α → β}
    {step : Step α}
    {error : Error}
    (same : step.map change = .failed error) :
    step = .failed error := by
  cases step with
  | failed =>
      cases same
      rfl
  | item | ended | unfinished => cases same

/-- Behind the walk over entities stands the typed walk, with the records of the entities. -/
theorem exists_goes_of_walksEntities
    {entities : List Entity}
    {closing : List (Step Entity)}
    {pager : Pager}
    (walks : collection.WalksEntities server (entities.map .item ++ closing) pager log) :
    ∃ (records : List collection.resource.Record) (steps : List (Step collection.resource.Record))
        (calls : Nat),
      entities = records.map (Entity.mk collection.resource) ∧
      closing = steps.map (Step.map (Entity.mk collection.resource)) ∧
      Pager.Goes server collection.read collection.walk [] calls (records.map .item ++ steps) pager
        log := by
  obtain ⟨calls, goes⟩ := (walksEntities_iff _).mp walks
  rw [readEntity_eq] at goes
  obtain ⟨steps, same, typed⟩ := goes.exists_of_map
  obtain ⟨first, second, rfl, items, closes⟩ := List.map_eq_append_iff.mp same.symm
  obtain ⟨records, rfl, rfl⟩ := exists_items_of_map items
  exact ⟨records, second, calls, rfl, closes.symm, typed⟩

/-- Behind the end or the error of the walk over entities stands that of the typed walk. -/
theorem exists_closed_of_walksEntities
    {entities : List Entity}
    {closing : Step Entity}
    {pager : Pager}
    (closes : closing.Closes)
    (walks : collection.WalksEntities server (entities.map .item ++ [closing]) pager log) :
    ∃ (records : List collection.resource.Record) (step : Step collection.resource.Record),
      entities = records.map (Entity.mk collection.resource) ∧
      closing = step.map (Entity.mk collection.resource) ∧
      Pager.Closed server collection.read collection.walk [] records step pager log := by
  obtain ⟨records, steps, calls, rfl, same, goes⟩ := exists_goes_of_walksEntities walks
  obtain ⟨step, rfl, rfl⟩ := List.map_eq_singleton_iff.mp same.symm
  refine ⟨records, step, rfl, rfl, ?_, calls, goes⟩
  cases step with
  | ended => exact .ended
  | failed error => exact .failed error
  | item | unfinished => cases closes

/-- A listing takes the records that are wanted. -/
theorem run_list_of_goes
    {records : List collection.resource.Record}
    {calls : Nat}
    {pager : Pager}
    (goes : Pager.Goes server collection.read collection.walk [] calls (records.map .item) pager
      log)
    {budget : Nat}
    (enough : log.length ≤ budget) :
    (list server budget collection (some records.length)).outcome.run [] = (.ok records, log) := by
  have within : log.length ≤ ([] : List Request).length + budget := by simpa using enough
  have taken := goes.run_take_within rfl within 0
  have nothing : untilError (records.map .ok ++ []) = .ok records := by
    rw [untilError_append]
    simp [untilError, Except.map]
  rw [run_list, results, ← Nat.add_zero records.length, taken]
  exact congrArg (·, log) nothing

/-- A listing takes the records up to the step that closes the walk. -/
theorem run_list_of_closed
    {records : List collection.resource.Record}
    {step : Step collection.resource.Record}
    {pager : Pager}
    (closed : Pager.Closed server collection.read collection.walk [] records step pager log)
    {budget : Nat}
    (enough : log.length ≤ budget)
    (fewer : ∀ wanted ∈ count, records.length < wanted) :
    (list server budget collection count).outcome.run [] =
      (untilError (records.map .ok ++ step.results), log) := by
  have within : log.length ≤ ([] : List Request).length + budget := by simpa using enough
  rw [run_list]
  cases count with
  | some wanted => rw [results, closed.run_take within (fewer wanted rfl)]
  | none => rw [results, closed.run_drain within]

/-- A listing comes to what the walk over entities tells. -/
theorem run_list_of_lists
    {result : Except Error (List Entity)}
    (lists : collection.Lists server count result log)
    {budget : Nat}
    (enough : log.length ≤ budget) :
    ∃ records, (list server budget collection count).outcome.run [] = (records, log) ∧
      result = records.map (·.map (Entity.mk collection.resource)) := by
  cases lists with
  | wanted walks all =>
      rw [← List.append_nil (List.map _ _)] at walks
      obtain ⟨records, steps, calls, rfl, closing, goes⟩ := exists_goes_of_walksEntities walks
      obtain rfl : steps = [] := List.map_eq_nil_iff.mp closing.symm
      rw [List.append_nil] at goes
      rw [all, List.length_map]
      exact ⟨.ok records, run_list_of_goes goes enough, rfl⟩
  | ended walks fewer =>
      obtain ⟨records, step, rfl, same, closed⟩ := exists_closed_of_walksEntities .ended walks
      obtain rfl := eq_ended_of_map same.symm
      refine ⟨.ok records, ?_, rfl⟩
      rw [run_list_of_closed closed enough (by simpa using fewer), untilError_append]
      simp [Step.results, untilError, Except.map]
  | @failed _ error _ _ walks fewer =>
      obtain ⟨records, step, rfl, same, closed⟩ :=
        exists_closed_of_walksEntities (.failed error) walks
      obtain rfl := eq_failed_of_map same.symm
      refine ⟨.error error, ?_, rfl⟩
      rw [run_list_of_closed closed enough (by simpa using fewer), untilError_append]
      rfl

/-- The walk over entities answers as the typed walk does. -/
theorem walksEntities_of_goes
    {records : List collection.resource.Record}
    {steps : List (Step collection.resource.Record)}
    {calls : Nat}
    {pager : Pager}
    (goes : Pager.Goes server collection.read collection.walk [] calls (records.map .item ++ steps)
      pager log) :
    collection.WalksEntities server
      ((records.map (Entity.mk collection.resource)).map .item ++
        steps.map (Step.map (Entity.mk collection.resource))) pager log := by
  refine (walksEntities_iff _).mpr ⟨calls, ?_⟩
  rw [readEntity_eq]
  simpa [Step.map, Function.comp_def] using goes.map (Entity.mk collection.resource)

/-- On a server that fails from some request on, every listing comes to something. -/
theorem exists_lists
    {limit : Nat}
    (fails : server.FailsFrom limit)
    (collection : Collection)
    (count : Option Nat) :
    ∃ result log, collection.Lists server count result log ∧ log.length ≤ limit + 1 := by
  have ends : server.FailsWithin limit [] := fails.failsWithin (by simp)
  obtain ⟨records, step, last, final, closed, within⟩ :=
    Pager.exists_closed ends collection.read collection.walk
  have bound : final.length ≤ limit + 1 := by simpa using within
  obtain ⟨closes, calls, goes⟩ := closed
  by_cases fewer : ∀ wanted ∈ count, records.length < wanted
  · have walks := walksEntities_of_goes goes
    have shorter : ∀ wanted ∈ count,
        (records.map (Entity.mk collection.resource)).length < wanted := by
      simpa using fewer
    cases closes with
    | ended => exact ⟨_, final, .ended walks shorter, bound⟩
    | failed error => exact ⟨_, final, .failed walks shorter, bound⟩
  · -- The walk is cut behind the last record that is wanted.
    obtain ⟨wanted, rfl, enough⟩ : ∃ wanted, count = some wanted ∧ wanted ≤ records.length := by
      simpa using fewer
    have cut : records.map Step.item ++ [step] =
        (records.take wanted).map Step.item ++ ((records.drop wanted).map Step.item ++ [step]) := by
      rw [← List.append_assoc, ← List.map_append, List.take_append_drop]
    rw [cut] at goes
    obtain ⟨between, middle, fewer, more, front, back⟩ := goes.exists_of_append
    rw [← List.append_nil (List.map _ _)] at front
    have walks := walksEntities_of_goes front
    rw [List.map_nil, List.append_nil] at walks
    refine ⟨_, middle, .wanted walks ?_, Nat.le_trans back.log_length_le bound⟩
    rw [List.length_map, List.length_take, Nat.min_eq_left enough]

end List

end Collection
end ThreatIntel
