import ThreatIntel.Proofs.Collection.Passing

/-!
# Walks agree

Main statement: the typed walk over a collection and the walk over its entities answer alike call
for call and send the same requests; both answer with what the pager of the collection answers, less
the records that cannot be read. And on a server that fails from some request on, every call
returns.
-/

namespace ThreatIntel

/-- From a number of requests on, the server fails. -/
def Server.FailsFrom (server : Server) (limit : Nat) : Prop :=
  ∀ (log : List Request) (request : Request), limit ≤ log.length →
    ∃ error, server.answer log request = .error error

theorem Server.ofAnswers_failsFrom (answers : List (Except Error Response)) :
    (ofAnswers answers).FailsFrom answers.length := by
  intro log request behind
  refine ⟨exhausted, ?_⟩
  simp [ofAnswers, List.getD, List.getElem?_eq_none behind]

/-- Behind a log of requests the server answers only so many more in a row before it fails. -/
def Server.FailsWithin (server : Server) : (remaining : Nat) → (log : List Request) → Prop
  | 0, log => ∀ request, ∃ error, server.answer log request = .error error
  | remaining + 1, log => ∀ request, (∃ error, server.answer log request = .error error) ∨
      server.FailsWithin remaining (log ++ [request])

theorem Server.FailsFrom.failsWithin
    {server : Server}
    {limit remaining : Nat}
    (fails : server.FailsFrom limit)
    {log : List Request}
    (bounded : limit ≤ log.length + remaining) :
    server.FailsWithin remaining log := by
  induction remaining generalizing log with
  | zero => exact fun request => fails log request bounded
  | succ remaining inductionHypothesis =>
      refine fun request => .inr (inductionHypothesis ?_)
      rw [List.length_append, List.length_singleton]
      omega

namespace Pager

/-- Make a call on a pager a number of times. -/
def repeated (call : Pager → Session (Step α × Pager)) :
    (count : Nat) → Pager → Session (List (Step α) × Pager)
  | 0, pager => pure ([], pager)
  | count + 1, pager => do
      let (step, pager) ← call pager
      let (rest, pager) ← repeated call count pager
      pure (step :: rest, pager)

theorem steps_eq_repeated
    (server : Server)
    (read : Json → Option α)
    (budget : Nat) :
    steps server read budget = repeated (nextReadable server read budget) := by
  funext count
  induction count with
  | zero => rfl
  | succ count inductionHypothesis =>
      funext pager
      simp only [steps, repeated, inductionHypothesis]

/-- Steps of a walk one after the other, with the number of calls on the pager that they take. -/
inductive Goes (server : Server) (read : Json → Option α) :
    Pager → List Request → Nat → List (Step α) → Pager → List Request → Prop
  | stay {pager : Pager} {log : List Request} : Goes server read pager log 0 [] pager log
  | go
      {pager next last : Pager}
      {log later final : List Request}
      {calls more : Nat}
      {step : Step α}
      {steps : List (Step α)}
      (first : Passes server read pager log calls step next later)
      (rest : Goes server read next later more steps last final) :
      Goes server read pager log (calls + more) (step :: steps) last final

section Runs

variable
  {server : Server}
  {read : Json → Option α}
  {pager last : Pager}
  {log final : List Request}
  {calls : Nat}

theorem Passes.finished
    {step : Step α}
    (passes : Passes server read pager log calls step last final) :
    step ≠ .unfinished := by
  induction passes with
  | @kept _ _ _ _ answer _ _ passed =>
      rintro rfl
      match answer with
      | none => cases passed
      | some (.error error) => cases passed
      | some (.ok record) => simp [pass] at passed
  | skipped _ _ _ inductionHypothesis => exact inductionHypothesis

theorem Passes.calls_pos
    {step : Step α}
    (passes : Passes server read pager log calls step last final) :
    0 < calls := by
  cases passes <;> omega

theorem Goes.finished
    {steps : List (Step α)}
    (goes : Goes server read pager log calls steps last final) :
    .unfinished ∉ steps := by
  induction goes with
  | stay => exact List.not_mem_nil
  | go first _ inductionHypothesis =>
      intro member
      rcases List.mem_cons.mp member with head | tail
      · exact first.finished head.symm
      · exact inductionHypothesis tail

/-- Every step takes a call at least. -/
theorem Goes.length_le
    {steps : List (Step α)}
    (goes : Goes server read pager log calls steps last final) :
    steps.length ≤ calls := by
  induction goes with
  | stay => exact Nat.le_refl 0
  | go first _ inductionHypothesis =>
      have positive := first.calls_pos
      rw [List.length_cons]
      omega

theorem run_repeated_succ
    {call : Pager → Session (Step α × Pager)}
    (count : Nat)
    {next : Pager}
    {step : Step α}
    {later : List Request}
    (called : (call pager).run log = ((step, next), later)) :
    (repeated call (count + 1) pager).run log =
      let rest := (repeated call count next).run later
      ((step :: rest.1.1, rest.1.2), rest.2) := by
  simp only [repeated, StateT.run_bind, called]
  rfl

/-- What passes over records in one call does so in many. -/
theorem Goes.run_repeated
    {call : Pager → Session (Step α × Pager)}
    {bound : Nat}
    (calling : ∀ {pager log calls step last final},
      Passes server read pager log calls step last final → calls ≤ bound →
        (call pager).run log = ((step, last), final))
    {steps : List (Step α)}
    (goes : Goes server read pager log calls steps last final)
    (enough : calls ≤ bound) :
    (repeated call steps.length pager).run log = ((steps, last), final) := by
  induction goes with
  | stay => rfl
  | @go _ _ _ _ _ _ calls more _ _ first _ inductionHypothesis =>
      rw [List.length_cons, run_repeated_succ _ (calling first (by omega)),
        inductionHypothesis (by omega)]

/-- What does nothing in one call but pass over records does nothing else in many. -/
theorem goes_of_run_repeated
    {call : Pager → Session (Step α × Pager)}
    (calling : ∀ {pager log step last final}, step ≠ .unfinished →
      (call pager).run log = ((step, last), final) →
        ∃ calls, Passes server read pager log calls step last final)
    {steps : List (Step α)}
    (finished : .unfinished ∉ steps)
    (run : (repeated call steps.length pager).run log = ((steps, last), final)) :
    ∃ calls, Goes server read pager log calls steps last final := by
  induction steps generalizing pager log with
  | nil =>
      cases run
      exact ⟨0, .stay⟩
  | cons step steps inductionHypothesis =>
      obtain ⟨first, next, later, called⟩ : ∃ first next later,
          (call pager).run log = ((first, next), later) := ⟨_, _, _, rfl⟩
      obtain ⟨others, after, log', others_run⟩ : ∃ others after log',
          (repeated call steps.length next).run later = ((others, after), log') := ⟨_, _, _, rfl⟩
      rw [List.length_cons, run_repeated_succ _ called, others_run] at run
      cases run
      have here : step ≠ .unfinished := fun same => finished (same ▸ List.mem_cons_self)
      obtain ⟨calls, passes⟩ := calling here called
      obtain ⟨more, goes⟩ :=
        inductionHypothesis (fun member => finished (List.mem_cons_of_mem step member)) others_run
      exact ⟨calls + more, .go passes goes⟩

/-- What the typed walk answers, without an exhausted budget, is told by calls on its pager. -/
theorem goes_of_run_steps
    {budget : Nat}
    {steps : List (Step α)}
    (finished : .unfinished ∉ steps)
    (run : (Pager.steps server read budget steps.length pager).run log = ((steps, last), final)) :
    ∃ calls, Goes server read pager log calls steps last final := by
  rw [steps_eq_repeated] at run
  exact goes_of_run_repeated (passes_of_run_nextReadable budget) finished run

/-- The walk over entities answers what is told by calls on its pager. -/
theorem Goes.run_nextEntity
    {resource : Resource}
    {steps : List (Step Entity)}
    (goes : Goes server (readEntity resource) pager log calls steps last final) :
    (repeated (nextEntity server resource calls) steps.length pager).run log =
      ((steps, last), final) :=
  goes.run_repeated (fun passes => passes.run_nextEntity calls) (Nat.le_refl calls)

/-! ## Readers that differ in the value alone -/

theorem Goes.map
    (change : α → β)
    {steps : List (Step α)}
    (goes : Goes server read pager log calls steps last final) :
    Goes server (fun json => (read json).map change) pager log calls (steps.map (Step.map change))
      last final := by
  induction goes with
  | stay => exact .stay
  | go first _ inductionHypothesis => exact .go (first.map change) inductionHypothesis

theorem Goes.exists_of_map
    {change : α → β}
    {changed : List (Step β)}
    (goes : Goes server (fun json => (read json).map change) pager log calls changed last final) :
    ∃ steps : List (Step α), changed = steps.map (Step.map change) ∧
      Goes server read pager log calls steps last final := by
  induction goes with
  | stay => exact ⟨[], rfl, .stay⟩
  | go first _ inductionHypothesis =>
      obtain ⟨step, rfl, passes⟩ := first.exists_of_map
      obtain ⟨steps, rfl, goes⟩ := inductionHypothesis
      exact ⟨step :: steps, rfl, .go passes goes⟩

/-! ## The calls of a pager -/

/-- The calls behind a step carry the history of the pager on. -/
theorem Passes.history
    {origin : Pager}
    {step : Step α}
    (passes : Passes server read pager log calls step last final)
    (count : Nat)
    (pager_eq : (history server origin count).pager = pager)
    (log_eq : (history server origin count).log = log) :
    (history server origin (count + calls)).answers.filterMap (pass read) =
        (history server origin count).answers.filterMap (pass read) ++ [step] ∧
      (history server origin (count + calls)).pager = last ∧
      (history server origin (count + calls)).log = final := by
  induction passes generalizing count with
  | kept called passed =>
      subst pager_eq log_eq
      simp [Pager.history, called, passed]
  | @skipped _ after _ _ later _ answer step calls called passed _ inductionHypothesis =>
      subst pager_eq log_eq
      have answers : (Pager.history server origin (count + 1)).answers.filterMap (pass read) =
          (Pager.history server origin count).answers.filterMap (pass read) := by
        simp [Pager.history, called, passed]
      have carried := inductionHypothesis (count + 1) (by simp [Pager.history, called])
        (by simp [Pager.history, called])
      rw [answers, Nat.add_right_comm] at carried
      exact carried

/-- The calls behind a row of steps carry the history of the pager on. -/
theorem Goes.history
    {steps : List (Step α)}
    (goes : Goes server read pager log calls steps last final)
    (origin : Pager)
    (count : Nat)
    (pager_eq : (history server origin count).pager = pager)
    (log_eq : (history server origin count).log = log) :
    (history server origin (count + calls)).answers.filterMap (pass read) =
        (history server origin count).answers.filterMap (pass read) ++ steps ∧
      (history server origin (count + calls)).pager = last ∧
      (history server origin (count + calls)).log = final := by
  induction goes generalizing count with
  | stay => exact ⟨by simp, pager_eq, log_eq⟩
  | @go _ _ _ _ _ _ calls more step steps first _ inductionHypothesis =>
      obtain ⟨answers, pagers, logs⟩ := first.history count pager_eq log_eq
      obtain ⟨allAnswers, rest⟩ := inductionHypothesis (count + calls) pagers logs
      rw [← Nat.add_assoc]
      refine ⟨?_, rest⟩
      rw [allAnswers, answers, List.append_assoc, List.singleton_append]

end Runs

/-! ## Servers that fail in the end -/

section Fails

variable
  {server : Server}
  {limit : Nat}

/-- After a log behind which only so many more requests are answered, the request for a page fails,
or it takes one of these answers. -/
theorem fetch_cases_within
    {remaining : Nat}
    {log : List Request}
    (within : server.FailsWithin remaining log)
    (pager : Pager) :
    (∃ error failed, (pager.fetch server).run log =
      ((.error error, failed), log ++ [pager.request])) ∨
      ∃ fewer fetched, remaining = fewer + 1 ∧
        server.FailsWithin fewer (log ++ [pager.request]) ∧
        (pager.fetch server).run log = ((.ok (), fetched), log ++ [pager.request]) := by
  have failing : (∃ error, server.answer log pager.request = .error error) →
      ∃ error failed, (pager.fetch server).run log =
        ((.error error, failed), log ++ [pager.request]) := by
    rintro ⟨error, fails⟩
    have page : server.page pager.endpoint log pager.request = .error error := by
      rw [Server.page, fails]
      rfl
    rw [run_fetch, page]
    exact ⟨_, _, rfl⟩
  cases remaining with
  | zero => exact .inl (failing (within pager.request))
  | succ fewer =>
      rcases within pager.request with fails | later
      · exact .inl (failing fails)
      · rcases fetch_cases server pager log with failed | ⟨fetched, run⟩
        · exact .inl failed
        · exact .inr ⟨fewer, fetched, rfl, later, run⟩

/-- The records of a buffer are answered or passed over, and the end is answered; so only the empty
buffer of a pager that still runs matters. -/
theorem exists_passes_of_running
    {read : Json → Option α}
    {log : List Request}
    (fromRunning : ∀ pager : Pager, pager.buffer = [] → pager.phase.isOver = false →
      ∃ calls step last final, Passes server read pager log calls step last final)
    (pager : Pager) :
    ∃ calls step last final, Passes server read pager log calls step last final := by
  generalize contents : pager.buffer = buffer
  induction buffer generalizing pager with
  | nil =>
      cases isOver : pager.phase.isOver with
      | true => exact ⟨1, _, _, _, passes_of_over contents isOver⟩
      | false => exact fromRunning pager contents isOver
  | cons record buffer inductionHypothesis =>
      have called : (pager.next server).run log =
          ((some (.ok record), { pager with buffer := buffer }), log) :=
        run_next_of_held contents
      cases reads : read record with
      | some value => exact ⟨1, _, _, _, .kept called (by simp [pass, reads]; rfl)⟩
      | none =>
          obtain ⟨calls, step, last, final, passes⟩ :=
            inductionHypothesis { pager with buffer := buffer } rfl
          exact ⟨calls + 1, step, last, final, .skipped called (by simp [pass, reads]) passes⟩

/-- On a server that fails in the end, a walk does not pass over records for ever: there are only so
many pages to come. -/
theorem exists_passes
    {remaining : Nat}
    {log : List Request}
    (within : server.FailsWithin remaining log)
    (read : Json → Option α)
    (pager : Pager) :
    ∃ calls step last final, Passes server read pager log calls step last final := by
  -- On the pages that can still come in: a page that is fetched leaves one less.
  induction remaining generalizing pager log with
  | zero =>
      refine exists_passes_of_running ?_ pager
      intro pager empty running
      obtain ⟨error, failed, fetches⟩ | ⟨fewer, -, none, -⟩ := fetch_cases_within within pager
      · exact ⟨1, _, _, _, .kept (run_next_of_failed empty running fetches) rfl⟩
      · cases none
  | succ remaining inductionHypothesis =>
      refine exists_passes_of_running ?_ pager
      intro pager empty running
      obtain ⟨error, failed, fetches⟩ | ⟨fewer, fetched, one, later, fetches⟩ :=
        fetch_cases_within within pager
      · exact ⟨1, _, _, _, .kept (run_next_of_failed empty running fetches) rfl⟩
      · cases one
        obtain ⟨calls, step, last, final, passes⟩ := inductionHypothesis later fetched
        exact ⟨calls, step, last, final,
          passes.of_run_eq (run_next_of_fetched empty running fetches)⟩

theorem exists_goes
    (fails : server.FailsFrom limit)
    (read : Json → Option α)
    (count : Nat)
    (pager : Pager)
    (log : List Request) :
    ∃ calls steps last final, steps.length = count ∧
      Goes server read pager log calls steps last final := by
  induction count generalizing pager log with
  | zero => exact ⟨0, [], pager, log, rfl, .stay⟩
  | succ count inductionHypothesis =>
      obtain ⟨calls, step, next, later, first⟩ :=
        exists_passes (fails.failsWithin (Nat.le_add_left _ _)) read pager
      obtain ⟨more, steps, last, final, length, rest⟩ := inductionHypothesis next later
      exact ⟨calls + more, step :: steps, last, final, by simp [length], .go first rest⟩

end Fails

end Pager

namespace Collection

/-- The first calls on the typed walk over a collection all return, and this is what they answer,
with the pager and the requests that they leave. -/
def Walks
    (collection : Collection)
    (server : Server)
    (steps : List (Step collection.resource.Record))
    (pager : Pager)
    (log : List Request) : Prop :=
  .unfinished ∉ steps ∧ ∃ budget,
    (Pager.steps server collection.read budget steps.length collection.walk).run [] =
      ((steps, pager), log)

/-- The first calls on the walk over the entities of a collection all return, and this is what they
answer, with the pager and the requests that they leave. -/
def WalksEntities
    (collection : Collection)
    (server : Server)
    (steps : List (Step Entity))
    (pager : Pager)
    (log : List Request) : Prop :=
  .unfinished ∉ steps ∧ ∃ fuel,
    (Pager.repeated (Pager.nextEntity server collection.resource fuel) steps.length
        collection.walk).run [] =
      ((steps, pager), log)

section Walks

variable
  {collection : Collection}
  {server : Server}
  {pager : Pager}
  {log : List Request}

theorem walks_iff (steps : List (Step collection.resource.Record)) :
    collection.Walks server steps pager log ↔
      ∃ calls, Pager.Goes server collection.read collection.walk [] calls steps pager log := by
  unfold Walks
  constructor
  · rintro ⟨finished, budget, run⟩
    exact Pager.goes_of_run_steps finished run
  · rintro ⟨calls, goes⟩
    refine ⟨goes.finished, calls, ?_⟩
    rw [Pager.steps_eq_repeated]
    exact goes.run_repeated (fun passes => passes.run_nextReadable calls) (Nat.le_refl calls)

theorem walksEntities_iff (steps : List (Step Entity)) :
    collection.WalksEntities server steps pager log ↔
      ∃ calls, Pager.Goes server (Pager.readEntity collection.resource) collection.walk [] calls
        steps pager log := by
  unfold WalksEntities
  constructor
  · rintro ⟨finished, fuel, run⟩
    exact Pager.goes_of_run_repeated (Pager.passes_of_run_nextEntity fuel) finished run
  · rintro ⟨calls, goes⟩
    exact ⟨goes.finished, calls, goes.run_nextEntity⟩

end Walks

/-- Entities are the records that can be read. -/
theorem readEntity_eq (collection : Collection) :
    Pager.readEntity collection.resource =
      fun json => (collection.read json).map (Entity.mk collection.resource) :=
  funext (Pager.readEntity_eq_map collection.resource)

/-- Where the calls on the typed walk return, so do those on the walk over entities; they answer
with the entities of the records, and leave the same pager and the same requests. -/
theorem exists_run_repeated_nextEntity
    (collection : Collection)
    {server : Server}
    {budget : Nat}
    {steps : List (Step collection.resource.Record)}
    {pager last : Pager}
    {log final : List Request}
    (finished : .unfinished ∉ steps)
    (run : (Pager.steps server collection.read budget steps.length pager).run log =
      ((steps, last), final)) :
    ∃ fuel,
      (Pager.repeated (Pager.nextEntity server collection.resource fuel) steps.length
          pager).run log =
        ((steps.map (Step.map (Entity.mk collection.resource)), last), final) := by
  obtain ⟨calls, goes⟩ := Pager.goes_of_run_steps finished run
  have entities := goes.map (Entity.mk collection.resource)
  rw [← readEntity_eq] at entities
  have called := entities.run_nextEntity
  rw [List.length_map] at called
  exact ⟨calls, called⟩

/-- The walks over a collection agree. The calls on the walk over entities answer with the entities
of the records that the typed walk answers with, and with the same errors and ends, and leave the
same pager and the same requests. Both answer with the answers of the pager, in order, but for the
records that cannot be read. On a server that fails from some request on, any number of calls
returns. -/
theorem walks_agree (server : Server) (collection : Collection) :
    (∀ entities pager log, collection.WalksEntities server entities pager log ↔
      ∃ steps, collection.Walks server steps pager log ∧
        entities = steps.map (Step.map (Entity.mk collection.resource))) ∧
    (∀ steps pager log, collection.Walks server steps pager log →
      ∃ calls, steps.length ≤ calls ∧
        let run := Pager.history server collection.walk calls
        run.answers.filterMap (Pager.pass collection.read) = steps ∧
          run.pager = pager ∧ run.log = log) ∧
    ∀ limit count, server.FailsFrom limit →
      ∃ steps pager log, steps.length = count ∧ collection.Walks server steps pager log := by
  refine ⟨?_, ?_, ?_⟩
  · intro entities pager log
    simp only [walks_iff, walksEntities_iff, readEntity_eq]
    constructor
    · rintro ⟨calls, goes⟩
      obtain ⟨steps, same, typed⟩ := goes.exists_of_map
      exact ⟨steps, ⟨calls, typed⟩, same⟩
    · rintro ⟨steps, ⟨calls, goes⟩, rfl⟩
      exact ⟨calls, goes.map _⟩
  · intro steps pager log walks
    obtain ⟨calls, goes⟩ := (walks_iff steps).mp walks
    have run := goes.history collection.walk 0 rfl rfl
    rw [Nat.zero_add] at run
    exact ⟨calls, goes.length_le, by simpa [Pager.history] using run⟩
  · intro limit count fails
    obtain ⟨calls, steps, last, final, length, goes⟩ :=
      Pager.exists_goes fails collection.read count collection.walk []
    exact ⟨steps, last, final, length, (walks_iff steps).mpr ⟨calls, goes⟩⟩

/-- A page without a record that can be read, a page with one in front of one that cannot, and a
failed page: the first call asks for two pages, the second for the third, and the third is the end.
-/
theorem walks_agree_of_unreadable :
    let page (records : List Json) : Except Error Response :=
      .ok ⟨200, .object [("data", .array records)]⟩
    let server := Server.ofAnswers
      [page [.null, .null], page [.object [], .null], .ok ⟨503, .null⟩]
    let collection : Collection := { resource := .tag, window := { limit := 2 } }
    let tag : Resource.tag.Record := Row.empty _
    let error : Error := .transport "/v3/tags returned 503: null"
    server.FailsFrom 3 ∧
      (∃ pager log calls,
        collection.Walks server [.item tag, .failed error, .ended] pager log ∧
          collection.WalksEntities server [.item ⟨.tag, tag⟩, .failed error, .ended] pager log ∧
          3 ≤ calls ∧ (Pager.history server collection.walk calls).log = log ∧ log.length = 3) ∧
      ∃ steps pager log, steps.length = 7 ∧ collection.Walks server steps pager log := by
  intro page server collection tag error
  have fails : server.FailsFrom 3 := Server.ofAnswers_failsFrom _
  obtain ⟨entities, pagers, returns⟩ := walks_agree server collection
  obtain ⟨pager, log, walks, length⟩ : ∃ pager log,
      collection.Walks server [.item tag, .failed error, .ended] pager log ∧ log.length = 3 :=
    ⟨_, _, ⟨by simp, 3, rfl⟩, rfl⟩
  obtain ⟨calls, least, -, -, same⟩ := pagers _ pager log walks
  exact ⟨fails, ⟨pager, log, calls, walks, (entities _ pager log).mpr ⟨_, walks, rfl⟩, least, same,
    length⟩, returns 3 7 fails⟩

end Collection
end ThreatIntel
