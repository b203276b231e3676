import ThreatIntel.Collection.Entities
import ThreatIntel.Proofs.Collection.Law
import ThreatIntel.Proofs.Collection.Steps

/-!
# Passing over records

A walk calls its pager until this answers with something that is not passed over: a record that can
be read, an error, or the end. `Pager.Passes` says so of one step of a walk and counts the calls.
The walk over typed records, which looks through the buffer before it fetches, and the walk over
entities, which calls the pager record by record, both do just this.
-/

namespace ThreatIntel

/-- The same outcome with another value. -/
def Step.map (change : α → β) : Step α → Step β
  | .item value => .item (change value)
  | .failed error => .failed error
  | .ended => .ended
  | .unfinished => .unfinished

namespace Pager

/-- What becomes of an answer of a pager: a record that cannot be read is passed over. -/
def pass (read : Json → Option α) : Option (Except Error Json) → Option (Step α)
  | some (.ok record) => (read record).map .item
  | some (.error error) => some (.failed error)
  | none => some .ended

/-- A pager answers with something that is not passed over at the last of a number of calls, and at
no earlier one. -/
inductive Passes (server : Server) (read : Json → Option α) :
    Pager → List Request → Nat → Step α → Pager → List Request → Prop
  | kept
      {pager after : Pager}
      {log later : List Request}
      {answer : Option (Except Error Json)}
      {step : Step α}
      (called : (pager.next server).run log = ((answer, after), later))
      (passed : pass read answer = some step) :
      Passes server read pager log 1 step after later
  | skipped
      {pager after last : Pager}
      {log later final : List Request}
      {answer : Option (Except Error Json)}
      {step : Step α}
      {calls : Nat}
      (called : (pager.next server).run log = ((answer, after), later))
      (passed : pass read answer = none)
      (rest : Passes server read after later calls step last final) :
      Passes server read pager log (calls + 1) step last final

/-! ## Calls on a pager -/

section Calls

variable
  {server : Server}
  {pager : Pager}
  {log : List Request}

theorem run_next_of_held
    {record : Json}
    {buffer : List Json}
    (held : pager.buffer = record :: buffer) :
    (pager.next server).run log = ((some (.ok record), { pager with buffer := buffer }), log) := by
  have popped : pager.pop = (some record, { pager with buffer := buffer }) := by
    simp only [pop, held]
  simp only [next, popped]
  rfl

theorem run_next_of_failed
    {failed : Pager}
    {later : List Request}
    {error : Error}
    (empty : pager.buffer = [])
    (running : pager.phase.isOver = false)
    (fetched : (pager.fetch server).run log = ((.error error, failed), later)) :
    (pager.next server).run log = ((some (.error error), failed), later) := by
  have popped : pager.pop = (none, pager) := by simp only [pop, empty]
  simp only [next, popped, running, Bool.false_eq_true, if_false, StateT.run_bind, fetched]
  rfl

/-- A page that comes in without records is the end. -/
theorem phase_of_fetched
    {fetched : Pager}
    {later : List Request}
    (empty : pager.buffer = [])
    (run : (pager.fetch server).run log = ((.ok (), fetched), later))
    (nothing : fetched.buffer = []) :
    fetched.phase.isOver = true := by
  rw [run_fetch] at run
  cases page : server.page pager.endpoint log pager.request with
  | error error =>
      simp only [page] at run
      cases run
  | ok records =>
      simp only [page] at run
      cases run
      have none : records = [] := by simpa [received, awaiting, empty] using nothing
      simp [received, none, Phase.isOver]

/-- A call that fetches a page answers as the next call would on the pager that holds the page. -/
theorem run_next_of_fetched
    {fetched : Pager}
    {later : List Request}
    (empty : pager.buffer = [])
    (running : pager.phase.isOver = false)
    (run : (pager.fetch server).run log = ((.ok (), fetched), later)) :
    (pager.next server).run log = (fetched.next server).run later := by
  have popped : pager.pop = (none, pager) := by simp only [pop, empty]
  have step : (pager.next server).run log = ((fetched.pop.1.map .ok, fetched.pop.2), later) := by
    simp only [next, popped, running, Bool.false_eq_true, if_false, StateT.run_bind, run]
    rfl
  rw [step]
  cases held : fetched.buffer with
  | cons record buffer =>
      rw [run_next_of_held held]
      simp only [pop, held, Option.map_some]
  | nil =>
      rw [run_next_of_over held (phase_of_fetched empty run held)]
      simp only [pop, held, Option.map_none]

/-- What becomes of the request for a page. -/
theorem fetch_cases (server : Server) (pager : Pager) (log : List Request) :
    (∃ error failed, (pager.fetch server).run log =
      ((.error error, failed), log ++ [pager.request])) ∨
      ∃ fetched, (pager.fetch server).run log = ((.ok (), fetched), log ++ [pager.request]) := by
  rw [run_fetch]
  cases server.page pager.endpoint log pager.request with
  | error error => exact .inl ⟨error, _, rfl⟩
  | ok records => exact .inr ⟨_, rfl⟩

theorem drained_of_empty (empty : pager.buffer = []) : pager.drained = pager := by
  cases pager
  simp_all [drained]

end Calls

/-- A first call that answers alike is followed by the same. -/
theorem Passes.of_run_eq
    {server : Server}
    {read : Json → Option α}
    {pager other last : Pager}
    {log otherLog final : List Request}
    {calls : Nat}
    {step : Step α}
    (same : (pager.next server).run log = (other.next server).run otherLog)
    (passes : Passes server read other otherLog calls step last final) :
    Passes server read pager log calls step last final := by
  cases passes with
  | kept called passed => exact .kept (same.trans called) passed
  | skipped called passed rest => exact .skipped (same.trans called) passed rest

/-! ## The typed walk -/

section Readable

variable
  {server : Server}
  {read : Json → Option α}
  {pager : Pager}
  {log : List Request}

theorem run_nextReadable_of_unreadable
    (budget : Nat)
    {record : Json}
    {buffer : List Json}
    (held : pager.buffer = record :: buffer)
    (unreadable : read record = none) :
    (nextReadable server read budget pager).run log =
      (nextReadable server read budget { pager with buffer := buffer }).run log := by
  unfold nextReadable
  simp only [held, skim, unreadable]
  rfl

theorem run_nextReadable_of_failed
    (budget : Nat)
    {failed : Pager}
    {later : List Request}
    {error : Error}
    (empty : pager.buffer = [])
    (running : pager.phase.isOver = false)
    (fetched : (pager.fetch server).run log = ((.error error, failed), later)) :
    (nextReadable server read (budget + 1) pager).run log = ((.failed error, failed), later) := by
  rw [← drained_of_empty empty] at fetched
  simp only [nextReadable, empty, skim, running, Bool.false_eq_true, if_false, StateT.run_bind,
    fetched]
  rfl

/-- The walk that has to fetch a page goes on with it, with one request less. -/
theorem run_nextReadable_of_page
    (budget : Nat)
    {fetched : Pager}
    {later : List Request}
    (empty : pager.buffer = [])
    (running : pager.phase.isOver = false)
    (run : (pager.fetch server).run log = ((.ok (), fetched), later)) :
    (nextReadable server read (budget + 1) pager).run log =
      (nextReadable server read budget fetched).run later := by
  rw [← drained_of_empty empty] at run
  exact run_nextReadable_of_fetched budget (by simp [empty, skim]) running run

theorem run_nextReadable_of_exhausted
    (budget : Nat)
    (empty : pager.buffer = [])
    (isOver : pager.phase.isOver = true) :
    (nextReadable server read budget pager).run log = ((.ended, pager), log) := by
  rw [run_nextReadable_of_over budget (by simp [empty, skim]) isOver, drained_of_empty empty]

/-- When the first call sends no request, the walk answers with what is not passed over. -/
theorem run_nextReadable_of_kept
    (budget : Nat)
    {after : Pager}
    {later : List Request}
    {answer : Option (Except Error Json)}
    {step : Step α}
    (settled : pager.buffer ≠ [] ∨ pager.phase.isOver = true)
    (called : (pager.next server).run log = ((answer, after), later))
    (passed : pass read answer = some step) :
    (nextReadable server read budget pager).run log = ((step, after), later) := by
  cases held : pager.buffer with
  | cons record buffer =>
      rw [run_next_of_held held] at called
      cases called
      obtain ⟨value, reads, rfl⟩ := Option.map_eq_some_iff.mp passed
      exact run_nextReadable_of_found budget (by simp [held, skim, reads]) log
  | nil =>
      have isOver : pager.phase.isOver = true := settled.resolve_left (by simp [held])
      rw [run_next_of_over held isOver] at called
      cases called
      cases passed
      exact run_nextReadable_of_exhausted budget held isOver

/-- When the first call sends no request, the walk goes on behind what is passed over. -/
theorem run_nextReadable_of_skipped
    (budget : Nat)
    {after : Pager}
    {later : List Request}
    {answer : Option (Except Error Json)}
    (settled : pager.buffer ≠ [] ∨ pager.phase.isOver = true)
    (called : (pager.next server).run log = ((answer, after), later))
    (passed : pass read answer = none) :
    (nextReadable server read budget pager).run log =
      (nextReadable server read budget after).run later := by
  cases held : pager.buffer with
  | cons record buffer =>
      rw [run_next_of_held held] at called
      cases called
      exact run_nextReadable_of_unreadable budget held (Option.map_eq_none_iff.mp passed)
  | nil =>
      have isOver : pager.phase.isOver = true := settled.resolve_left (by simp [held])
      rw [run_next_of_over held isOver] at called
      cases called
      cases passed

/-- With one request left for the first call, the walk does what the call does: it answers with what
is not passed over, and goes on with no more than one request less otherwise. -/
theorem run_nextReadable_of_call
    (read : Json → Option α)
    (budget : Nat)
    {after : Pager}
    {later : List Request}
    {answer : Option (Except Error Json)}
    (called : (pager.next server).run log = ((answer, after), later)) :
    match pass read answer with
    | some step =>
        (nextReadable server read (budget + 1) pager).run log = ((step, after), later)
    | none => ∃ left, budget ≤ left ∧
        (nextReadable server read (budget + 1) pager).run log =
          (nextReadable server read left after).run later := by
  -- The first call is settled without a request by the buffer or by the end. Where it is not, it
  -- fetches a page, and is settled on this page.
  by_cases settled : pager.buffer ≠ [] ∨ pager.phase.isOver = true
  · cases passed : pass read answer with
    | some step => exact run_nextReadable_of_kept (budget + 1) settled called passed
    | none =>
        exact ⟨budget + 1, by omega,
          run_nextReadable_of_skipped (budget + 1) settled called passed⟩
  · have empty : pager.buffer = [] := by
      simpa using fun held => settled (.inl held)
    have running : pager.phase.isOver = false := by
      simpa using fun isOver => settled (.inr isOver)
    obtain ⟨error, failed, run⟩ | ⟨fetched, run⟩ := fetch_cases server pager log
    · rw [run_next_of_failed empty running run] at called
      cases called
      exact run_nextReadable_of_failed budget empty running run
    · rw [run_next_of_fetched empty running run] at called
      have page : fetched.buffer ≠ [] ∨ fetched.phase.isOver = true := by
        by_cases nothing : fetched.buffer = []
        · exact .inr (phase_of_fetched empty run nothing)
        · exact .inl nothing
      rw [run_nextReadable_of_page budget empty running run]
      cases passed : pass read answer with
      | some step => exact run_nextReadable_of_kept budget page called passed
      | none =>
          exact ⟨budget, Nat.le_refl budget,
            run_nextReadable_of_skipped budget page called passed⟩

/-- The typed walk passes over records, as long as it has a request for every call. -/
theorem Passes.run_nextReadable
    {last : Pager}
    {final : List Request}
    {calls : Nat}
    {step : Step α}
    (passes : Passes server read pager log calls step last final)
    (budget : Nat)
    (enough : calls ≤ budget) :
    (nextReadable server read budget pager).run log = ((step, last), final) := by
  induction passes generalizing budget with
  | kept called passed =>
      obtain ⟨budget, rfl⟩ := Nat.exists_eq_add_of_le' enough
      have answered := run_nextReadable_of_call read budget called
      simpa only [passed] using answered
  | @skipped _ _ _ _ _ _ _ _ calls called passed _ inductionHypothesis =>
      obtain ⟨budget, rfl⟩ : ∃ less, budget = less + 1 := ⟨budget - 1, by omega⟩
      have answered := run_nextReadable_of_call read budget called
      simp only [passed] at answered
      obtain ⟨left, most, goesOn⟩ := answered
      rw [goesOn]
      exact inductionHypothesis left (by omega)

theorem passes_of_over
    (empty : pager.buffer = [])
    (isOver : pager.phase.isOver = true) :
    Passes server read pager log 1 .ended pager log :=
  .kept (run_next_of_over empty isOver log) rfl

/-- A record in the buffer is either answered or passed over, and the end is answered; so only the
empty buffer of a pager that still runs matters. -/
theorem passes_of_running
    (budget : Nat)
    {step : Step α}
    {last : Pager}
    {final : List Request}
    (fromRunning : ∀ pager : Pager, pager.buffer = [] → pager.phase.isOver = false →
      (nextReadable server read budget pager).run log = ((step, last), final) →
      ∃ calls, Passes server read pager log calls step last final)
    (run : (nextReadable server read budget pager).run log = ((step, last), final)) :
    ∃ calls, Passes server read pager log calls step last final := by
  generalize contents : pager.buffer = buffer
  induction buffer generalizing pager with
  | nil =>
      cases isOver : pager.phase.isOver with
      | true =>
          rw [run_nextReadable_of_exhausted budget contents isOver] at run
          cases run
          exact ⟨1, passes_of_over contents isOver⟩
      | false => exact fromRunning pager contents isOver run
  | cons record buffer inductionHypothesis =>
      cases reads : read record with
      | some value =>
          have found : skim read pager.buffer = some (value, buffer) := by
            simp [contents, skim, reads]
          rw [run_nextReadable_of_found budget found] at run
          cases run
          exact ⟨1, .kept (run_next_of_held contents) (by simp [pass, reads])⟩
      | none =>
          rw [run_nextReadable_of_unreadable budget contents reads] at run
          obtain ⟨calls, passes⟩ := inductionHypothesis run rfl
          exact ⟨calls + 1, .skipped (run_next_of_held contents) (by simp [pass, reads]) passes⟩

theorem run_nextReadable_of_no_budget
    (empty : pager.buffer = [])
    (running : pager.phase.isOver = false) :
    (nextReadable server read 0 pager).run log = ((.unfinished, pager), log) := by
  unfold nextReadable
  simp only [empty, skim, running, Bool.false_eq_true, if_false, drained_of_empty empty]
  rfl

/-- The typed walk does nothing but pass over records. -/
theorem passes_of_run_nextReadable
    (budget : Nat)
    {step : Step α}
    {last : Pager}
    {final : List Request}
    (finished : step ≠ .unfinished)
    (run : (nextReadable server read budget pager).run log = ((step, last), final)) :
    ∃ calls, Passes server read pager log calls step last final := by
  induction budget generalizing pager log with
  | zero =>
      refine passes_of_running 0 ?_ run
      intro pager empty running run
      rw [run_nextReadable_of_no_budget empty running] at run
      cases run
      exact absurd rfl finished
  | succ budget inductionHypothesis =>
      refine passes_of_running (budget + 1) ?_ run
      intro pager empty running run
      obtain ⟨error, failed, fetches⟩ | ⟨fetched, fetches⟩ := fetch_cases server pager log
      · rw [run_nextReadable_of_failed budget empty running fetches] at run
        cases run
        exact ⟨1, .kept (run_next_of_failed empty running fetches) rfl⟩
      · rw [run_nextReadable_of_page budget empty running fetches] at run
        obtain ⟨calls, passes⟩ := inductionHypothesis run
        exact ⟨calls, passes.of_run_eq (run_next_of_fetched empty running fetches)⟩

end Readable

/-! ## The walk over entities -/

section Entities

variable
  {server : Server}
  {resource : Resource}
  {pager last : Pager}
  {log final : List Request}

/-- How entities of a kind are read, without the error of those that cannot be. -/
def readEntity (resource : Resource) (json : Json) : Option Entity :=
  (Entity.read resource json).toOption

theorem readEntity_eq_map (resource : Resource) (json : Json) :
    readEntity resource json = (resource.codec.readJson? json).map (Entity.mk resource) := by
  unfold readEntity Entity.read Resource.readRecord
  cases resource.codec.readJson? json <;> rfl

/-- With fuel for the first call, the walk over entities does what the call does. -/
theorem run_nextEntity_of_call
    (fuel : Nat)
    {after : Pager}
    {later : List Request}
    {answer : Option (Except Error Json)}
    (called : (pager.next server).run log = ((answer, after), later)) :
    (nextEntity server resource (fuel + 1) pager).run log =
      match pass (readEntity resource) answer with
      | some step => ((step, after), later)
      | none => (nextEntity server resource fuel after).run later := by
  simp only [nextEntity, StateT.run_bind, called]
  match answer with
  | none => rfl
  | some (.error error) => rfl
  | some (.ok json) =>
      cases reads : Entity.read resource json with
      | ok entity =>
          simp only [pass, readEntity, bind, reads, Except.toOption, Option.map_some]
          rfl
      | error error =>
          simp only [pass, readEntity, bind, reads, Except.toOption, Option.map_none]

/-- The walk over entities passes over records, as long as it has fuel for every call. -/
theorem Passes.run_nextEntity
    {calls : Nat}
    {step : Step Entity}
    (passes : Passes server (readEntity resource) pager log calls step last final)
    (fuel : Nat)
    (enough : calls ≤ fuel) :
    (nextEntity server resource fuel pager).run log = ((step, last), final) := by
  induction passes generalizing fuel with
  | kept called passed =>
      obtain ⟨fuel, rfl⟩ := Nat.exists_eq_add_of_le' enough
      rw [run_nextEntity_of_call fuel called, passed]
  | @skipped _ _ _ _ _ _ _ _ calls called passed _ inductionHypothesis =>
      obtain ⟨fuel, rfl⟩ : ∃ less, fuel = less + 1 := ⟨fuel - 1, by omega⟩
      rw [run_nextEntity_of_call fuel called, passed]
      exact inductionHypothesis fuel (by omega)

/-- The walk over entities does nothing but pass over records. -/
theorem passes_of_run_nextEntity
    (fuel : Nat)
    {step : Step Entity}
    (finished : step ≠ .unfinished)
    (run : (nextEntity server resource fuel pager).run log = ((step, last), final)) :
    ∃ calls, Passes server (readEntity resource) pager log calls step last final := by
  induction fuel generalizing pager log with
  | zero =>
      cases run
      exact absurd rfl finished
  | succ fuel inductionHypothesis =>
      obtain ⟨answer, after, later, called⟩ : ∃ answer after later,
          (pager.next server).run log = ((answer, after), later) := ⟨_, _, _, rfl⟩
      rw [run_nextEntity_of_call fuel called] at run
      cases passed : pass (readEntity resource) answer with
      | some kept =>
          simp only [passed] at run
          cases run
          exact ⟨1, .kept called passed⟩
      | none =>
          simp only [passed] at run
          obtain ⟨calls, passes⟩ := inductionHypothesis run
          exact ⟨calls + 1, .skipped called passed passes⟩

end Entities

/-! ## Readers that differ in the value alone -/

section Map

variable
  {server : Server}
  {read : Json → Option α}
  {pager last : Pager}
  {log final : List Request}
  {calls : Nat}

theorem pass_map
    (read : Json → Option α)
    (change : α → β)
    (answer : Option (Except Error Json)) :
    pass (fun json => (read json).map change) answer =
      (pass read answer).map (Step.map change) := by
  match answer with
  | none => rfl
  | some (.error error) => rfl
  | some (.ok json) => cases reads : read json <;> simp [pass, reads, Step.map]

theorem Passes.map
    (change : α → β)
    {step : Step α}
    (passes : Passes server read pager log calls step last final) :
    Passes server (fun json => (read json).map change) pager log calls (step.map change) last
      final := by
  induction passes with
  | kept called passed => exact .kept called (by rw [pass_map, passed, Option.map_some])
  | skipped called passed _ inductionHypothesis =>
      exact .skipped called (by rw [pass_map, passed, Option.map_none]) inductionHypothesis

theorem Passes.exists_of_map
    {change : α → β}
    {changed : Step β}
    (passes : Passes server (fun json => (read json).map change) pager log calls changed last
      final) :
    ∃ step : Step α, changed = step.map change ∧
      Passes server read pager log calls step last final := by
  induction passes with
  | kept called passed =>
      rw [pass_map] at passed
      obtain ⟨step, kept, rfl⟩ := Option.map_eq_some_iff.mp passed
      exact ⟨step, rfl, .kept called kept⟩
  | skipped called passed _ inductionHypothesis =>
      rw [pass_map, Option.map_eq_none_iff] at passed
      obtain ⟨step, same, rest⟩ := inductionHypothesis
      exact ⟨step, same, .skipped called passed rest⟩

end Map

end Pager
end ThreatIntel
