import ThreatIntel.Proofs.Collection.Budgets

/-!
# Walks end

A call on a pager is a loop: a turn may ask for a page, and then the next turn looks into it. A call
on a walk is a loop of calls on its pager, which goes on as long as records cannot be read. And a
walk is drained by calls until one reports the end. Main statement: on a server that answers only so
many requests each of these loops ends, even if no record can be read; and draining sends one
request more than the server answers, at the most.
-/

namespace ThreatIntel

/-! ## Servers that answer only so many requests -/

namespace Server

/-- How many requests of a log, which follows an earlier one, the server has answered. -/
def answeredAfter (server : Server) : (earlier log : List Request) → Nat
  | _, [] => 0
  | earlier, request :: log =>
      (server.answer earlier request).isOk.toNat + server.answeredAfter (earlier ++ [request]) log

/-- How many requests of a log the server has answered. -/
def answered (server : Server) (log : List Request) : Nat :=
  server.answeredAfter [] log

/-- The server answers so many requests at most, and fails at every later one. -/
def AnswersAtMost (server : Server) (limit : Nat) : Prop :=
  ∀ (log : List Request) (request : Request), limit ≤ server.answered log →
    ∃ error, server.answer log request = .error error

variable
  {server : Server}
  {limit : Nat}

theorem answeredAfter_concat
    (server : Server)
    (earlier log : List Request)
    (request : Request) :
    server.answeredAfter earlier (log ++ [request]) =
      server.answeredAfter earlier log +
        (server.answer (earlier ++ log) request).isOk.toNat := by
  induction log generalizing earlier with
  | nil => simp [answeredAfter]
  | cons first log inductionHypothesis =>
      simp [answeredAfter, inductionHypothesis, Nat.add_assoc]

theorem answered_concat_of_ok
    {log : List Request}
    {request : Request}
    {response : Response}
    (answers : server.answer log request = .ok response) :
    server.answered (log ++ [request]) = server.answered log + 1 := by
  rw [answered, answeredAfter_concat, List.nil_append, answers]
  rfl

theorem answeredAfter_le_length (server : Server) (earlier log : List Request) :
    server.answeredAfter earlier log ≤ log.length := by
  induction log generalizing earlier with
  | nil => exact Nat.le_refl 0
  | cons request log inductionHypothesis =>
      have rest := inductionHypothesis (earlier ++ [request])
      have one := Bool.toNat_le (server.answer earlier request).isOk
      rw [answeredAfter, List.length_cons]
      omega

/-- A server that fails from some request on answers no more than the requests before it. -/
theorem FailsFrom.answersAtMost (fails : server.FailsFrom limit) : server.AnswersAtMost limit :=
  fun log request many =>
    fails log request (Nat.le_trans many (server.answeredAfter_le_length [] log))

theorem AnswersAtMost.failsWithin
    (answers : server.AnswersAtMost limit)
    {remaining : Nat}
    {log : List Request}
    (bounded : limit ≤ server.answered log + remaining) :
    server.FailsWithin remaining log := by
  induction remaining generalizing log with
  | zero => exact fun request => answers log request bounded
  | succ remaining inductionHypothesis =>
      intro request
      cases answer : server.answer log request with
      | error error => exact .inl ⟨error, rfl⟩
      | ok response =>
          refine .inr (inductionHypothesis ?_)
          rw [answered_concat_of_ok answer]
          omega

end Server

namespace Pager

/-! ## The loops -/

/-- A call on a pager, turn by turn: a turn hands out the first record of the buffer, or reports the
end, or asks for a page; when the page has come in, the loop turns again. -/
inductive Turns (server : Server) :
    Pager → List Request → Nat → Option (Except Error Json) → Pager → List Request → Prop
  | handed
      {pager : Pager}
      {log : List Request}
      {record : Json}
      {buffer : List Json}
      (held : pager.buffer = record :: buffer) :
      Turns server pager log 1 (some (.ok record)) { pager with buffer := buffer } log
  | ended
      {pager : Pager}
      {log : List Request}
      (empty : pager.buffer = [])
      (isOver : pager.phase.isOver = true) :
      Turns server pager log 1 none pager log
  | failed
      {pager failed : Pager}
      {log later : List Request}
      {error : Error}
      (empty : pager.buffer = [])
      (running : pager.phase.isOver = false)
      (fetched : (pager.fetch server).run log = ((.error error, failed), later)) :
      Turns server pager log 1 (some (.error error)) failed later
  | again
      {pager page last : Pager}
      {log later final : List Request}
      {turns : Nat}
      {answer : Option (Except Error Json)}
      (empty : pager.buffer = [])
      (running : pager.phase.isOver = false)
      (fetched : (pager.fetch server).run log = ((.ok (), page), later))
      (rest : Turns server page later turns answer last final) :
      Turns server pager log (turns + 1) answer last final

/-- A call on a walk, one call on the pager after the other: a record that cannot be read is passed
over, and anything else is answered. -/
inductive Returns (server : Server) (read : Json → Option α) :
    Pager → List Request → Option (Except Error α) → Pager → List Request → Prop
  | ended
      {pager last : Pager}
      {log final : List Request}
      {turns : Nat}
      (called : Turns server pager log turns none last final) :
      Returns server read pager log none last final
  | failed
      {pager last : Pager}
      {log final : List Request}
      {turns : Nat}
      {error : Error}
      (called : Turns server pager log turns (some (.error error)) last final) :
      Returns server read pager log (some (.error error)) last final
  | kept
      {pager last : Pager}
      {log final : List Request}
      {turns : Nat}
      {record : Json}
      {value : α}
      (called : Turns server pager log turns (some (.ok record)) last final)
      (reads : read record = some value) :
      Returns server read pager log (some (.ok value)) last final
  | skipped
      {pager next last : Pager}
      {log later final : List Request}
      {turns : Nat}
      {record : Json}
      {answer : Option (Except Error α)}
      (called : Turns server pager log turns (some (.ok record)) next later)
      (unreadable : read record = none)
      (rest : Returns server read next later answer last final) :
      Returns server read pager log answer last final

/-- A walk is drained: calls on it answer with items, and then one reports the end. -/
inductive Drains (server : Server) (read : Json → Option α) :
    Pager → List Request → List (Except Error α) → Pager → List Request → Prop
  | ended
      {pager last : Pager}
      {log final : List Request}
      (called : Returns server read pager log none last final) :
      Drains server read pager log [] last final
  | more
      {pager next last : Pager}
      {log later final : List Request}
      {item : Except Error α}
      {items : List (Except Error α)}
      (called : Returns server read pager log (some item) next later)
      (rest : Drains server read next later items last final) :
      Drains server read pager log (item :: items) last final

end Pager

/-- What a call on a walk that came to a step has answered. -/
def Step.answer : Step α → Option (Except Error α)
  | .item value => some (.ok value)
  | .failed error => some (.error error)
  | .ended | .unfinished => none

namespace Pager

section Loops

variable
  {server : Server}
  {read : Json → Option α}
  {pager last : Pager}
  {log final : List Request}

/-- The buffer or the end settles a call in one turn. -/
theorem turns_of_settled
    {answer : Option (Except Error Json)}
    (settled : pager.buffer ≠ [] ∨ pager.phase.isOver = true)
    (called : (pager.next server).run log = ((answer, last), final)) :
    Turns server pager log 1 answer last final := by
  cases held : pager.buffer with
  | cons record buffer =>
      rw [run_next_of_held held] at called
      cases called
      exact .handed held
  | nil =>
      have isOver : pager.phase.isOver = true := settled.resolve_left (not_not_intro held)
      rw [run_next_of_over held isOver] at called
      cases called
      exact .ended held isOver

/-- On any server a call on a pager returns after two turns at most: a page that has come in settles
it, by its first record or because there is none. -/
theorem exists_turns
    {answer : Option (Except Error Json)}
    (called : (pager.next server).run log = ((answer, last), final)) :
    ∃ turns, turns ≤ 2 ∧ Turns server pager log turns answer last final := by
  by_cases settled : pager.buffer ≠ [] ∨ pager.phase.isOver = true
  · exact ⟨1, by decide, turns_of_settled settled called⟩
  · obtain ⟨empty, running⟩ := running_of_not_settled settled
    obtain ⟨-, failed | page⟩ := next_cases_of_running empty running called
    · obtain ⟨error, rfl, run⟩ := failed
      exact ⟨1, by decide, .failed empty running run⟩
    · obtain ⟨fetched, run, settled, called⟩ := page
      exact ⟨2, by decide, .again empty running run (turns_of_settled settled called)⟩

/-- What passes over records is a call on the walk. -/
theorem Passes.returns
    {calls : Nat}
    {step : Step α}
    (passes : Passes server read pager log calls step last final) :
    Returns server read pager log step.answer last final := by
  induction passes with
  | @kept _ _ _ _ answer _ called passed =>
      obtain ⟨turns, -, loop⟩ := exists_turns called
      match answer with
      | none =>
          cases passed
          exact .ended loop
      | some (.error error) =>
          cases passed
          exact .failed loop
      | some (.ok record) =>
          obtain ⟨value, reads, rfl⟩ := Option.map_eq_some_iff.mp passed
          exact .kept loop reads
  | @skipped _ _ _ _ _ _ answer _ _ called passed _ inductionHypothesis =>
      obtain ⟨turns, -, loop⟩ := exists_turns called
      match answer with
      | none => cases passed
      | some (.error error) => cases passed
      | some (.ok record) =>
          exact .skipped loop (Option.map_eq_none_iff.mp passed) inductionHypothesis

/-- A walk that is closed by a step is drained: behind an error the next call reports the end. -/
theorem Closed.drains
    {values : List α}
    {step : Step α}
    (closed : Closed server read pager log values step last final) :
    Drains server read pager log (values.map .ok ++ step.results) last final := by
  obtain ⟨closes, calls, goes⟩ := closed
  induction values generalizing pager log calls with
  | nil =>
      cases goes with
      | go first rest =>
          cases rest
          obtain ⟨empty, isOver⟩ := first.exhausted_of_closes closes
          cases closes with
          | ended => exact .ended first.returns
          | failed error =>
              exact .more first.returns (.ended (passes_of_over empty isOver).returns)
  | cons value values inductionHypothesis =>
      cases goes with
      | go first rest => exact .more first.returns (inductionHypothesis _ rest)

end Loops

/-! ## All loops end -/

/-- From where a walk stands, the next call on it returns, and so does each call that drains it; no
budget beyond the limit changes what they come to. The requests are one more than the limit at most.
-/
structure Ends
    (server : Server)
    (read : Json → Option α)
    (limit : Nat)
    (pager : Pager)
    (log : List Request) : Prop where
  /-- The next call. -/
  returns : ∃ step last final, step ≠ .unfinished ∧
    Returns server read pager log step.answer last final ∧
    ∀ budget, limit < budget →
      (nextReadable server read budget pager).run log = ((step, last), final)
  /-- All calls up to the end. -/
  drains : ∃ items last final, Drains server read pager log items last final ∧
    final.length ≤ log.length + (limit + 1) ∧
    ∀ budget, limit < budget → (drain server read budget pager).run log = ((items, last), final)

/-- A walk that is closed within so many requests ends. -/
theorem Closed.ends
    {server : Server}
    {read : Json → Option α}
    {limit : Nat}
    {pager last : Pager}
    {log final : List Request}
    {values : List α}
    {step : Step α}
    (closed : Closed server read pager log values step last final)
    (within : final.length ≤ log.length + (limit + 1)) :
    Ends server read limit pager log := by
  refine ⟨?_, _, last, final, closed.drains, within, fun budget more =>
    closed.run_drain (by omega)⟩
  obtain ⟨-, calls, goes⟩ := closed
  obtain ⟨first, steps, shape⟩ : ∃ first steps, values.map Step.item ++ [step] = first :: steps :=
    List.exists_cons_of_ne_nil (by simp)
  rw [shape] at goes
  cases goes with
  | go first rest =>
      have shorter := rest.log_length_le
      exact ⟨_, _, _, first.finished, first.returns, fun budget more =>
        first.run_nextReadable_within (by omega)⟩

/-- On a server that answers only so many requests, a walk ends wherever it stands, whatever can be
read of its records. -/
theorem ends_of_answersAtMost
    {server : Server}
    {limit : Nat}
    (answers : server.AnswersAtMost limit)
    (read : Json → Option α)
    (pager : Pager)
    (log : List Request) :
    Ends server read limit pager log := by
  have within : server.FailsWithin limit log := answers.failsWithin (Nat.le_add_left _ _)
  obtain ⟨values, step, last, final, closed, bounded⟩ := exists_closed within read pager
  exact closed.ends bounded

/-- On a server that answers only so many requests every call returns, from wherever a pager stands:
a call on the pager itself, after two turns at most, a call on the walk that reads records of a
kind, and a call on the walk that reads entities. Draining any of the three ends, and sends no more
than one request beyond those that the server answers. A pager is drained by the walk that reads
every record as it is. -/
theorem walks_end
    {server : Server}
    {limit : Nat}
    (answers : server.AnswersAtMost limit)
    (pager : Pager)
    (log : List Request) :
    (∃ turns, turns ≤ 2 ∧ Turns server pager log turns ((pager.next server).run log).1.1
      ((pager.next server).run log).1.2 ((pager.next server).run log).2) ∧
    Ends server some limit pager log ∧
    ∀ resource : Resource,
      Ends server resource.codec.readJson? limit pager log ∧
      Ends server (readEntity resource) limit pager log ∧
      ∃ calls step last final, step ≠ .unfinished ∧
        Returns server (readEntity resource) pager log step.answer last final ∧
        ∀ fuel, calls ≤ fuel →
          (nextEntity server resource fuel pager).run log = ((step, last), final) := by
  refine ⟨exists_turns rfl, ends_of_answersAtMost answers _ pager log, fun resource => ?_⟩
  have within : server.FailsWithin limit log := answers.failsWithin (Nat.le_add_left _ _)
  obtain ⟨calls, step, last, final, passes⟩ := exists_passes within (readEntity resource) pager
  exact ⟨ends_of_answersAtMost answers _ pager log, ends_of_answersAtMost answers _ pager log,
    calls, step, last, final, passes.finished, passes.returns, passes.run_nextEntity⟩

/-- Two full pages without a record that can be read, and then no answer: the first call on the walk
asks three times and answers with the error, and draining hands out nothing else. -/
theorem walks_end_of_unreadable :
    let page : Except Error Response :=
      .ok ⟨200, .object [("data", .array [.null, .boolean true])]⟩
    let server := Server.ofAnswers [page, page]
    let pager := start "/v3/tags" "" { limit := 2 }
    let read := Resource.tag.codec.readJson?
    server.AnswersAtMost 2 ∧
      (∃ turns, turns ≤ 2 ∧
        Turns server pager [] turns (some (.ok .null))
          { pager.awaiting.received [.null, .boolean true] with buffer := [.boolean true] }
          [pager.request]) ∧
      (∃ last final, Returns server read pager [] (some (.error Server.exhausted)) last final ∧
        final.length = 3) ∧
      ∃ last final, Drains server read pager [] [.error Server.exhausted] last final ∧
        final.length = 3 := by
  intro page server pager read
  have answers : server.AnswersAtMost 2 := (Server.ofAnswers_failsFrom _).answersAtMost
  obtain ⟨turns, -, walks⟩ := walks_end answers pager []
  obtain ⟨⟨step, last, final, -, returns, steps⟩, items, lastDrained, finalDrained, drains, -,
    runs⟩ := (walks .tag).1
  have stepped : (nextReadable server read 3 pager).run [] = ((step, last), final) :=
    steps 3 (by decide)
  have drained : (drain server read 3 pager).run [] = ((items, lastDrained), finalDrained) :=
    runs 3 (by decide)
  cases stepped
  cases drained
  exact ⟨answers, turns, ⟨_, _, returns, rfl⟩, _, _, drains, rfl⟩

end Pager
end ThreatIntel
