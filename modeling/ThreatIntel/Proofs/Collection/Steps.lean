import ThreatIntel.Proofs.Collection.Keeping

/-!
# Walks on servers that keep a list

What a walk hands out on a server that keeps a list of records, when it is drained and when it goes
on step by step. What a pager has ahead of it grows only shorter, by what it hands out; and the
requests it has sent and those still pending make up the same number.
-/

namespace ThreatIntel
namespace Pager

/-- Ask for pages and hand out what can be read, a number of times. -/
def steps
    (server : Server)
    (read : Json → Option α)
    (budget : Nat) :
    (count : Nat) → Pager → Session (List (Step α) × Pager)
  | 0, pager => pure ([], pager)
  | count + 1, pager => do
      let (step, pager) ← nextReadable server read budget pager
      let (rest, pager) ← steps server read budget count pager
      pure (step :: rest, pager)

section Keeps

variable
  {server : Server}
  {records : List Json}

/-! ## Draining a walk -/

/-- A walk that is over is drained of its buffer. -/
theorem run_drain_of_over
    (server : Server)
    (records : List Json)
    (read : Json → Option α)
    (budget : Nat)
    {pager : Pager}
    (isOver : pager.phase.isOver = true)
    (log : List Request) :
    (drain server read budget pager).run log =
      ((((ahead records pager).filterMap read).map .ok, pager.drained), log) := by
  rw [ahead_of_over isOver]
  unfold drain
  simp only [isOver, if_true]
  rfl

/-- A walk that goes on is drained of its buffer, and then of what follows the next page. -/
theorem run_drain_of_fetched
    (read : Json → Option α)
    (budget : Nat)
    {pager next : Pager}
    {log later : List Request}
    (running : pager.phase.isOver = false)
    (fetched : (pager.drained.fetch server).run log = ((.ok (), next), later)) :
    (drain server read (budget + 1) pager).run log =
      let rest := (drain server read budget next).run later
      (((pager.buffer.filterMap read).map .ok ++ rest.1.1, rest.1.2), rest.2) := by
  simp only [drain, running, Bool.false_eq_true, if_false, StateT.run_bind, fetched]
  rfl

/-- Draining hands out all that is ahead and can be read, and sends the pending requests. -/
theorem run_drain
    (keeps : server.Keeps records)
    (small : records.length < UInt32.size)
    (read : Json → Option α)
    (budget : Nat)
    (pager : Pager)
    (bounded : pager.window.Bounded)
    (enough : pending records pager ≤ budget)
    (log : List Request) :
    ∃ after requests,
      (drain server read budget pager).run log =
          ((((ahead records pager).filterMap read).map .ok, after), log ++ requests) ∧
        requests.length = pending records pager ∧
        after.phase.isOver = true ∧ after.buffer = [] := by
  induction budget generalizing pager log with
  | zero =>
      have isOver := isOver_of_pending_eq_zero (Nat.le_zero.mp enough)
      refine ⟨pager.drained, [], ?_, (pending_of_over isOver).symm, isOver, rfl⟩
      rw [run_drain_of_over server records read 0 isOver, List.append_nil]
  | succ budget inductionHypothesis =>
      cases isOver : pager.phase.isOver with
      | true =>
          refine ⟨pager.drained, [], ?_, (pending_of_over isOver).symm, isOver, rfl⟩
          rw [run_drain_of_over server records read (budget + 1) isOver, List.append_nil]
      | false =>
          have fewer := pending_turned small pager bounded isOver
          have fetched := run_fetch_of_keeps keeps pager bounded log
          obtain ⟨after, requests, run, count, ends, empty⟩ :=
            inductionHypothesis (turned records pager) bounded (by omega) (log ++ [pager.request])
          refine ⟨after, pager.request :: requests, ?_, by simp [count, fewer], ends, empty⟩
          rw [run_drain_of_fetched read budget isOver fetched, run,
            ahead_turned small pager bounded, ahead_of_running isOver]
          simp

/-! ## Walking step by step -/

theorem filterMap_of_skim_eq_some
    {read : Json → Option α}
    {held : List Json}
    {value : α}
    {rest : List Json}
    (found : skim read held = some (value, rest)) :
    held.filterMap read = value :: rest.filterMap read := by
  induction held with
  | nil => cases found
  | cons record held inductionHypothesis =>
      cases reads : read record with
      | some first =>
          simp only [skim, reads, Option.some.injEq, Prod.mk.injEq] at found
          obtain ⟨rfl, rfl⟩ := found
          simp [reads]
      | none =>
          simp only [skim, reads] at found
          simp [reads, inductionHypothesis found]

theorem filterMap_of_skim_eq_none
    {read : Json → Option α}
    {held : List Json}
    (nothing : skim read held = none) :
    held.filterMap read = [] := by
  induction held with
  | nil => rfl
  | cons record held inductionHypothesis =>
      cases reads : read record with
      | some first => simp [skim, reads] at nothing
      | none =>
          simp only [skim, reads] at nothing
          simp [reads, inductionHypothesis nothing]

theorem run_nextReadable_of_found
    {read : Json → Option α}
    (budget : Nat)
    {pager : Pager}
    {value : α}
    {rest : List Json}
    (found : skim read pager.buffer = some (value, rest))
    (log : List Request) :
    (nextReadable server read budget pager).run log =
      ((.item value, { pager with buffer := rest }), log) := by
  unfold nextReadable
  simp only [found]
  rfl

theorem run_nextReadable_of_over
    {read : Json → Option α}
    (budget : Nat)
    {pager : Pager}
    (nothing : skim read pager.buffer = none)
    (isOver : pager.phase.isOver = true)
    (log : List Request) :
    (nextReadable server read budget pager).run log = ((.ended, pager.drained), log) := by
  unfold nextReadable
  simp only [nothing, isOver, if_true]
  rfl

theorem run_nextReadable_of_fetched
    {read : Json → Option α}
    (budget : Nat)
    {pager next : Pager}
    {log later : List Request}
    (nothing : skim read pager.buffer = none)
    (running : pager.phase.isOver = false)
    (fetched : (pager.drained.fetch server).run log = ((.ok (), next), later)) :
    (nextReadable server read (budget + 1) pager).run log =
      (nextReadable server read budget next).run later := by
  simp only [nextReadable, nothing, running, Bool.false_eq_true, if_false, StateT.run_bind,
    fetched]
  rfl

/-- What a step answers when the given records can be read from here on. -/
def answer : List α → Step α
  | [] => .ended
  | value :: _ => .item value

/-- What a number of steps answer when the given records can be read from here on: the records one
by one, and then the end, over and over. -/
def answers (count : Nat) (readable : List α) : List (Step α) :=
  (readable.map Step.item ++ List.replicate count Step.ended).take count

theorem answers_succ (count : Nat) (readable : List α) :
    answers (count + 1) readable = answer readable :: answers count readable.tail := by
  cases readable with
  | nil => simp [answers, answer, List.replicate_succ]
  | cons value rest =>
      have ends : min (count - rest.length) (count + 1) = min (count - rest.length) count := by
        omega
      simp [answers, answer, List.take_append, List.take_replicate, ends]

/-- What one step leaves behind: the records ahead that can be read, but for the first; and no
pending request when there is none of them. -/
structure Stepped (records : List Json) (read : Json → Option α) (pager after : Pager) : Prop where
  window : after.window = pager.window
  ahead : (after.ahead records).filterMap read = ((pager.ahead records).filterMap read).tail
  ended : (pager.ahead records).filterMap read = [] → after.pending records = 0

/-- A step sends no request when the buffer holds a record that can be read, or when the walk is
over. -/
theorem run_nextReadable_of_settled
    (server : Server)
    (records : List Json)
    (read : Json → Option α)
    (budget : Nat)
    (pager : Pager)
    (settled : (skim read pager.buffer).isSome ∨ pager.phase.isOver = true)
    (log : List Request) :
    ∃ after,
      (nextReadable server read budget pager).run log =
          ((answer ((ahead records pager).filterMap read), after), log) ∧
        pending records after = pending records pager ∧
        Stepped records read pager after := by
  cases skimmed : skim read pager.buffer with
  | some found =>
      have head := filterMap_of_skim_eq_some skimmed
      refine ⟨{ pager with buffer := found.2 }, ?_, rfl, rfl, ?_, ?_⟩
      · simp [run_nextReadable_of_found budget skimmed, ahead, head, answer]
      · simp [ahead, head]
      · simp [ahead, head]
  | none =>
      have isOver : pager.phase.isOver = true := by
        rw [skimmed] at settled
        exact settled.resolve_left (by simp)
      have nothing := filterMap_of_skim_eq_none skimmed
      refine ⟨pager.drained, ?_, rfl, rfl, ?_, ?_⟩
      · simp [run_nextReadable_of_over budget skimmed isOver, ahead_of_over isOver, nothing, answer]
      · simp [nothing, ahead, drained, isOver]
      · simp [pending, isOver, drained]

/-- One step hands out the first record ahead that can be read. -/
theorem run_nextReadable
    (keeps : server.Keeps records)
    (small : records.length < UInt32.size)
    (read : Json → Option α)
    (budget : Nat)
    (pager : Pager)
    (bounded : pager.window.Bounded)
    (enough : pending records pager ≤ budget)
    (log : List Request) :
    ∃ after requests,
      (nextReadable server read budget pager).run log =
          ((answer ((ahead records pager).filterMap read), after), log ++ requests) ∧
        requests.length + pending records after = pending records pager ∧
        Stepped records read pager after := by
  induction budget generalizing pager log with
  | zero =>
      have isOver := isOver_of_pending_eq_zero (Nat.le_zero.mp enough)
      obtain ⟨after, run, same, stepped⟩ :=
        run_nextReadable_of_settled server records read 0 pager (.inr isOver) log
      exact ⟨after, [], by simpa using run, by simpa using same, stepped⟩
  | succ budget inductionHypothesis =>
      by_cases settled : (skim read pager.buffer).isSome ∨ pager.phase.isOver = true
      · obtain ⟨after, run, same, stepped⟩ :=
          run_nextReadable_of_settled server records read (budget + 1) pager settled log
        exact ⟨after, [], by simpa using run, by simpa using same, stepped⟩
      · have nothing : skim read pager.buffer = none :=
          Option.not_isSome_iff_eq_none.mp (mt .inl settled)
        have running : pager.phase.isOver = false := Bool.not_eq_true _ ▸ mt .inr settled
        have fewer := pending_turned small pager bounded running
        have fetched := run_fetch_of_keeps keeps pager bounded log
        obtain ⟨after, requests, run, count, stepped⟩ :=
          inductionHypothesis (turned records pager) bounded (by omega) (log ++ [pager.request])
        -- The buffer holds nothing that can be read, so what is ahead reads as the server's part.
        have readable : (ahead records (turned records pager)).filterMap read =
            (ahead records pager).filterMap read := by
          rw [ahead_turned small pager bounded, ahead_of_running running]
          simp [filterMap_of_skim_eq_none nothing]
        refine ⟨after, pager.request :: requests, ?_, ?_, ?_, ?_, ?_⟩
        · rw [run_nextReadable_of_fetched budget nothing running fetched, run, readable]
          simp
        · rw [List.length_cons]
          omega
        · exact stepped.window
        · rw [stepped.ahead, readable]
        · rw [← readable]
          exact stepped.ended

/-- The first of several steps comes first. -/
theorem run_steps_succ
    {read : Json → Option α}
    {budget : Nat}
    (count : Nat)
    {pager next : Pager}
    {step : Step α}
    {log later : List Request}
    (stepped : (nextReadable server read budget pager).run log = ((step, next), later)) :
    (steps server read budget (count + 1) pager).run log =
      let rest := (steps server read budget count next).run later
      ((step :: rest.1.1, rest.1.2), rest.2) := by
  simp only [steps, StateT.run_bind, stepped]
  rfl

/-- Going on answers with the records ahead that can be read, one by one, and then with the end. -/
theorem run_steps
    (keeps : server.Keeps records)
    (small : records.length < UInt32.size)
    (read : Json → Option α)
    (budget count : Nat)
    (pager : Pager)
    (bounded : pager.window.Bounded)
    (enough : pending records pager ≤ budget)
    (log : List Request) :
    ∃ after requests,
      (steps server read budget count pager).run log =
          ((answers count ((ahead records pager).filterMap read), after), log ++ requests) ∧
        requests.length + pending records after = pending records pager ∧
        (((ahead records pager).filterMap read).length < count → pending records after = 0) := by
  induction count generalizing pager log with
  | zero => exact ⟨pager, [], by simp [steps, answers]; rfl, by simp, by simp⟩
  | succ count inductionHypothesis =>
      obtain ⟨next, first, step, fewer, stepped⟩ :=
        run_nextReadable keeps small read budget pager bounded enough log
      obtain ⟨after, requests, run, total, done⟩ :=
        inductionHypothesis next (stepped.window ▸ bounded) (by omega) (log ++ first)
      refine ⟨after, first ++ requests, ?_, ?_, ?_⟩
      · rw [run_steps_succ count step, run, answers_succ, stepped.ahead, List.append_assoc]
      · rw [List.length_append]
        omega
      · intro short
        cases readable : (ahead records pager).filterMap read with
        | nil =>
            have none := stepped.ended readable
            omega
        | cons value rest =>
            apply done
            rw [stepped.ahead, readable]
            rw [readable] at short
            simpa using short

end Keeps

end Pager
end ThreatIntel
