import ThreatIntel.Proofs.Collection.Agreement

/-!
# Walks within a budget

A step of a walk, and the draining of a walk, need a budget of just as many requests as they send.
With it they do what the calls on the pager do, one call after the other: they keep what is not
passed over, and go on behind it with the requests that are left.
-/

namespace ThreatIntel

/-- What a step of a walk adds to the results. -/
def Step.results : Step α → List (Except Error α)
  | .item value => [.ok value]
  | .failed error => [.error error]
  | .ended | .unfinished => []

/-- A step that closes a walk: the end, or an error. -/
inductive Step.Closes : Step α → Prop
  | ended : Closes .ended
  | failed (error : Error) : Closes (.failed error)

namespace Pager

/-- What an answer of a pager adds to the results: a record that cannot be read adds nothing. -/
def resultsOf (read : Json → Option α) : Option (Except Error Json) → List (Except Error α)
  | some (.ok record) => (read record).toList.map .ok
  | some (.error error) => [.error error]
  | none => []

/-- Results in front of the results of a run. -/
def prepend
    (results : List β)
    (run : (List β × Pager) × List Request) : (List β × Pager) × List Request :=
  ((results ++ run.1.1, run.1.2), run.2)

section Call

variable
  {server : Server}
  {read : Json → Option α}
  {pager after : Pager}
  {log later : List Request}
  {answer : Option (Except Error Json)}

/-- A call sends no request when the buffer holds a record, or when the walk is over. -/
theorem log_of_settled
    (settled : pager.buffer ≠ [] ∨ pager.phase.isOver = true)
    (called : (pager.next server).run log = ((answer, after), later)) :
    later = log := by
  cases held : pager.buffer with
  | cons record buffer =>
      rw [run_next_of_held held] at called
      cases called
      rfl
  | nil =>
      rw [run_next_of_over held (settled.resolve_left (not_not_intro held))] at called
      cases called
      rfl

/-- Nothing is left, and nothing is asked any more, behind an answer that is no record. -/
theorem exhausted_of_called
    (closes : ∀ record, answer ≠ some (.ok record))
    (called : (pager.next server).run log = ((answer, after), later)) :
    after.buffer = [] ∧ after.phase.isOver = true := by
  have way := next_cases server pager log
  rw [called] at way
  cases way with
  | handed _ => exact absurd rfl (closes _)
  | ended empty isOver => exact ⟨empty, isOver⟩
  | failed empty _ _ => exact ⟨empty, rfl⟩
  | @received records _ _ _ =>
      cases records with
      | nil => exact ⟨rfl, rfl⟩
      | cons record records => exact absurd rfl (closes record)

/-- What a page leaves is settled by its records, or by the end. -/
theorem settled_of_fetched
    {fetched : Pager}
    (empty : pager.buffer = [])
    (run : (pager.fetch server).run log = ((.ok (), fetched), later)) :
    fetched.buffer ≠ [] ∨ fetched.phase.isOver = true := by
  by_cases nothing : fetched.buffer = []
  · exact .inr (phase_of_fetched empty run nothing)
  · exact .inl nothing

/-- A pager that is not settled has nothing left and still runs. -/
theorem running_of_not_settled (unsettled : ¬(pager.buffer ≠ [] ∨ pager.phase.isOver = true)) :
    pager.buffer = [] ∧ pager.phase.isOver = false := by
  simpa [not_or] using unsettled

/-- A call that has to fetch a page answers with the failure of the page, or as it does on the pager
that holds the page. -/
theorem next_cases_of_running
    (empty : pager.buffer = [])
    (running : pager.phase.isOver = false)
    (called : (pager.next server).run log = ((answer, after), later)) :
    later = log ++ [pager.request] ∧
    ((∃ error, answer = some (.error error) ∧
      (pager.fetch server).run log = ((.error error, after), later)) ∨
    ∃ fetched, (pager.fetch server).run log = ((.ok (), fetched), later) ∧
      (fetched.buffer ≠ [] ∨ fetched.phase.isOver = true) ∧
      (fetched.next server).run later = ((answer, after), later)) := by
  obtain ⟨error, failed, run⟩ | ⟨fetched, run⟩ := fetch_cases server pager log
  · rw [run_next_of_failed empty running run] at called
    cases called
    exact ⟨rfl, .inl ⟨error, rfl, run⟩⟩
  · rw [run_next_of_fetched empty running run] at called
    have settled := settled_of_fetched empty run
    obtain rfl := log_of_settled settled called
    exact ⟨rfl, .inr ⟨fetched, run, settled, called⟩⟩

/-! ## Steps -/

/-- With a budget for its own request, one step of a walk does what one call does: it answers with
what is not passed over, and goes on with the requests that are left otherwise. -/
theorem run_nextReadable_within
    (read : Json → Option α)
    (called : (pager.next server).run log = ((answer, after), later))
    {budget : Nat}
    (enough : later.length ≤ log.length + budget) :
    match pass read answer with
    | some step => (nextReadable server read budget pager).run log = ((step, after), later)
    | none => ∃ left, log.length + budget = later.length + left ∧
        (nextReadable server read budget pager).run log =
          (nextReadable server read left after).run later := by
  by_cases settled : pager.buffer ≠ [] ∨ pager.phase.isOver = true
  · have same := log_of_settled settled called
    cases passed : pass read answer with
    | some step => exact run_nextReadable_of_kept budget settled called passed
    | none =>
        exact ⟨budget, by rw [same], run_nextReadable_of_skipped budget settled called passed⟩
  · obtain ⟨empty, running⟩ := running_of_not_settled settled
    obtain ⟨sent, failed | page⟩ := next_cases_of_running empty running called
    all_goals obtain ⟨budget, rfl⟩ : ∃ less, budget = less + 1 :=
      ⟨budget - 1, by rw [sent, List.length_append, List.length_singleton] at enough; omega⟩
    · obtain ⟨error, rfl, run⟩ := failed
      exact run_nextReadable_of_failed budget empty running run
    · obtain ⟨fetched, run, settled, called⟩ := page
      rw [run_nextReadable_of_page budget empty running run]
      cases passed : pass read answer with
      | some step => exact run_nextReadable_of_kept budget settled called passed
      | none =>
          refine ⟨budget, ?_, run_nextReadable_of_skipped budget settled called passed⟩
          rw [sent, List.length_append, List.length_singleton]
          omega

/-! ## Draining -/

theorem run_drain_of_held
    (budget : Nat)
    {record : Json}
    {buffer : List Json}
    (held : pager.buffer = record :: buffer) :
    (drain server read budget pager).run log =
      prepend ((read record).toList.map .ok)
        ((drain server read budget { pager with buffer := buffer }).run log) := by
  have values : (record :: buffer).filterMap read =
      (read record).toList ++ buffer.filterMap read := by
    cases reads : read record <;> simp [reads]
  have rest : ({ pager with buffer := buffer } : Pager).drained = pager.drained := rfl
  cases isOver : pager.phase.isOver with
  | true =>
      unfold drain
      simp only [held, rest, isOver, if_true, values, List.map_append]
      rfl
  | false =>
      cases budget with
      | zero =>
          unfold drain
          simp only [held, rest, isOver, Bool.false_eq_true, if_false, values, List.map_append]
          rfl
      | succ budget =>
          unfold drain
          simp only [held, rest, isOver, Bool.false_eq_true, if_false, values, List.map_append,
            StateT.run_bind]
          generalize (pager.drained.fetch server).run log = fetched
          obtain ⟨⟨result, after⟩, later⟩ := fetched
          cases result with
          | error error =>
              exact congrArg (fun values => ((values, after), later)) (List.append_assoc ..)
          | ok =>
              change (((_ ++ _) ++ _, _), _) = ((_ ++ (_ ++ _), _), _)
              rw [List.append_assoc]
              rfl

theorem run_drain_of_exhausted
    (budget : Nat)
    (empty : pager.buffer = [])
    (isOver : pager.phase.isOver = true) :
    (drain server read budget pager).run log = (([], pager), log) := by
  unfold drain
  simp only [empty, isOver, if_true, drained_of_empty empty]
  rfl

theorem run_drain_of_failed
    (budget : Nat)
    {error : Error}
    (empty : pager.buffer = [])
    (running : pager.phase.isOver = false)
    (fetched : (pager.fetch server).run log = ((.error error, after), later)) :
    (drain server read (budget + 1) pager).run log = (([.error error], after), later) := by
  rw [← drained_of_empty empty] at fetched
  simp only [drain, empty, running, Bool.false_eq_true, if_false, StateT.run_bind, fetched]
  rfl

theorem run_drain_of_page
    (budget : Nat)
    (empty : pager.buffer = [])
    (running : pager.phase.isOver = false)
    (run : (pager.fetch server).run log = ((.ok (), after), later)) :
    (drain server read (budget + 1) pager).run log =
      (drain server read budget after).run later := by
  rw [← drained_of_empty empty] at run
  rw [run_drain_of_fetched read budget running run, empty]
  rfl

/-- When the first call sends no request, draining adds what it answers, and goes on behind it. -/
theorem run_drain_of_settled
    (budget : Nat)
    (settled : pager.buffer ≠ [] ∨ pager.phase.isOver = true)
    (called : (pager.next server).run log = ((answer, after), later)) :
    (drain server read budget pager).run log =
      prepend (resultsOf read answer) ((drain server read budget after).run later) := by
  cases held : pager.buffer with
  | cons record buffer =>
      rw [run_next_of_held held] at called
      cases called
      exact run_drain_of_held budget held
  | nil =>
      have isOver : pager.phase.isOver = true := settled.resolve_left (not_not_intro held)
      rw [run_next_of_over held isOver] at called
      cases called
      rw [run_drain_of_exhausted budget held isOver]
      rfl

/-- With a budget for its own request, draining adds what one call answers, and goes on with the
requests that are left. -/
theorem run_drain_within
    (read : Json → Option α)
    (called : (pager.next server).run log = ((answer, after), later))
    {budget : Nat}
    (enough : later.length ≤ log.length + budget) :
    ∃ left, log.length + budget = later.length + left ∧
      (drain server read budget pager).run log =
        prepend (resultsOf read answer) ((drain server read left after).run later) := by
  by_cases settled : pager.buffer ≠ [] ∨ pager.phase.isOver = true
  · have same := log_of_settled settled called
    exact ⟨budget, by rw [same], run_drain_of_settled budget settled called⟩
  · obtain ⟨empty, running⟩ := running_of_not_settled settled
    obtain ⟨sent, failed | page⟩ := next_cases_of_running empty running called
    all_goals
      obtain ⟨budget, rfl⟩ : ∃ less, budget = less + 1 :=
        ⟨budget - 1, by rw [sent, List.length_append, List.length_singleton] at enough; omega⟩
      have length : log.length + (budget + 1) = later.length + budget := by
        rw [sent, List.length_append, List.length_singleton]
        omega
      refine ⟨budget, length, ?_⟩
    · obtain ⟨error, rfl, run⟩ := failed
      obtain ⟨nothing, isOver⟩ := exhausted_of_called (by rintro record ⟨⟩) called
      rw [run_drain_of_failed budget empty running run,
        run_drain_of_exhausted budget nothing isOver]
      rfl
    · obtain ⟨fetched, run, settled, called⟩ := page
      rw [run_drain_of_page budget empty running run]
      exact run_drain_of_settled budget settled called

end Call

/-! ## Rows of steps -/

section Runs

variable
  {server : Server}
  {read : Json → Option α}
  {pager last : Pager}
  {log final : List Request}
  {calls : Nat}

theorem length_le_of_called
    {after : Pager}
    {later : List Request}
    {answer : Option (Except Error Json)}
    (called : (pager.next server).run log = ((answer, after), later)) :
    log.length ≤ later.length := by
  by_cases settled : pager.buffer ≠ [] ∨ pager.phase.isOver = true
  · exact Nat.le_of_eq (congrArg List.length (log_of_settled settled called).symm)
  · obtain ⟨empty, running⟩ := running_of_not_settled settled
    rw [(next_cases_of_running empty running called).1, List.length_append]
    exact Nat.le_add_right _ _

theorem Passes.log_length_le
    {step : Step α}
    (passes : Passes server read pager log calls step last final) :
    log.length ≤ final.length := by
  induction passes with
  | kept called _ => exact length_le_of_called called
  | skipped called _ _ inductionHypothesis =>
      exact Nat.le_trans (length_le_of_called called) inductionHypothesis

theorem Goes.log_length_le
    {steps : List (Step α)}
    (goes : Goes server read pager log calls steps last final) :
    log.length ≤ final.length := by
  induction goes with
  | stay => exact Nat.le_refl _
  | go first _ inductionHypothesis => exact Nat.le_trans first.log_length_le inductionHypothesis

/-- A step of a walk passes over records with a budget for the requests that this takes. -/
theorem Passes.run_nextReadable_within
    {step : Step α}
    (passes : Passes server read pager log calls step last final)
    {budget : Nat}
    (enough : final.length ≤ log.length + budget) :
    (nextReadable server read budget pager).run log = ((step, last), final) := by
  induction passes generalizing budget with
  | kept called passed =>
      have answered := Pager.run_nextReadable_within read called enough
      simpa only [passed] using answered
  | skipped called passed rest inductionHypothesis =>
      have answered := Pager.run_nextReadable_within read called
        (Nat.le_trans rest.log_length_le enough)
      simp only [passed] at answered
      obtain ⟨left, same, goesOn⟩ := answered
      rw [goesOn]
      exact inductionHypothesis (same ▸ enough)

/-- An answer adds what becomes of it. -/
theorem resultsOf_eq
    (read : Json → Option α)
    (answer : Option (Except Error Json)) :
    resultsOf read answer = ((pass read answer).map Step.results).getD [] := by
  match answer with
  | none => rfl
  | some (.error error) => rfl
  | some (.ok record) => cases reads : read record <;> simp [resultsOf, pass, reads, Step.results]

/-- Draining passes over records alike, and goes on behind what is kept. -/
theorem Passes.run_drain_within
    {step : Step α}
    (passes : Passes server read pager log calls step last final)
    {budget : Nat}
    (enough : final.length ≤ log.length + budget) :
    ∃ left, log.length + budget = final.length + left ∧
      (drain server read budget pager).run log =
        prepend step.results ((drain server read left last).run final) := by
  induction passes generalizing budget with
  | kept called passed =>
      have answered := Pager.run_drain_within read called enough
      simpa only [resultsOf_eq, passed, Option.map_some, Option.getD_some] using answered
  | skipped called passed rest inductionHypothesis =>
      obtain ⟨left, same, goesOn⟩ := Pager.run_drain_within read called
        (Nat.le_trans rest.log_length_le enough)
      obtain ⟨less, less_eq, later⟩ := inductionHypothesis (same ▸ enough)
      refine ⟨less, same.trans less_eq, ?_⟩
      rw [goesOn, resultsOf_eq, passed, later]
      rfl

/-- Draining goes through a row of steps with a budget for all their requests. -/
theorem Goes.run_drain_within
    {steps : List (Step α)}
    (goes : Goes server read pager log calls steps last final)
    {budget : Nat}
    (enough : final.length ≤ log.length + budget) :
    ∃ left, log.length + budget = final.length + left ∧
      (drain server read budget pager).run log =
        prepend (steps.flatMap Step.results) ((drain server read left last).run final) := by
  induction goes generalizing budget with
  | stay => exact ⟨budget, rfl, rfl⟩
  | go first rest inductionHypothesis =>
      obtain ⟨left, same, goesOn⟩ :=
        first.run_drain_within (Nat.le_trans rest.log_length_le enough)
      obtain ⟨less, less_eq, later⟩ := inductionHypothesis (same ▸ enough)
      refine ⟨less, same.trans less_eq, ?_⟩
      rw [goesOn, later, List.flatMap_cons]
      simp only [prepend, List.append_assoc]

/-- Taking goes through a row of values with a budget for the requests of each. -/
theorem Goes.run_take_within
    {steps : List (Step α)}
    (goes : Goes server read pager log calls steps last final)
    {values : List α}
    (items : steps = values.map .item)
    {budget : Nat}
    (enough : final.length ≤ log.length + budget)
    (count : Nat) :
    (take server read budget (values.length + count) pager).run log =
      prepend (values.map .ok) ((take server read budget count last).run final) := by
  induction goes generalizing values with
  | stay =>
      obtain rfl : values = [] := List.map_eq_nil_iff.mp items.symm
      rw [List.length_nil, Nat.zero_add]
      rfl
  | @go _ _ _ log later final _ _ _ _ first rest inductionHypothesis =>
      obtain ⟨value, values, rfl, rfl, rfl⟩ := List.map_eq_cons_iff.mp items.symm
      have here := first.run_nextReadable_within (Nat.le_trans rest.log_length_le enough)
      have least := first.log_length_le
      have others := inductionHypothesis rfl (by omega)
      rw [List.length_cons, Nat.add_right_comm]
      simp only [take, StateT.run_bind, here]
      change prepend [.ok value] ((take server read budget (values.length + count) _).run _) = _
      rw [others]
      rfl

/-- Behind a step that closes a walk nothing is left, and nothing is asked any more. -/
theorem Passes.exhausted_of_closes
    {step : Step α}
    (passes : Passes server read pager log calls step last final)
    (closes : step.Closes) :
    last.buffer = [] ∧ last.phase.isOver = true := by
  induction passes with
  | @kept _ _ _ _ answer _ called passed =>
      refine exhausted_of_called ?_ called
      rintro record rfl
      obtain ⟨value, -, rfl⟩ := Option.map_eq_some_iff.mp passed
      cases closes
  | skipped _ _ _ inductionHypothesis => exact inductionHypothesis closes

/-- Draining ends with a step that closes the walk. -/
theorem Passes.run_drain_of_closes
    {step : Step α}
    (passes : Passes server read pager log calls step last final)
    (closes : step.Closes)
    (budget : Nat) :
    (drain server read budget last).run final = (([], last), final) := by
  obtain ⟨empty, isOver⟩ := passes.exhausted_of_closes closes
  exact run_drain_of_exhausted budget empty isOver

/-- Taking ends with a step that closes the walk. -/
theorem Passes.run_take_of_closes
    {step : Step α}
    (passes : Passes server read pager log calls step last final)
    (closes : step.Closes)
    {budget : Nat}
    (enough : final.length ≤ log.length + budget)
    {count : Nat}
    (wanted : 0 < count) :
    (take server read budget count pager).run log = ((step.results, last), final) := by
  obtain ⟨count, rfl⟩ := Nat.exists_eq_add_of_lt wanted
  simp only [Nat.zero_add, take, StateT.run_bind, passes.run_nextReadable_within enough]
  cases closes <;> rfl

/-! ## Walks that are closed -/

/-- A walk answers with values, and then with a step that closes it. -/
def Closed
    (server : Server)
    (read : Json → Option α)
    (pager : Pager)
    (log : List Request)
    (values : List α)
    (step : Step α)
    (last : Pager)
    (final : List Request) : Prop :=
  step.Closes ∧ ∃ calls, Goes server read pager log calls (values.map .item ++ [step]) last final

theorem Goes.exists_of_append
    {steps others : List (Step α)}
    (goes : Goes server read pager log calls (steps ++ others) last final) :
    ∃ between middle fewer more,
      Goes server read pager log fewer steps between middle ∧
        Goes server read between middle more others last final := by
  induction steps generalizing pager log calls with
  | nil => exact ⟨pager, log, 0, calls, .stay, goes⟩
  | cons step steps inductionHypothesis =>
      cases goes with
      | go first rest =>
          obtain ⟨between, middle, fewer, more, front, back⟩ := inductionHypothesis rest
          exact ⟨between, middle, _, more, .go first front, back⟩

/-- Before the first of some steps, a record that cannot be read is passed over. -/
theorem Goes.skip
    {after : Pager}
    {later : List Request}
    {answer : Option (Except Error Json)}
    (called : (pager.next server).run log = ((answer, after), later))
    (passed : pass read answer = none)
    {steps : List (Step α)}
    (some : steps ≠ [])
    (goes : Goes server read after later calls steps last final) :
    ∃ calls, Goes server read pager log calls steps last final := by
  cases goes with
  | stay => exact absurd rfl some
  | go first rest => exact ⟨_, .go (.skipped called passed first) rest⟩

theorem flatMap_results_items (values : List α) :
    (values.map Step.item).flatMap Step.results = values.map .ok := by
  induction values with
  | nil => rfl
  | cons value values inductionHypothesis =>
      rw [List.map_cons, List.flatMap_cons, inductionHypothesis]
      rfl

/-- Draining gives the values of a walk up to its end, and the error that it ends with. -/
theorem Closed.run_drain
    {values : List α}
    {step : Step α}
    (closed : Closed server read pager log values step last final)
    {budget : Nat}
    (enough : final.length ≤ log.length + budget) :
    (drain server read budget pager).run log =
      ((values.map .ok ++ step.results, last), final) := by
  obtain ⟨closes, calls, goes⟩ := closed
  obtain ⟨left, -, drained⟩ := goes.run_drain_within enough
  obtain ⟨between, middle, _, _, -, back⟩ := goes.exists_of_append
  cases back with
  | go first rest =>
      cases rest
      rw [drained, first.run_drain_of_closes closes, List.flatMap_append, flatMap_results_items]
      simp [prepend]

/-- So does taking more values than there are. -/
theorem Closed.run_take
    {values : List α}
    {step : Step α}
    (closed : Closed server read pager log values step last final)
    {budget : Nat}
    (enough : final.length ≤ log.length + budget)
    {count : Nat}
    (fewer : values.length < count) :
    (take server read budget count pager).run log =
      ((values.map .ok ++ step.results, last), final) := by
  obtain ⟨closes, calls, goes⟩ := closed
  obtain ⟨between, middle, _, _, front, back⟩ := goes.exists_of_append
  cases back with
  | go first rest =>
      cases rest
      have least := first.log_length_le
      have start := front.log_length_le
      obtain ⟨more, rfl⟩ := Nat.exists_eq_add_of_lt fewer
      rw [Nat.add_assoc, front.run_take_within rfl (by omega),
        first.run_take_of_closes closes (by omega) (Nat.succ_pos more)]
      rfl

/-- A record that is handed out stands in front of the values behind it, if it can be read. -/
theorem Closed.of_called
    {after : Pager}
    {later : List Request}
    {record : Json}
    (called : (pager.next server).run log = ((some (.ok record), after), later))
    {values : List α}
    {step : Step α}
    (closed : Closed server read after later values step last final) :
    Closed server read pager log ((read record).toList ++ values) step last final := by
  obtain ⟨closes, calls, goes⟩ := closed
  cases reads : read record with
  | some value =>
      have kept : pass read (some (.ok record)) = some (.item value) := by simp [pass, reads]
      exact ⟨closes, _, .go (.kept called kept) goes⟩
  | none =>
      have passed : pass read (some (.ok record)) = none := by simp [pass, reads]
      exact ⟨closes, goes.skip called passed (by simp)⟩

theorem Goes.of_run_eq
    {other : Pager}
    {otherLog : List Request}
    (same : (pager.next server).run log = (other.next server).run otherLog)
    {steps : List (Step α)}
    (some : steps ≠ [])
    (goes : Goes server read other otherLog calls steps last final) :
    Goes server read pager log calls steps last final := by
  cases goes with
  | stay => exact absurd rfl some
  | go first rest => exact .go (first.of_run_eq same) rest

/-- A walk is closed behind the records of its buffer, if it is closed where it has to fetch. -/
theorem exists_closed_of_running
    {bound : Nat}
    (within : log.length ≤ bound)
    (fromRunning : ∀ pager : Pager, pager.buffer = [] → pager.phase.isOver = false →
      ∃ values step last final, Closed server read pager log values step last final ∧
        final.length ≤ bound)
    (pager : Pager) :
    ∃ values step last final, Closed server read pager log values step last final ∧
      final.length ≤ bound := by
  generalize contents : pager.buffer = buffer
  induction buffer generalizing pager with
  | nil =>
      cases isOver : pager.phase.isOver with
      | true =>
          exact ⟨[], .ended, pager, log,
            ⟨.ended, _, .go (passes_of_over contents isOver) .stay⟩, within⟩
      | false => exact fromRunning pager contents isOver
  | cons record buffer inductionHypothesis =>
      obtain ⟨values, step, last, final, closed, bounded⟩ :=
        inductionHypothesis { pager with buffer := buffer } rfl
      exact ⟨_, step, last, final, closed.of_called (run_next_of_held contents), bounded⟩

end Runs

/-- On a server that fails in the end every walk is closed, by the first request behind which the
server fails at the latest. -/
theorem exists_closed
    {server : Server}
    {remaining : Nat}
    {log : List Request}
    (within : server.FailsWithin remaining log)
    (read : Json → Option α)
    (pager : Pager) :
    ∃ values step last final, Closed server read pager log values step last final ∧
      final.length ≤ log.length + remaining + 1 := by
  -- On the pages that can still come in: a page that is fetched leaves one less.
  induction remaining generalizing pager log with
  | zero =>
      refine exists_closed_of_running (Nat.le_succ _) ?_ pager
      intro pager empty running
      obtain ⟨error, failed, fetches⟩ | ⟨fewer, -, none, -⟩ := fetch_cases_within within pager
      · have called := run_next_of_failed empty running fetches
        exact ⟨[], .failed error, failed, _,
          ⟨.failed error, _, .go (.kept called rfl) .stay⟩, by simp⟩
      · cases none
  | succ remaining inductionHypothesis =>
      refine exists_closed_of_running (by omega) ?_ pager
      intro pager empty running
      have length : (log ++ [pager.request]).length = log.length + 1 := by simp
      obtain ⟨error, failed, fetches⟩ | ⟨fewer, fetched, one, later, fetches⟩ :=
        fetch_cases_within within pager
      · have called := run_next_of_failed empty running fetches
        exact ⟨[], .failed error, failed, _,
          ⟨.failed error, _, .go (.kept called rfl) .stay⟩, by omega⟩
      · cases one
        obtain ⟨values, step, last, final, closed, bounded⟩ := inductionHypothesis later fetched
        obtain ⟨closes, calls, goes⟩ := closed
        have same := run_next_of_fetched empty running fetches
        exact ⟨values, step, last, final, ⟨closes, calls, goes.of_run_eq same (by simp)⟩, by omega⟩

end Pager
end ThreatIntel
