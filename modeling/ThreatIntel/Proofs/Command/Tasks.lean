import ThreatIntel.Command.Task

/-!
# Running tasks

How a task that is put together from others runs: the first part runs on the progress so far, and
the second one on what the first leaves, unless it failed. Printing and sending never fail by
themselves.
-/

namespace ThreatIntel
namespace Command
namespace Task

/-- Run a task on the progress so far. -/
def outcome (task : Task α) (progress : Progress) : Except Error α × Progress :=
  task.run.run progress

/-- A task made of two runs the second on the progress of the first, unless the first failed. -/
theorem outcome_bind
    (task : Task α)
    (next : α → Task β)
    (progress : Progress) :
    (task >>= next).outcome progress =
      match task.outcome progress with
      | (.ok value, progress) => (next value).outcome progress
      | (.error error, progress) => (.error error, progress) := by
  unfold outcome
  rw [ExceptT.run_bind, StateT.run_bind]
  obtain ⟨result, progress⟩ := task.run.run progress
  cases result <;> rfl

/-- A result that is there already changes nothing. -/
@[simp] theorem outcome_lift
    (result : Except Error α)
    (progress : Progress) :
    (liftM result : Task α).outcome progress = (result, progress) := by
  cases result <;> rfl

/-- Calls leave what is printed. -/
@[simp] theorem outcome_call
    (call : Call α)
    (progress : Progress) :
    (Task.call call).outcome progress =
      ((call.outcome.run progress.requests).1,
        { progress with requests := (call.outcome.run progress.requests).2 }) := rfl

@[simp] theorem outcome_pure (value : α) (progress : Progress) :
    (pure value : Task α).outcome progress = (.ok value, progress) := rfl

/-- A line that is printed for each item stands in the place of the item. -/
theorem outcome_forM_of_prints
    {task : α → Task Unit}
    (line : α → Line)
    (prints : ∀ item, task item = Task.print (line item))
    (items : List α)
    (progress : Progress) :
    (items.forM task).outcome progress =
      (.ok (), { progress with lines := progress.lines ++ items.map line }) := by
  induction items generalizing progress with
  | nil => simp
  | cons item items inductionHypothesis =>
      have first : (task item).outcome progress =
          (.ok (), { progress with lines := progress.lines ++ [line item] }) := by
        rw [prints]
        rfl
      change (task item >>= fun _ => items.forM task).outcome progress = _
      simp only [outcome_bind, first, inductionHypothesis, List.map_cons, List.append_assoc,
        List.singleton_append]

/-- Rows are printed as one result. -/
theorem exists_outcome_rows
    (format : OutputFormat)
    (table : Table)
    (records : List Json)
    (progress : Progress) :
    ∃ text, (Task.rows format table records).outcome progress =
      (.ok (), { progress with lines := progress.lines ++ [.result text] }) := by
  cases format <;> exact ⟨_, rfl⟩

end Task
end Command
end ThreatIntel
