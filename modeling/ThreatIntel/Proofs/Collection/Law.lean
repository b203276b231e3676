import ThreatIntel.Proofs.Collection.History

/-!
# The law of a pager

Main statement: after any number of calls on a pager, whatever the server answered, the records
handed out are those of the pages in order, an error is handed out once and behind all records
before it, the end is final, and every request is counted and asks for the same collection.
-/

namespace ThreatIntel
namespace Pager

/-- From a number of calls on nothing more is answered, and no request is sent. -/
def SilentFrom (run : Nat → History) (count : Nat) : Prop :=
  ∀ more,
    (run (count + more)).answers = (run count).answers ++ List.replicate more none ∧
      (run (count + more)).log = (run count).log

/-- The law of a run of calls, after some number of them. -/
structure Lawful
    (server : Server)
    (endpoint query : String)
    (window : Window)
    (run : Nat → History)
    (count : Nat) : Prop where
  /-- What is handed out begins the records of the pages that came in, followed by the error of the
  page that failed, if one did; and once one did, all of these have been handed out. -/
  items : ∃ (received : List (List Json)) (failure : Option Error),
    server.pages endpoint (run count).log = received.map .ok ++ failure.toList.map .error ∧
      (run count).items <+: received.flatten.map .ok ++ failure.toList.map .error ∧
      (failure.isSome → (run count).items = received.flatten.map .ok ++ failure.toList.map .error)
  /-- An error is the end. -/
  afterError : (∃ error, some (.error error) ∈ (run count).answers) → SilentFrom run count
  /-- A short page is the end when all records have been handed out. -/
  afterShort : ∀ last,
    (server.pages endpoint (run count).log).getLast? = some (.ok last) →
      window.Short last →
      (run count).items = itemsOf (server.pages endpoint (run count).log) →
      SilentFrom run count
  /-- A call sends at most one request. -/
  oneRequest : (run (count + 1)).log = (run count).log ∨
    ∃ request, (run (count + 1)).log = (run count).log ++ [request]
  /-- The requests are counted. -/
  fetches : (run count).pager.fetches = (run count).log.length
  /-- Every request asks for a page of the same collection. -/
  asks : ∀ request ∈ (run count).log, Asks endpoint query window request
  /-- Between calls no page is on its way. -/
  settled : (run count).pager.phase ≠ .fetching
  /-- The pager is new as long as nothing has been sent. -/
  created : (run count).pager.phase = .created ↔ (run count).log = []
  /-- The pager knows of the error. -/
  errored : (run count).pager.phase = .errored ↔ ∃ error, some (.error error) ∈ (run count).answers
  /-- The pager knows of the short page. -/
  exhausted : (run count).pager.phase = .exhausted ↔
    ∃ last, (server.pages endpoint (run count).log).getLast? = some (.ok last) ∧ window.Short last

theorem History.error_mem_items (history : History) (error : Error) :
    .error error ∈ history.items ↔ some (.error error) ∈ history.answers := by
  simp [items]

/-- A pager that is at its end stays there. -/
theorem run_next_of_over
    {server : Server}
    {pager : Pager}
    (empty : pager.buffer = [])
    (isOver : pager.phase.isOver = true)
    (log : List Request) :
    (pager.next server).run log = ((none, pager), log) := by
  have popped : pager.pop = (none, pager) := by simp only [pop, empty]
  simp only [next, popped, isOver, if_true]
  rfl

theorem silentFrom_of_over
    {server : Server}
    {pager : Pager}
    {count : Nat}
    (empty : (history server pager count).pager.buffer = [])
    (isOver : (history server pager count).pager.phase.isOver = true) :
    SilentFrom (history server pager) count := by
  have stays : ∀ more, history server pager (count + more) =
      ⟨(history server pager count).answers ++ List.replicate more none,
        (history server pager count).pager, (history server pager count).log⟩ := by
    intro more
    induction more with
    | zero => simp
    | succ more inductionHypothesis =>
        rw [← Nat.add_assoc, history, inductionHypothesis]
        simp only [run_next_of_over empty isOver, List.append_assoc]
        rw [← List.replicate_succ']
  intro more
  rw [stays more]
  exact ⟨rfl, rfl⟩

/-- Whichever way a call goes, it sends at most one request. -/
theorem Next.log_eq_or
    {server : Server}
    {pager after : Pager}
    {log later : List Request}
    {answer : Option (Except Error Json)}
    (way : Next server pager log answer after later) :
    later = log ∨ ∃ request, later = log ++ [request] := by
  cases way with
  | handed _ => exact .inl rfl
  | ended _ _ => exact .inl rfl
  | failed _ _ _ => exact .inr ⟨_, rfl⟩
  | received _ _ _ => exact .inr ⟨_, rfl⟩

/-! ## What the phase tells -/

section Stands

variable
  {window : Window}
  {phase : Phase}
  {buffer : List Json}
  {pages : List (Except Error (List Json))}

theorem Stands.ne_fetching (stands : Stands window phase buffer pages) : phase ≠ .fetching := by
  cases stands <;> simp

theorem Stands.created_iff (stands : Stands window phase buffer pages) :
    phase = .created ↔ pages = [] := by
  cases stands <;> simp

theorem Stands.errored_iff (stands : Stands window phase buffer pages) :
    phase = .errored ↔ ∃ error, .error error ∈ itemsOf pages := by
  cases stands <;> simp

theorem Stands.exhausted_iff (stands : Stands window phase buffer pages) :
    phase = .exhausted ↔ ∃ last, pages.getLast? = some (.ok last) ∧ window.Short last := by
  cases stands with
  | created => simp
  | hasPage full => simpa using full
  | exhausted short => simpa using short
  | errored => simp

theorem Stands.buffer_eq_nil
    (stands : Stands window phase buffer pages)
    (errored : phase = .errored) :
    buffer = [] := by
  cases stands <;> simp_all

/-- All pages but the last have come in; if the last one failed, nothing is left in the buffer. -/
theorem Stands.exists_pages (stands : Stands window phase buffer pages) :
    ∃ (received : List (List Json)) (failure : Option Error),
      pages = received.map .ok ++ failure.toList.map .error ∧
        (failure.isSome → buffer = []) := by
  cases stands with
  | created => exact ⟨[], none, rfl, nofun⟩
  | hasPage _ => exact ⟨_, none, (List.append_nil _).symm, nofun⟩
  | exhausted _ => exact ⟨_, none, (List.append_nil _).symm, nofun⟩
  | errored => exact ⟨_, some _, rfl, fun _ => rfl⟩

end Stands

/-- An error of the pages has been handed out. -/
theorem Consistent.error_mem_itemsOf
    {server : Server}
    {endpoint query : String}
    {window : Window}
    {run : History}
    (consistent : Consistent server endpoint query window run)
    (error : Error) :
    .error error ∈ itemsOf (server.pages endpoint run.log) ↔ some (.error error) ∈ run.answers := by
  rw [← consistent.items, List.mem_append, run.error_mem_items]
  simp

/-- After any number of calls on a new pager, the law of a pager holds. -/
theorem calls_lawful
    (server : Server)
    (endpoint query : String)
    (window : Window)
    (count : Nat) :
    Lawful server endpoint query window (history server (start endpoint query window)) count := by
  let run := history server (start endpoint query window) count
  have holds : Consistent server endpoint query window run :=
    consistent server endpoint query window count
  have stands := holds.stands
  have errored : run.pager.phase = .errored ↔ ∃ error, some (.error error) ∈ run.answers := by
    simp only [stands.errored_iff, holds.error_mem_itemsOf]
  obtain ⟨received, failure, pages, flushed⟩ := stands.exists_pages
  have whole : itemsOf (server.pages endpoint run.log) =
      received.flatten.map .ok ++ failure.toList.map .error := by
    rw [pages, itemsOf_append, itemsOf_ok]
    cases failure <;> rfl
  refine {
    items := ⟨received, failure, pages, ?_, ?_⟩
    afterError := ?_
    afterShort := ?_
    oneRequest := (next_cases server _ _).log_eq_or
    fetches := holds.fetches
    asks := holds.asks
    settled := stands.ne_fetching
    created := stands.created_iff.trans (server.pages_eq_nil_iff endpoint run.log)
    errored := errored
    exhausted := stands.exhausted_iff }
  · rw [← whole, ← holds.items]
    exact List.prefix_append _ _
  · intro failed
    rw [← whole, ← holds.items, flushed failed, List.map_nil, List.append_nil]
  · intro answered
    have phase : run.pager.phase = .errored := errored.mpr answered
    exact silentFrom_of_over (stands.buffer_eq_nil phase) (by rw [phase]; rfl)
  · intro last isLast short drained
    have phase : run.pager.phase = .exhausted := stands.exhausted_iff.mpr ⟨last, isLast, short⟩
    have items := holds.items
    rw [← drained, List.append_right_eq_self, List.map_eq_nil_iff] at items
    exact silentFrom_of_over items (by rw [phase]; rfl)

end Pager
end ThreatIntel
