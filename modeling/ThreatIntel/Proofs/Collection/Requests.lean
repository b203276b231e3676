import ThreatIntel.Proofs.Collection.Passing

/-!
# The requests of a walk

Whatever a walk is used for, each of its requests asks for a page of its collection: a step may
fetch any number of pages, taking records makes steps, and draining fetches them all, but none of
them changes the endpoint, the query or the window of the pager.
-/

namespace ThreatIntel
namespace Pager

/-- The walk goes on: the pager still walks the same collection, and the requests that have been
sent since ask for pages of it. -/
structure Continues
    (pager : Pager)
    (log : List Request)
    (after : Pager)
    (later : List Request) : Prop where
  /-- The pager keeps to the collection. -/
  endpoint_eq : after.endpoint = pager.endpoint
  /-- It keeps to the query. -/
  query_eq : after.query = pager.query
  /-- It keeps to the window. -/
  window_eq : after.window = pager.window
  /-- Every request that was sent asks for a page. -/
  sent : ∃ requests, later = log ++ requests ∧
    ∀ request ∈ requests, Asks pager.endpoint pager.query pager.window request

namespace Continues

variable
  {pager after last : Pager}
  {log later final : List Request}

/-- Another buffer changes no request. -/
theorem withBuffer (pager : Pager) (log : List Request) (buffer : List Json) :
    Continues pager log { pager with buffer := buffer } log :=
  ⟨rfl, rfl, rfl, [], (List.append_nil log).symm, by simp⟩

theorem drained (pager : Pager) (log : List Request) :
    Continues pager log pager.drained log :=
  withBuffer pager log []

theorem refl (pager : Pager) (log : List Request) : Continues pager log pager log :=
  withBuffer pager log pager.buffer

theorem trans
    (first : Continues pager log after later)
    (second : Continues after later last final) :
    Continues pager log last final := by
  obtain ⟨requests, rfl, asks⟩ := first.sent
  obtain ⟨others, rfl, asksOthers⟩ := second.sent
  rw [first.endpoint_eq, first.query_eq, first.window_eq] at asksOthers
  exact ⟨second.endpoint_eq.trans first.endpoint_eq, second.query_eq.trans first.query_eq,
    second.window_eq.trans first.window_eq, requests ++ others, List.append_assoc _ _ _,
    List.forall_mem_append.mpr ⟨asks, asksOthers⟩⟩

section

variable
  (server : Server)
  (pager : Pager)
  (log : List Request)

/-- A page is asked for with the query and the window of the pager. -/
theorem fetch :
    Continues pager log ((pager.fetch server).run log).1.2 ((pager.fetch server).run log).2 := by
  have asked : ∀ request ∈ [pager.request],
      Asks pager.endpoint pager.query pager.window request :=
    List.forall_mem_singleton.mpr pager.request_asks
  rw [run_fetch]
  cases server.page pager.endpoint log pager.request with
  | ok records => exact ⟨rfl, rfl, rfl, _, rfl, asked⟩
  | error error => exact ⟨rfl, rfl, rfl, _, rfl, asked⟩

/-- Each way of a call goes on with the walk. -/
theorem next :
    Continues pager log ((pager.next server).run log).1.2 ((pager.next server).run log).2 := by
  have asked : ∀ request ∈ [pager.request],
      Asks pager.endpoint pager.query pager.window request :=
    List.forall_mem_singleton.mpr pager.request_asks
  have way := next_cases server pager log
  generalize (pager.next server).run log = run at way
  obtain ⟨⟨answer, after⟩, later⟩ := run
  cases way with
  | handed held => exact withBuffer _ _ _
  | ended empty isOver => exact refl _ _
  | failed empty running page => exact ⟨rfl, rfl, rfl, _, rfl, asked⟩
  | received empty running page => exact ⟨rfl, rfl, rfl, _, rfl, asked⟩

theorem nextReadable
    (read : Json → Option α)
    (budget : Nat) :
    Continues pager log ((nextReadable server read budget pager).run log).1.2
      ((nextReadable server read budget pager).run log).2 := by
  induction budget generalizing pager log with
  | zero =>
      unfold Pager.nextReadable
      split
      · exact withBuffer pager log _
      · split
        · exact drained pager log
        · exact drained pager log
  | succ budget inductionHypothesis =>
      unfold Pager.nextReadable
      split
      · exact withBuffer pager log _
      · split
        · exact drained pager log
        · have fetched := (drained pager log).trans (fetch server pager.drained log)
          simp only [StateT.run_bind]
          generalize (pager.drained.fetch server).run log = run at fetched
          obtain ⟨⟨result, after⟩, later⟩ := run
          cases result with
          | ok => exact fetched.trans (inductionHypothesis after later)
          | error error => exact fetched

theorem nextEntity
    (resource : Resource)
    (fuel : Nat) :
    Continues pager log ((nextEntity server resource fuel pager).run log).1.2
      ((nextEntity server resource fuel pager).run log).2 := by
  induction fuel generalizing pager log with
  | zero => exact refl pager log
  | succ fuel inductionHypothesis =>
      have called := next server pager log
      rcases run : (pager.next server).run log with ⟨⟨answer, after⟩, later⟩
      rw [run] at called
      rw [run_nextEntity_of_call fuel run]
      cases pass (readEntity resource) answer with
      | some step => exact called
      | none => exact called.trans (inductionHypothesis after later)

theorem take
    (read : Json → Option α)
    (budget count : Nat) :
    Continues pager log ((take server read budget count pager).run log).1.2
      ((take server read budget count pager).run log).2 := by
  induction count generalizing pager log with
  | zero => exact refl pager log
  | succ count inductionHypothesis =>
      have stepped := nextReadable server pager log read budget
      simp only [Pager.take, StateT.run_bind]
      generalize (Pager.nextReadable server read budget pager).run log = run at stepped
      obtain ⟨⟨step, after⟩, later⟩ := run
      cases step with
      | item value => exact stepped.trans (inductionHypothesis after later)
      | failed _ | ended | unfinished => exact stepped

theorem drain
    (read : Json → Option α)
    (budget : Nat) :
    Continues pager log ((drain server read budget pager).run log).1.2
      ((drain server read budget pager).run log).2 := by
  induction budget generalizing pager log with
  | zero =>
      unfold Pager.drain
      split <;> exact drained pager log
  | succ budget inductionHypothesis =>
      unfold Pager.drain
      split
      · exact drained pager log
      · have fetched := (drained pager log).trans (fetch server pager.drained log)
        simp only [StateT.run_bind]
        generalize (pager.drained.fetch server).run log = run at fetched
        obtain ⟨⟨result, after⟩, later⟩ := run
        cases result with
        | ok => exact fetched.trans (inductionHypothesis after later)
        | error error => exact fetched

end

end Continues

/-! ## Any use of a walk -/

/-- A call on a pager: it hands out the next record as it is, as a record of a kind or as an entity,
takes some records, or drains the walk. -/
inductive Called (server : Server) (pager : Pager) (log : List Request) :
    Pager → List Request → Prop
  | next :
      Called server pager log ((pager.next server).run log).1.2 ((pager.next server).run log).2
  | nextReadable {α : Type} (read : Json → Option α) (budget : Nat) :
      Called server pager log ((nextReadable server read budget pager).run log).1.2
        ((nextReadable server read budget pager).run log).2
  | nextEntity (resource : Resource) (fuel : Nat) :
      Called server pager log ((nextEntity server resource fuel pager).run log).1.2
        ((nextEntity server resource fuel pager).run log).2
  | take {α : Type} (read : Json → Option α) (budget count : Nat) :
      Called server pager log ((take server read budget count pager).run log).1.2
        ((take server read budget count pager).run log).2
  | drain {α : Type} (read : Json → Option α) (budget : Nat) :
      Called server pager log ((drain server read budget pager).run log).1.2
        ((drain server read budget pager).run log).2

/-- Any number of calls on a pager, after any requests. -/
inductive Used (server : Server) (pager : Pager) (log : List Request) :
    Pager → List Request → Prop
  | start : Used server pager log pager log
  | more
      {after last : Pager}
      {later final : List Request}
      (before : Used server pager log after later)
      (called : Called server after later last final) :
      Used server pager log last final

section

variable
  {server : Server}
  {pager after : Pager}
  {log later : List Request}

/-- Every call goes on with the walk. -/
theorem Called.continues (called : Called server pager log after later) :
    Continues pager log after later := by
  cases called with
  | next => exact .next server pager log
  | nextReadable read budget => exact .nextReadable server pager log read budget
  | nextEntity resource fuel => exact .nextEntity server pager log resource fuel
  | take read budget count => exact .take server pager log read budget count
  | drain read budget => exact .drain server pager log read budget

/-- However a pager is used, all that is sent asks for pages of its collection. -/
theorem Used.continues (used : Used server pager log after later) :
    Continues pager log after later := by
  induction used with
  | start => exact .refl pager log
  | more _ called inductionHypothesis => exact inductionHypothesis.trans called.continues

end

end Pager
end ThreatIntel
