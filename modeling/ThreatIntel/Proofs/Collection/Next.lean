import ThreatIntel.Collection.Pager
import ThreatIntel.Proofs.Exchange.Calls

/-!
# What one call on a pager can do

A call on a pager hands out a record of its buffer, or reports the end, or asks for one page; the
page then fails or comes in. `Pager.Next` lists these four ways with all they change, and every call
goes one of them.
-/

namespace ThreatIntel

/-- The records that the server sends for a page, when it is asked after a log of earlier
requests. -/
def Server.page
    (server : Server)
    (endpoint : String)
    (log : List Request)
    (request : Request) : Except Error (List Json) := do
  let response ← server.answer log request
  let page ← response.accepted endpoint
  Pager.records endpoint page

namespace Pager

/-- The ways of a call: what it answers, and the pager and the log of requests that it leaves. -/
inductive Next (server : Server) (pager : Pager) (log : List Request) :
    Option (Except Error Json) → Pager → List Request → Prop
  /-- The first record of the buffer is handed out. -/
  | handed
      {record : Json}
      {buffer : List Json}
      (held : pager.buffer = record :: buffer) :
      Next server pager log (some (.ok record)) { pager with buffer := buffer } log
  /-- Nothing is left, and nothing is asked any more. -/
  | ended
      (empty : pager.buffer = [])
      (isOver : pager.phase.isOver = true) :
      Next server pager log none pager log
  /-- A page is asked for and fails. -/
  | failed
      {error : Error}
      (empty : pager.buffer = [])
      (running : pager.phase.isOver = false)
      (page : server.page pager.endpoint log pager.request = .error error) :
      Next server pager log (some (.error error)) pager.awaiting.failed (log ++ [pager.request])
  /-- A page is asked for and comes in; its first record is handed out. -/
  | received
      {records : List Json}
      (empty : pager.buffer = [])
      (running : pager.phase.isOver = false)
      (page : server.page pager.endpoint log pager.request = .ok records) :
      Next server pager log (records.head?.map .ok)
        { pager.awaiting.received records with buffer := records.tail } (log ++ [pager.request])

/-- Asking for a page sends one request, whatever becomes of it. -/
theorem run_askPage (server : Server) (pager : Pager) (log : List Request) :
    (askPage server pager).outcome.run log =
      (server.page pager.endpoint log pager.request, log ++ [pager.request]) := by
  rw [askPage, Server.run_ask_read]
  rfl

/-- Fetching a page sends one request, and ends in a failure or with the records in the buffer. -/
theorem run_fetch (server : Server) (pager : Pager) (log : List Request) :
    (pager.fetch server).run log =
      (match server.page pager.endpoint log pager.request with
        | .ok records => (.ok (), pager.awaiting.received records)
        | .error error => (.error error, pager.awaiting.failed),
      log ++ [pager.request]) := by
  have asked : (askPage server pager.awaiting).outcome.run log =
      (server.page pager.endpoint log pager.request, log ++ [pager.request]) :=
    run_askPage server pager.awaiting log
  rw [fetch, StateT.run_bind, asked]
  cases server.page pager.endpoint log pager.request <;> rfl

/-- Every call goes one of the four ways. -/
theorem next_cases (server : Server) (pager : Pager) (log : List Request) :
    Next server pager log ((pager.next server).run log).1.1 ((pager.next server).run log).1.2
      ((pager.next server).run log).2 := by
  cases held : pager.buffer with
  | cons record buffer =>
      have popped : pager.pop = (some record, { pager with buffer := buffer }) := by
        simp only [pop, held]
      simp only [next, popped]
      exact .handed held
  | nil =>
      have popped : pager.pop = (none, pager) := by
        simp only [pop, held]
      cases isOver : pager.phase.isOver with
      | true =>
          simp only [next, popped, isOver, if_true]
          exact .ended held isOver
      | false =>
          have fetched := run_fetch server pager log
          cases page : server.page pager.endpoint log pager.request with
          | error error =>
              simp only [page] at fetched
              simp only [next, popped, isOver, Bool.false_eq_true, if_false, StateT.run_bind,
                fetched]
              exact .failed held isOver page
          | ok records =>
              simp only [page] at fetched
              simp only [next, popped, isOver, Bool.false_eq_true, if_false, StateT.run_bind,
                fetched]
              change Next server pager log ((pager.awaiting.received records).pop.1.map .ok)
                (pager.awaiting.received records).pop.2 (log ++ [pager.request])
              have popped : (pager.awaiting.received records).pop =
                  (records.head?, { pager.awaiting.received records with
                    buffer := records.tail }) := by
                cases records <;> simp [pop, received, awaiting, held]
              rw [popped]
              exact .received held isOver page

end Pager
end ThreatIntel
