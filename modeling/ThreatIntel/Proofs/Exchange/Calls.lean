import ThreatIntel.Exchange.Server

/-!
# Running calls

How a call that is put together from others runs: the first part runs on the log, and the second one
on what the first leaves, unless it failed.
-/

namespace ThreatIntel

namespace Call

/-- A call made of two runs the second on the log of the first, unless the first failed. -/
theorem run_bind
    (call : Call α)
    (next : α → Call β)
    (log : List Request) :
    (call >>= next).outcome.run log =
      match call.outcome.run log with
      | (.ok value, log) => (next value).outcome.run log
      | (.error error, log) => (.error error, log) := by
  unfold outcome
  rw [ExceptT.run_bind, StateT.run_bind]
  obtain ⟨result, log⟩ := call.run.run log
  cases result <;> rfl

/-- A result that is there already sends nothing. -/
@[simp] theorem run_lift
    (result : Except Error α)
    (log : List Request) :
    (liftM result : Call α).outcome.run log = (result, log) := by
  cases result <;> rfl

/-- A session that cannot fail succeeds as a call. -/
@[simp] theorem run_lift_session
    (session : Session α)
    (log : List Request) :
    (liftM session : Call α).outcome.run log = (.ok (session.run log).1, (session.run log).2) := rfl

/-- Two results in a row are there already if both are. -/
theorem lift_bind
    (result : Except Error α)
    (next : α → Except Error β) :
    (do let value ← result; next value : Call β) = liftM (result >>= next) := by
  cases result <;> rfl

end Call

namespace Server

@[simp] theorem run_send
    (server : Server)
    (request : Request)
    (log : List Request) :
    (server.send request).outcome.run log = (server.answer log request, log ++ [request]) := rfl

/-- A request that is asked stands in the log, whatever becomes of it. -/
theorem run_ask
    (server : Server)
    (request : Request)
    (call : String)
    (log : List Request) :
    (server.ask request call).outcome.run log =
      (server.answer log request >>= fun response => response.accepted call,
        log ++ [request]) := by
  rw [ask, Call.run_bind, run_send]
  cases server.answer log request with
  | error error => rfl
  | ok response => exact Call.run_lift _ _

/-- A call that reads the data of one answer ends in what it makes of it. -/
theorem run_ask_read
    (server : Server)
    (request : Request)
    (call : String)
    (read : Json → Except Error α)
    (log : List Request) :
    (do let body ← server.ask request call; read body : Call α).outcome.run log =
      (server.answer log request >>= fun response => response.accepted call >>= read,
        log ++ [request]) := by
  rw [Call.run_bind, run_ask]
  cases server.answer log request with
  | error error => rfl
  | ok response =>
      cases accepted : response.accepted call with
      | error error => simp [accepted, bind, Except.bind]
      | ok body => simp [accepted, bind, Except.bind]

end Server
end ThreatIntel
