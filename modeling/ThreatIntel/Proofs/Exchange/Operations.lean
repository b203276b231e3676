import Mathlib.Logic.Function.Basic
import ThreatIntel.Proofs.Exchange.Statuses
import ThreatIntel.Proofs.Query.Calls
import ThreatIntel.Proofs.Staging.Bytes
import ThreatIntel.Proofs.Staging.Outcomes

/-!
# Operations in a row

What callers do with a client, one operation after the other: calls on filters, choices of an
audience, and errands to the server. An errand that is refused sends nothing, and any other sends
one request and ends in what it makes of the answer. Main statement: the requests that have been
sent, and the answers to them, belong to the accepted errands in their order.
-/

namespace ThreatIntel

/-! ## Endings -/

/-- How an operation ends. -/
inductive Ending where
  /-- The answers of a filter. -/
  | replies (answers : List (Except Query.Filter.Refusal Query.Filter.Answer))
  /-- An audience has been chosen. -/
  | addressed
  /-- What a call gives back. -/
  | result (result : Except Error RemoteCall.Value)
  /-- What became of an item. -/
  | staged (outcome : Staging.Outcome)

namespace Ending

/-- Whether an answer of a filter says that the input was refused. -/
def isRefusal : Except Query.Filter.Refusal Query.Filter.Answer → Bool
  | .ok _ => false
  | .error refusal => refusal.error.kind == .validation

/-- Whether an operation ends because its input was refused: of a row of calls on a filter one
refusal is enough, and of an item this is seen from the message alone. -/
def isRejected : Ending → Bool
  | replies answers => answers.any isRefusal
  | addressed => false
  | result (.ok _) => false
  | result (.error error) => error.kind == .validation
  | staged outcome => outcome.message?.any fun message =>
      "VALIDATION".toList.isPrefixOf message.toList

/-- The message of an error begins with the label of its kind, and no other label begins like that
of a refused input. -/
theorem isPrefixOf_display (error : Error) :
    "VALIDATION".toList.isPrefixOf error.display.toList = (error.kind == .validation) := by
  obtain ⟨kind, message, hasCause⟩ := error
  have shown : (Error.mk kind message hasCause).display.toList =
      kind.label.toList ++ (": ".toList ++ message.toList) := by
    simp [Error.display, toString]
  rw [shown]
  cases kind <;> rfl

/-- An ending is not rejected unless it is an error that says so. -/
theorem isRejected_result_iff (result : Except Error RemoteCall.Value) :
    (Ending.result result).isRejected = true ↔
      ∃ error, result = .error error ∧ error.kind = .validation := by
  cases result <;> simp [isRejected]

theorem isRejected_staged_iff
    (resource : Resource)
    (owner : Option String)
    (result : Except Error (Option Int64)) :
    (staged ⟨resource, owner, result⟩).isRejected = true ↔
      ∃ error, result = .error error ∧ error.kind = .validation := by
  cases result with
  | ok id => simp [isRejected, Staging.Outcome.message?]
  | error error =>
      simp only [isRejected, Staging.Outcome.message?, Option.any_some, isPrefixOf_display,
        beq_iff_eq, Except.error.injEq, exists_eq_left']

end Ending

/-! ## Refusals -/

/-- If the result is an error, it does not say that the input was refused. -/
def NoRefusal (result : Except Error α) : Prop :=
  ∀ error, result = .error error → error.kind ≠ .validation

theorem OnlyDecodes.noRefusal
    {result : Except Error α}
    (decodes : OnlyDecodes result) :
    NoRefusal result := by
  intro error failed
  rw [decodes error failed]
  nofun

namespace NoRefusal

theorem bind
    {result : Except Error α}
    {next : α → Except Error β}
    (first : NoRefusal result)
    (rest : ∀ value, NoRefusal (next value)) :
    NoRefusal (result >>= next) := by
  cases result with
  | error error =>
      rintro _ ⟨⟩
      exact first error rfl
  | ok value => exact rest value

/-- A failure status is not about the input. -/
theorem accepted (response : Response) (call : String) : NoRefusal (response.accepted call) := by
  unfold Response.accepted
  split
  · nofun
  · rintro _ ⟨⟩
    change Response.failureKind response.status ≠ .validation
    unfold Response.failureKind
    repeat' split
    all_goals nofun

end NoRefusal

theorem RemoteCall.noRefusal_read
    (call : RemoteCall)
    (path : String)
    (response : Response) :
    NoRefusal (call.read path response) := by
  unfold read
  split
  · nofun
  · exact (NoRefusal.accepted response path).bind fun body =>
      (call.onlyDecodes_decode path body).noRefusal

/-- A call without a request is refused for its input, and leaves the log alone. -/
theorem RemoteCall.run_of_no_request
    {call : RemoteCall}
    (none : call.request? = none)
    (server : Server)
    (log : List Request) :
    ∃ error, (call.run server).run log = (.error error, log) ∧ error.kind = .validation := by
  cases call with
  | page pager | fetch resource id fields | entity resource id fields | delete resource id =>
      cases none
  | create resource record owner =>
      simp only [request?, ite_eq_left_iff, reduceCtorEq, imp_false, Decidable.not_not] at none
      refine ⟨.validation s!"{resource.title} already has an id; use update instead", ?_, rfl⟩
      rw [run, Resource.createRecord, if_pos none]
      rfl
  | update resource record =>
      have unnumbered : record.id = .none := Option.map_eq_none_iff.mp none
      refine ⟨.validation s!"{resource.title} has no id; use create instead", ?_, rfl⟩
      rw [run, Resource.updateRecord, unnumbered]
      rfl
  | notify notifier message =>
      rw [request?, Notifier.body] at none
      cases chosen : notifier.address? with
      | none =>
          obtain ⟨error, refused, kind⟩ := Notifier.refused_body chosen message
          refine ⟨error, ?_, kind⟩
          rw [run, StateT.run_bind, Notifier.run_send_of_refused server refused]
          rfl
      | some address =>
          rw [chosen] at none
          cases none

/-! ## Errands -/

/-- Something for which the server is asked once. -/
inductive Errand where
  /-- A call for one thing. -/
  | remote (call : RemoteCall)
  /-- An item to be staged on behalf of an owner. -/
  | stage (owner : Option String) (item : Staging.Item)

namespace Errand

/-- Run an errand. -/
def run (server : Server) : Errand → Session Ending
  | remote call => do pure (.result (← call.run server))
  | stage owner item => do pure (.staged (← Staging.stage server owner item))

/-- The request that an errand sends; some are refused before they send one. -/
def request? : Errand → Option Request
  | remote call => call.request?
  | stage owner item => item.request? owner

/-- How an errand ends by the answer to its request, which goes to a path. -/
def conclude (path : String) (answer : Except Error Response) : Errand → Ending
  | remote call => .result (answer >>= call.read path)
  | stage owner item => .staged ⟨item.resource, owner, answer >>= fun response =>
      response.accepted path >>= fun body =>
        (Resource.answeredObject path body).map Staging.givenId?⟩

/-- An errand with a request sends it, and ends by the answer. -/
theorem run_of_request
    {errand : Errand}
    {request : Request}
    (sends : errand.request? = some request)
    (server : Server)
    (log : List Request) :
    (errand.run server).run log =
      (errand.conclude request.path (server.answer log request), log ++ [request]) := by
  cases errand with
  | remote call =>
      rw [run, StateT.run_bind, RemoteCall.run_of_request sends]
      rfl
  | stage owner item =>
      rw [run, StateT.run_bind, Staging.stage, StateT.run_bind,
        Staging.run_create_of_request sends]
      rfl

/-- An errand without a request is rejected. -/
theorem run_of_no_request
    {errand : Errand}
    (none : errand.request? = none)
    (server : Server)
    (log : List Request) :
    ∃ ending, (errand.run server).run log = (ending, log) ∧ ending.isRejected = true := by
  cases errand with
  | remote call =>
      obtain ⟨error, ran, kind⟩ := call.run_of_no_request none server log
      refine ⟨.result (.error error), ?_, (Ending.isRejected_result_iff _).mpr ⟨error, rfl, kind⟩⟩
      rw [run, StateT.run_bind, ran]
      rfl
  | stage owner item =>
      rcases item.body_cases owner with ⟨body, -, sends⟩ | ⟨⟨error, refused⟩, -⟩
      · cases none.symm.trans sends
      · have kind := item.checked.refused error refused
        have rejected := (Ending.isRejected_staged_iff item.resource owner _).mpr ⟨error, rfl, kind⟩
        refine ⟨_, ?_, rejected⟩
        rw [run, StateT.run_bind, Staging.stage, StateT.run_bind, Staging.create, Call.run_bind,
          refused]
        rfl

/-- An errand that was answered is not rejected, unless the server itself rejects it. -/
theorem isRejected_conclude
    {answer : Except Error Response}
    (honest : NoRefusal answer)
    (path : String)
    (errand : Errand) :
    (errand.conclude path answer).isRejected = false := by
  cases errand with
  | remote call =>
      have read : NoRefusal (answer >>= call.read path) :=
        honest.bind fun response => call.noRefusal_read path response
      rw [← Bool.not_eq_true, conclude, Ending.isRejected_result_iff]
      rintro ⟨error, ended, kind⟩
      exact read error ended kind
  | stage owner item =>
      have read : NoRefusal (answer >>= fun response => response.accepted path >>= fun body =>
          (Resource.answeredObject path body).map Staging.givenId?) :=
        honest.bind fun response => (NoRefusal.accepted response path).bind fun body =>
          ((OnlyDecodes.answeredObject path body).map _).noRefusal
      rw [← Bool.not_eq_true, conclude, Ending.isRejected_staged_iff]
      rintro ⟨error, ended, kind⟩
      exact read error ended kind

end Errand

/-! ## Operations -/

/-- What the callers of a client hold under numbers: filters and notifiers. -/
structure Desk where
  /-- The filters as their calls have left them. -/
  filters : Nat → Query.Filter
  /-- The notifiers with the audiences chosen last. -/
  notifiers : Nat → Notifier

/-- Something that is done with a client. -/
inductive Operation where
  /-- Make a row of calls on a filter, by methods or by names; one call is a row by itself. -/
  | filter (slot : Nat) {resource : Resource} (calls : Query.Calls resource)
  /-- Choose some users. -/
  | recipients (slot : Nat) (type names : String) (priority : Priority)
  /-- Choose everybody. -/
  | organization (slot : Nat) (type : String) (priority : Priority)
  /-- Send a message to the audience chosen last. -/
  | send (slot : Nat) (message : String)
  /-- Go on any errand. -/
  | go (errand : Errand)

namespace Operation

/-- The errand on which an operation goes. -/
def errand? (desk : Desk) : Operation → Option Errand
  | send slot message => some (.remote (.notify (desk.notifiers slot) message))
  | go errand => some errand
  | filter _ _ | recipients _ _ _ _ | organization _ _ _ => none

/-- What is held after an operation. -/
def next (desk : Desk) : Operation → Desk
  | filter slot calls =>
      { desk with
        filters := Function.update desk.filters slot (calls.run (desk.filters slot)).2 }
  | recipients slot type names priority =>
      { desk with
        notifiers := Function.update desk.notifiers slot
          ((desk.notifiers slot).toRecipients type names priority) }
  | organization slot type priority =>
      { desk with
        notifiers := Function.update desk.notifiers slot
          ((desk.notifiers slot).toOrganization type priority) }
  | send _ _ | go _ => desk

/-- Do something. -/
def run (server : Server) (desk : Desk) : Operation → Session Ending
  | filter slot calls => pure (.replies (calls.run (desk.filters slot)).1)
  | recipients _ _ _ _ | organization _ _ _ => pure .addressed
  | send slot message => (Errand.remote (.notify (desk.notifiers slot) message)).run server
  | go errand => errand.run server

end Operation

/-- An operation that has been done. -/
structure Event where
  /-- What was held before. -/
  desk : Desk
  /-- What was done. -/
  operation : Operation
  /-- How it ended. -/
  ending : Ending
  /-- The requests before it. -/
  before : List Request
  /-- The requests after it. -/
  after : List Request

/-- Do operations one after the other, and write down what happens. -/
def observe (server : Server) (desk : Desk) : List Operation → Session (List Event)
  | [] => pure []
  | operation :: operations => do
      let before ← get
      let ending ← operation.run server desk
      let after ← get
      let events ← observe server (operation.next desk) operations
      pure (⟨desk, operation, ending, before, after⟩ :: events)

namespace Event

/-- The operation went on an errand, and was not rejected. -/
def isAccepted (event : Event) : Bool :=
  (event.operation.errand? event.desk).isSome && !event.ending.isRejected

/-- What happens at one operation. -/
inductive Lawful (server : Server) (event : Event) : Prop
  /-- Its input was refused, or it asks nothing of the server; nothing has been sent. -/
  | silent
      (notAccepted : event.isAccepted = false)
      (unchanged : event.after = event.before)
  /-- It has sent the request of its errand, and ends by the answer. -/
  | sent
      (errand : Errand)
      (request : Request)
      (accepted : event.isAccepted = true)
      (goes : event.operation.errand? event.desk = some errand)
      (asks : errand.request? = some request)
      (once : event.after = event.before ++ [request])
      (ends : event.ending = errand.conclude request.path (server.answer event.before request))

end Event

section Observe

variable
  {server : Server}
  (honest : ∀ log request, NoRefusal (server.answer log request))

include honest

theorem lawful_of_errand
    {desk : Desk}
    {operation : Operation}
    {errand : Errand}
    (goes : operation.errand? desk = some errand)
    (log : List Request) :
    Event.Lawful server ⟨desk, operation, ((errand.run server).run log).1, log,
      ((errand.run server).run log).2⟩ := by
  cases sends : errand.request? with
  | none =>
      obtain ⟨ending, ran, rejected⟩ := errand.run_of_no_request sends server log
      rw [ran]
      exact .silent (by simp [Event.isAccepted, rejected]) rfl
  | some request =>
      rw [Errand.run_of_request sends]
      have notRejected := errand.isRejected_conclude (honest log request) request.path
      exact .sent errand request (by simp [Event.isAccepted, goes, notRejected]) goes sends rfl rfl

/-- One operation is lawful, whatever has been done before. -/
theorem lawful_run
    (desk : Desk)
    (operation : Operation)
    (log : List Request) :
    Event.Lawful server ⟨desk, operation, ((operation.run server desk).run log).1, log,
      ((operation.run server desk).run log).2⟩ := by
  cases operation with
  | filter slot calls => exact .silent rfl rfl
  | recipients slot type names priority => exact .silent rfl rfl
  | organization slot type priority => exact .silent rfl rfl
  | send slot message => exact lawful_of_errand honest rfl log
  | go errand => exact lawful_of_errand honest rfl log

omit honest in
theorem run_observe_cons
    (desk : Desk)
    (operation : Operation)
    (operations : List Operation)
    (log : List Request) :
    (observe server desk (operation :: operations)).run log =
      let done := (operation.run server desk).run log
      let later := (observe server (operation.next desk) operations).run done.2
      (⟨desk, operation, done.1, log, done.2⟩ :: later.1, later.2) := rfl

end Observe

/-- What happens between two logs: every operation is lawful, and the accepted ones have sent the
requests in their order. -/
structure Observed
    (server : Server)
    (operations : List Operation)
    (start : List Request)
    (events : List Event)
    (final : List Request) : Prop where
  /-- Each operation has been done once, in its place. -/
  each : events.map (·.operation) = operations
  /-- Each of them was lawful. -/
  lawful : ∀ event ∈ events, event.Lawful server
  /-- As many requests were sent as operations accepted. -/
  sent : ∃ requests, final = start ++ requests ∧
    requests.length = (events.filter Event.isAccepted).length
  /-- Each accepted operation sent the request in its place. -/
  places : ∀ (k : Nat) (event : Event), (events.filter Event.isAccepted)[k]? = some event →
    event.before = final.take (start.length + k) ∧
      event.after = final.take (start.length + k + 1)

/-- An operation that was silent leaves the places of the later ones as they are. -/
theorem Observed.cons_silent
    {server : Server}
    {operations : List Operation}
    {events : List Event}
    {event : Event}
    {final : List Request}
    (notAccepted : event.isAccepted = false)
    (unchanged : event.after = event.before)
    (lawful : event.Lawful server)
    (later : Observed server operations event.after events final) :
    Observed server (event.operation :: operations) event.before (event :: events) final where
  each := congrArg (event.operation :: ·) later.each
  lawful := List.forall_mem_cons.mpr ⟨lawful, later.lawful⟩
  sent := by
    rw [List.filter_cons_of_neg (by simp [notAccepted]), ← unchanged]
    exact later.sent
  places := by
    rw [List.filter_cons_of_neg (by simp [notAccepted]), ← unchanged]
    exact later.places

/-- An accepted operation takes the first place. -/
theorem Observed.cons_sent
    {server : Server}
    {operations : List Operation}
    {events : List Event}
    {event : Event}
    {request : Request}
    {final : List Request}
    (accepted : event.isAccepted = true)
    (once : event.after = event.before ++ [request])
    (lawful : event.Lawful server)
    (later : Observed server operations event.after events final) :
    Observed server (event.operation :: operations) event.before (event :: events) final where
  each := congrArg (event.operation :: ·) later.each
  lawful := List.forall_mem_cons.mpr ⟨lawful, later.lawful⟩
  sent := by
    obtain ⟨requests, split, length⟩ := later.sent
    rw [List.filter_cons_of_pos accepted, List.length_cons, ← length]
    exact ⟨request :: requests, by rw [split, once]; simp, rfl⟩
  places := by
    obtain ⟨requests, split, -⟩ := later.sent
    rw [List.filter_cons_of_pos accepted]
    intro k other found
    cases k with
    | zero =>
        cases found
        have all : final = event.before ++ request :: requests := by
          rw [split, once, List.append_assoc, List.singleton_append]
        rw [all, once]
        constructor
        · exact List.take_left.symm
        · rw [Nat.add_zero, List.take_length_add_append, List.take_succ_cons, List.take_zero]
    | succ k =>
        have places := later.places k other found
        rw [once, List.length_append, List.length_singleton] at places
        rwa [Nat.add_right_comm, Nat.add_assoc] at places

theorem Observed.length_final
    {server : Server}
    {operations : List Operation}
    {events : List Event}
    {final : List Request}
    (observed : Observed server operations [] events final) :
    final.length = (events.filter Event.isAccepted).length := by
  obtain ⟨requests, split, length⟩ := observed.sent
  rw [split, List.nil_append, length]

/-- Whatever is done, each operation is lawful, and the accepted ones send the requests in their
order. -/
theorem observed_observe
    {server : Server}
    (honest : ∀ log request, NoRefusal (server.answer log request))
    (desk : Desk)
    (operations : List Operation)
    (log : List Request) :
    Observed server operations log ((observe server desk operations).run log).1
      ((observe server desk operations).run log).2 := by
  induction operations generalizing desk log with
  | nil =>
      have nothing : (observe server desk []).run log = ([], log) := rfl
      rw [nothing]
      exact ⟨rfl, List.forall_mem_nil _, ⟨[], (List.append_nil log).symm, rfl⟩, by simp⟩
  | cons operation operations inductionHypothesis =>
      rw [run_observe_cons]
      have first := lawful_run honest desk operation log
      have later := inductionHypothesis (operation.next desk)
        ((operation.run server desk).run log).2
      cases first with
      | silent notAccepted unchanged =>
          exact .cons_silent notAccepted unchanged (.silent notAccepted unchanged) later
      | sent errand request accepted goes asks once ends =>
          exact .cons_sent accepted once (.sent errand request accepted goes asks once ends) later

/-- A server that has prepared no refusals never rejects an input. -/
theorem noRefusal_ofAnswers
    {answers : List (Except Error Response)}
    (honest : ∀ answer ∈ answers, NoRefusal answer)
    (log : List Request)
    (request : Request) :
    NoRefusal ((Server.ofAnswers answers).answer log request) := by
  change NoRefusal (answers.getD log.length (.error Server.exhausted))
  rw [List.getD_eq_getElem?_getD]
  cases found : answers[log.length]? with
  | none =>
      rintro _ ⟨⟩
      nofun
  | some answer => exact honest answer (List.mem_of_getElem? found)

/-- Whatever is done with a client of a server that prepares its answers, and rejects no input by
them: an operation that is rejected sends nothing, and an errand that is not sends one request. So
the request and the answer in each place belong to the accepted operation in that place. -/
theorem accepted_operations_in_order
    {answers : List (Except Error Response)}
    (honest : ∀ answer ∈ answers, NoRefusal answer)
    (desk : Desk)
    (operations : List Operation) :
    let observed := (observe (Server.ofAnswers answers) desk operations).run []
    let accepted := observed.1.filter Event.isAccepted
    observed.1.map (·.operation) = operations ∧
    (∀ event ∈ observed.1, event.ending.isRejected = true → event.after = event.before) ∧
    (∀ event ∈ observed.1, (event.operation.errand? event.desk).isSome = true →
      event.ending.isRejected = false → ∃ request, event.after = event.before ++ [request]) ∧
    observed.2.length = accepted.length ∧
    ∀ (k : Nat) (event : Event), accepted[k]? = some event →
      ∃ errand request, event.operation.errand? event.desk = some errand ∧
        errand.request? = some request ∧ observed.2[k]? = some request ∧
        event.before = observed.2.take k ∧ event.after = observed.2.take (k + 1) ∧
        event.ending =
          errand.conclude request.path (answers.getD k (.error Server.exhausted)) := by
  have all := observed_observe (noRefusal_ofAnswers honest) desk operations []
  revert all
  generalize (observe (Server.ofAnswers answers) desk operations).run [] = observed
  intro all
  refine ⟨all.each, ?_, ?_, ?_, ?_⟩
  · intro event member rejected
    cases all.lawful event member with
    | silent notAccepted unchanged => exact unchanged
    | sent errand request accepted => simp [Event.isAccepted, rejected] at accepted
  · intro event member goes notRejected
    cases all.lawful event member with
    | silent notAccepted unchanged => simp [Event.isAccepted, goes, notRejected] at notAccepted
    | sent errand request accepted goes asks once ends => exact ⟨request, once⟩
  · exact all.length_final
  · intro k event found
    obtain ⟨before, after⟩ := all.places k event found
    rw [List.length_nil, Nat.zero_add] at before after
    obtain ⟨member, accepted⟩ := List.mem_filter.mp (List.mem_of_getElem? found)
    cases all.lawful event member with
    | silent notAccepted unchanged => cases notAccepted.symm.trans accepted
    | sent errand request accepted goes asks once ends =>
        have inside : k < observed.2.length := by
          rw [all.length_final]
          exact (List.getElem?_eq_some_iff.mp found).1
        have place : event.before.length = k := by
          rw [before, List.length_take]
          omega
        refine ⟨errand, request, goes, asks, ?_, before, after, ?_⟩
        · have last : event.after[k]? = some request := by
            rw [once, ← place, List.getElem?_concat_length]
          rwa [after, List.getElem?_take_of_lt (Nat.lt_succ_self k)] at last
        · rw [ends, ← place]
          rfl

theorem accepted_operations_in_order_of_seven :
    let answers : List (Except Error Response) := [
      .ok ⟨200, .null⟩,
      .error (.transport "connection reset"),
      .ok ⟨200, .object [("data", .object [])]⟩]
    let operations : List Operation := [
      .send 0 "early",
      .recipients 0 "triage" "ann" .low,
      .send 0 "hello",
      .filter 0
        (.named (.add .epoch "unknown" .equal (.integer 1) .done) (.done : Query.Calls .tag)),
      .go (.remote (.delete .tag 7)),
      .go (.stage none ⟨.tag, .whole 1, []⟩),
      .go (.stage none ⟨.tag, .object [], []⟩)]
    let observed := (observe (Server.ofAnswers answers)
      ⟨fun _ => .empty .tag, fun _ => {}⟩ operations).run []
    observed.1.map (·.ending.isRejected) = [true, false, false, true, false, true, false] ∧
      observed.2.length = 3 := by
  intro answers operations observed
  have honest : ∀ answer ∈ answers, NoRefusal answer := by
    simp [answers, NoRefusal, Error.transport]
  have rejected : observed.1.map (·.ending.isRejected) =
      [true, false, false, true, false, true, false] := by
    decide +kernel
  have accepted : (observed.1.filter Event.isAccepted).length = 3 := by
    decide +kernel
  have sent := accepted_operations_in_order honest ⟨fun _ => .empty .tag, fun _ => {}⟩ operations
  exact ⟨rejected, sent.2.2.2.1.trans accepted⟩

end ThreatIntel
