import ThreatIntel.Exchange.Site
import ThreatIntel.Notice
import ThreatIntel.Proofs.Collection.Next
import ThreatIntel.Proofs.Exchange.Notices
import ThreatIntel.Record.Remote

/-!
# Statuses of responses

Each call that asks the server for one thing sends a single request and ends according to the status
of the response: a failure status decides the kind of the error whatever text comes with it, and
behind a success status only the text can be wrong. What fails before there is a response fails the
call as it is.
-/

namespace ThreatIntel

/-! ## Results that can only be unreadable -/

/-- If the result is an error, an answer did not have the expected shape. -/
def OnlyDecodes (result : Except Error α) : Prop :=
  ∀ error, result = .error error → error.kind = .decode

namespace OnlyDecodes

theorem ok (value : α) : OnlyDecodes (.ok value) := nofun

theorem decode (message : String) :
    OnlyDecodes (.error (Error.decode message) : Except Error α) := by
  rintro _ ⟨⟩
  rfl

theorem bind
    {result : Except Error α}
    {next : α → Except Error β}
    (first : OnlyDecodes result)
    (rest : ∀ value, OnlyDecodes (next value)) :
    OnlyDecodes (result >>= next) := by
  cases result with
  | error error =>
      rintro _ ⟨⟩
      exact first error rfl
  | ok value => exact rest value

theorem map
    {result : Except Error α}
    (first : OnlyDecodes result)
    (change : α → β) :
    OnlyDecodes (result.map change) := by
  cases result with
  | error error =>
      rintro _ ⟨⟩
      exact first error rfl
  | ok value => exact .ok (change value)

theorem records (endpoint : String) (page : Json) : OnlyDecodes (Pager.records endpoint page) := by
  unfold Pager.records
  repeat' split
  all_goals first
    | exact .ok _
    | exact .decode _

theorem answeredObject (call : String) (body : Json) :
    OnlyDecodes (Resource.answeredObject call body) := by
  unfold Resource.answeredObject
  split
  · exact .ok _
  · exact .decode _

theorem readRecord (resource : Resource) (json : Json) :
    OnlyDecodes (resource.readRecord json) := by
  unfold Resource.readRecord
  split
  · exact .ok _
  · rintro _ ⟨⟩
    rfl

theorem readEntity (resource : Resource) (json : Json) : OnlyDecodes (Entity.read resource json) :=
  (readRecord resource json).map _

end OnlyDecodes

/-- A change to the second of two results comes after it. -/
theorem map_bind_result
    (result : Except Error α)
    (next : α → Except Error β)
    (change : β → γ) :
    (result >>= next).map change = result >>= fun value => (next value).map change := by
  cases result <;> rfl

/-! ## What a status says -/

/-- The kind of error that a failure status stands for. -/
inductive Response.IsKindOf : (status : Nat) → ErrorKind → Prop
  | unauthorized : IsKindOf 401 .authentication
  | forbidden : IsKindOf 403 .authentication
  | missing : IsKindOf 404 .notFound
  | other
      {status : Nat}
      (notAuthentication : status ≠ 401 ∧ status ≠ 403)
      (notMissing : status ≠ 404) :
      IsKindOf status .transport

/-- A failure status stands for one kind of error. -/
theorem Response.isKindOf_iff
    {status : Nat}
    {kind : ErrorKind} :
    IsKindOf status kind ↔ kind = failureKind status := by
  constructor
  · intro stands
    cases stands with
    | unauthorized | forbidden | missing => rfl
    | other notAuthentication notMissing =>
        simp [failureKind, notAuthentication.1, notAuthentication.2, notMissing]
  · rintro rfl
    unfold failureKind
    split
    · next unauthenticated =>
        rcases unauthenticated with rfl | rfl
        · exact .unauthorized
        · exact .forbidden
    · next authenticated =>
        split
        · next missing =>
            subst missing
            exact .missing
        · next present => exact .other (not_or.mp authenticated) present

/-- A text makes up a response with its status, or is no JSON behind a success status. -/
theorem Reply.response_cases (request : Request) (status : Nat) (text : String) :
    (∃ body, response request status text = .ok ⟨status, body⟩) ∨
      ∃ error, response request status text = .error error ∧ error.kind = .decode ∧
        200 ≤ status ∧ status < 300 := by
  by_cases success : 200 ≤ status ∧ status < 300
  · cases states : data? (Text.unmarked text.toList) with
    | some body => exact .inl ⟨body, by simp only [response, states]⟩
    | none =>
        refine .inr ⟨(Error.decode s!"Response from {request.path} is not JSON").withCause, ?_, rfl,
          success⟩
        simp only [response, states, if_pos success]
  · exact .inl (response_of_failure success request text)

/-! ## Calls -/

/-- A call that asks the server for one thing. -/
inductive RemoteCall where
  /-- For the next page of a walk. -/
  | page (pager : Pager)
  /-- For the record with a number. -/
  | fetch (resource : Resource) (id : Int64) (fields : List String)
  /-- For the record with a number, as an entity. -/
  | entity (resource : Resource) (id : Int64) (fields : List String)
  /-- To add a record. -/
  | create (resource : Resource) (record : resource.Record) (owner : Option String)
  /-- To replace a record. -/
  | update (resource : Resource) (record : resource.Record)
  /-- To remove the record with a number. -/
  | delete (resource : Resource) (id : Int64)
  /-- To pass on a message. -/
  | notify (notifier : Notifier) (message : String)

namespace RemoteCall

/-- What a call gives back. -/
inductive Value where
  /-- A page has come in, which leaves the walk where it is now. -/
  | page (pager : Pager)
  /-- A record of a kind. -/
  | record (resource : Resource) (record : resource.Record)
  /-- A record with its kind. -/
  | entity (entity : Entity)
  /-- A record is gone. -/
  | removed
  /-- The data of a response. -/
  | body (json : Json)

/-- Run a call. -/
def run (server : Server) : RemoteCall → Session (Except Error Value)
  | page pager => do
      let (result, pager) ← pager.fetch server
      pure (result.map fun _ => .page pager)
  | fetch resource id fields => do
      pure ((← (resource.fetchRecord server id fields).outcome).map (.record resource))
  | entity resource id fields => do
      pure ((← (resource.fetchEntity server id fields).outcome).map .entity)
  | create resource record owner => do
      pure ((← (resource.createRecord server record owner).outcome).map (.record resource))
  | update resource record => do
      pure ((← (resource.updateRecord server record).outcome).map (.record resource))
  | delete resource id => do
      pure ((← (resource.deleteRecord server id).outcome).map fun _ => .removed)
  | notify notifier message => do
      pure ((← (notifier.send server message).outcome).map .body)

/-- The request that a call sends; some calls are refused before they send one. -/
def request? : RemoteCall → Option Request
  | page pager => some pager.request
  | fetch resource id fields | entity resource id fields =>
      some (.get (resource.itemPath id) (fields.map fun field => ("fields", field)))
  | create resource record owner =>
      if record.id.isSome then none
      else some (.post resource.endpoint record.toJson
        (owner.toList.map fun owner => ("owner", owner)))
  | update resource record => record.id.map fun id => .put (resource.itemPath id) record.toJson
  | delete resource id => some (.delete (resource.itemPath id))
  | notify notifier message => (notifier.body message).toOption.map (.post Notifier.path)

/-- What a call makes of the data of a successful response to a request at a path. -/
def decode (path : String) : RemoteCall → Json → Except Error Value
  | page pager, body =>
      (Pager.records path body).map fun records => .page (pager.awaiting.received records)
  | fetch resource _ _, body | create resource _ _, body | update resource _, body =>
      (Resource.answeredObject path body >>= resource.readRecord).map (.record resource)
  | entity resource _ _, body =>
      (Resource.answeredObject path body >>= Entity.read resource).map .entity
  | delete _ _, _ => .ok .removed
  | notify _ _, body => .ok (.body body)

/-- Whether the call hands back the data of a response with a status as if it were a success. -/
def keeps : RemoteCall → (status : Nat) → Bool
  | notify _ _, status => status = 400
  | _, _ => false

/-- What a call makes of a response to a request at a path. -/
def read (call : RemoteCall) (path : String) (response : Response) : Except Error Value :=
  if call.keeps response.status then .ok (.body response.body)
  else response.accepted path >>= call.decode path

theorem onlyDecodes_decode (call : RemoteCall) (path : String) (body : Json) :
    OnlyDecodes (call.decode path body) := by
  cases call with
  | page pager => exact (OnlyDecodes.records _ _).map _
  | fetch resource _ _ | create resource _ _ | update resource _ =>
      exact ((OnlyDecodes.answeredObject _ _).bind fun _ => OnlyDecodes.readRecord _ _).map _
  | entity resource id fields =>
      exact ((OnlyDecodes.answeredObject _ _).bind fun _ => OnlyDecodes.readEntity _ _).map _
  | delete resource id => exact .ok _
  | notify notifier message => exact .ok _

/-- A call for a record ends in what it reads from the answer. -/
theorem run_askRecord
    (server : Server)
    (resource : Resource)
    (request : Request)
    (log : List Request) :
    (Resource.askRecord server resource request).outcome.run log =
      (server.answer log request >>= fun response => response.accepted request.path >>= fun body =>
        Resource.answeredObject request.path body >>= resource.readRecord, log ++ [request]) := by
  have joined : Resource.askRecord server resource request = (do
      let body ← server.ask request request.path
      (Resource.answeredObject request.path body >>= resource.readRecord : Except Error _)) := by
    simp only [Resource.askRecord, Call.lift_bind]
  rw [joined, Server.run_ask_read]

/-- A call that is read from the data of one answer, and then changed, is still read from them. -/
theorem run_map_of_ask
    {call : Call α}
    {server : Server}
    {request : Request}
    {log : List Request}
    {read : Json → Except Error α}
    (ran : call.outcome.run log =
      (server.answer log request >>= fun response => response.accepted request.path >>= read,
        log ++ [request]))
    (change : α → β) :
    (do pure ((← call.outcome).map change) : Session (Except Error β)).run log =
      (server.answer log request >>= fun response => response.accepted request.path >>= fun body =>
        (read body).map change, log ++ [request]) := by
  rw [StateT.run_bind, ran]
  simp only [← map_bind_result]
  rfl

/-- A call sends its request, and ends in what it makes of the answer. -/
theorem run_of_request
    {call : RemoteCall}
    {request : Request}
    (sends : call.request? = some request)
    (server : Server)
    (log : List Request) :
    (call.run server).run log =
      (server.answer log request >>= call.read request.path, log ++ [request]) := by
  cases call with
  | page pager =>
      cases sends
      have ended : server.answer log pager.request >>= (page pager).read pager.request.path =
          (server.page pager.endpoint log pager.request).map fun records =>
            .page (pager.awaiting.received records) := by
        simp only [Server.page, map_bind_result]
        rfl
      simp only [run, StateT.run_bind, Pager.run_fetch, ended]
      cases server.page pager.endpoint log pager.request <;> rfl
  | fetch resource id fields =>
      cases sends
      exact run_map_of_ask (run_askRecord server resource _ log) _
  | entity resource id fields =>
      cases sends
      refine run_map_of_ask ?_ _
      simp only [Resource.fetchEntity, Call.lift_bind]
      exact Server.run_ask_read _ _ _ _ _
  | create resource record owner =>
      simp only [request?] at sends
      split at sends
      · cases sends
      · next unnumbered =>
          cases sends
          simp only [run, Resource.createRecord, if_neg unnumbered]
          exact run_map_of_ask (run_askRecord server resource _ log) _
  | update resource record =>
      obtain ⟨id, numbered, rfl⟩ := Option.map_eq_some_iff.mp sends
      simp only [run, Resource.updateRecord, numbered]
      exact run_map_of_ask (run_askRecord server resource _ log) _
  | delete resource id =>
      cases sends
      exact run_map_of_ask (Server.run_ask_read server _ _ (fun _ => .ok ()) log) _
  | notify notifier message =>
      obtain ⟨body, written, rfl⟩ := Option.map_eq_some_iff.mp sends
      have written : notifier.body message = .ok body := by
        cases made : notifier.body message with
        | error error => simp [made, Except.toOption] at written
        | ok made => simpa [made, Except.toOption] using written
      have same : (notify notifier message).read Notifier.path =
          fun response => (Notifier.read response).map .body := by
        funext response
        by_cases handedBack : response.status = 400
        · simp only [read, keeps, Notifier.read, handedBack, if_true, decide_true]
          rfl
        · simp only [read, keeps, Notifier.read, handedBack, if_false, decide_false,
            Bool.false_eq_true]
          cases response.accepted Notifier.path <;> rfl
      rw [run, StateT.run_bind, Notifier.run_send server written]
      change (_, _) = (_ >>= (notify notifier message).read Notifier.path, _)
      rw [same, ← map_bind_result]

/-! ## How calls end -/

/-- How a call may end when a status with a text comes back. -/
inductive Ends (call : RemoteCall) (request : Request) (status : Nat) (text : String) :
    Except Error Value → Prop
  /-- A failure status is an error of its kind. -/
  | failed
      {error : Error}
      (failure : ¬(200 ≤ status ∧ status < 300))
      (notKept : call.keeps status = false)
      (kind : Response.IsKindOf status error.kind) :
      Ends call request status text (.error error)
  /-- The data of a refused message is handed back. -/
  | kept
      {body : Json}
      (keeps : call.keeps status = true)
      (states : Reply.response request status text = .ok ⟨status, body⟩) :
      Ends call request status text (.ok (.body body))
  /-- A success status is a success. -/
  | succeeded
      {value : Value}
      (success : 200 ≤ status ∧ status < 300) :
      Ends call request status text (.ok value)
  /-- A success status comes with a text of the wrong shape. -/
  | unreadable
      {error : Error}
      (success : 200 ≤ status ∧ status < 300)
      (kind : error.kind = .decode) :
      Ends call request status text (.error error)

theorem keeps_eq_false_of_success
    {status : Nat}
    (success : 200 ≤ status ∧ status < 300)
    (call : RemoteCall) :
    call.keeps status = false := by
  cases call with
  | notify notifier message =>
      have refused : status ≠ 400 := by omega
      exact decide_eq_false refused
  | page _ | fetch _ _ _ | entity _ _ _ | create _ _ _ | update _ _ | delete _ _ => rfl

/-- A call that receives a status with a text ends as the status says. -/
theorem ends_of_received
    (call : RemoteCall)
    (request : Request)
    (status : Nat)
    (text : String) :
    Ends call request status text
      (Reply.response request status text >>= call.read request.path) := by
  rcases Reply.response_cases request status text with
    ⟨body, states⟩ | ⟨error, fails, kind, success⟩
  · rw [states]
    change Ends call request status text (call.read request.path ⟨status, body⟩)
    by_cases success : 200 ≤ status ∧ status < 300
    · have accepted : Response.accepted ⟨status, body⟩ request.path = .ok body := by
        simp [Response.accepted, Response.isSuccess, success]
      rw [read, keeps_eq_false_of_success success, accepted]
      change Ends call request status text (call.decode request.path body)
      cases decoded : call.decode request.path body with
      | ok value => exact .succeeded success
      | error error =>
          exact .unreadable success (call.onlyDecodes_decode request.path body error decoded)
    · cases keeps : call.keeps status with
      | true =>
          rw [read, if_pos keeps]
          exact .kept keeps states
      | false =>
          have refused : Response.isSuccess ⟨status, body⟩ = false := by
            simpa [Response.isSuccess] using success
          simp only [read, keeps, Response.accepted, refused, Bool.false_eq_true, if_false]
          exact .failed success keeps (Response.isKindOf_iff.mpr rfl)
  · rw [fails]
    exact .unreadable success kind

/-- The kind of a failed call is decided by the status alone; what fails before there is a response
fails the call as it is. -/
theorem ends_by_status
    {call : RemoteCall}
    {request : Request}
    (sends : call.request? = some request)
    (log : List Request) :
    (∀ (server : Server) (error : Error), server.answer log request = .error error →
      ((call.run server).run log).1 = .error error) ∧
    ∀ (site : Site) (network : Network) (dispatch : Dispatch) (status : Nat) (text : String),
      site.dispatch (network.time log) request = .ok dispatch →
      network.reply log dispatch = .received status text →
      Ends call request status text ((call.run (site.server network)).run log).1 := by
  constructor
  · intro server error failed
    rw [run_of_request sends, failed]
    rfl
  · intro site network dispatch status text leaves received
    have answered : (site.server network).answer log request =
        Reply.response request status text := by
      simp only [Site.server, leaves]
      change Reply.read request (network.reply log dispatch) = _
      rw [received, Reply.read]
    rw [run_of_request sends, answered]
    exact ends_of_received call request status text

theorem ends_by_status_of_refusal :
    ∃ error dispatch,
      (Site.mk "https://h" .none).dispatch 0 (.delete "/v3/tags/7") = .ok dispatch ∧
      (((delete .tag 7).run (Site.server ⟨"https://h", .none⟩
        ⟨fun _ => 0, fun _ _ => .received 403 "<html>"⟩)).run []).1 = .error error ∧
      error.kind = .authentication := by
  have leaves : ((Site.mk "https://h" .none).dispatch 0 (.delete "/v3/tags/7")).toOption.isSome =
      true := by
    decide +kernel
  cases leaving : (Site.mk "https://h" .none).dispatch 0 (.delete "/v3/tags/7") with
  | error error =>
      rw [leaving] at leaves
      cases leaves
  | ok dispatch =>
      have sends : (delete .tag 7).request? = some (.delete "/v3/tags/7") := by
        decide +kernel
      have ends := (ends_by_status sends []).2 _
        ⟨fun _ => 0, fun _ _ => .received 403 "<html>"⟩ dispatch 403 "<html>" leaving rfl
      revert ends
      generalize (((delete .tag 7).run _).run []).1 = result
      intro ends
      cases ends with
      | failed failure notKept kind =>
          exact ⟨_, dispatch, rfl, rfl, Response.isKindOf_iff.mp kind⟩
      | kept keeps states => cases keeps
      | succeeded success => omega
      | unreadable success kind => omega

end RemoteCall
end ThreatIntel
