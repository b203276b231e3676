import ThreatIntel.Proofs.Exchange.Calls
import ThreatIntel.Staging

/-!
# What becomes of staged items

Each item is sent on its own: an item that can be sent makes one request, and any other none. What
is reported of an item is settled by the answer to its own request. Main statement: the outcomes
stand in the order of the items, one for each, whatever becomes of the others.
-/

namespace ThreatIntel
namespace Staging

/-! ## What an item sends -/

/-- The bytes of members, if all of them are written in base 64. -/
def readBytes? (binary : List (String × String)) : Option (List (String × List UInt8)) :=
  binary.mapM fun (label, text) =>
    (Text.Base64.decode? (Text.trim text.toList)).map (label, ·)

/-- Members with others that hold bytes, in the usual base 64. -/
def withBytes (members : List (String × Json)) (bytes : List (String × List UInt8)) :
    List (String × Json) :=
  bytes.foldl (fun members (label, bytes) =>
    Members.insert label (.text (String.ofList (Text.Base64.encode bytes))) members) members

/-- The request for an item whose data are an object and whose bytes are written in base 64; others
have none. -/
def Item.request? (owner : Option String) (item : Item) : Option Request :=
  match item.data with
  | .object members => (readBytes? item.binary).map fun bytes =>
      .post item.resource.endpoint (.object (withBytes members bytes))
        (owner.toList.map fun owner => ("owner", owner))
  | _ => none

@[simp] theorem readBytes?_cons
    (label text : String)
    (binary : List (String × String)) :
    readBytes? ((label, text) :: binary) =
      (Text.Base64.decode? (Text.trim text.toList)).bind fun bytes =>
        (readBytes? binary).map ((label, bytes) :: ·) := by
  simp only [readBytes?, List.mapM_cons]
  cases Text.Base64.decode? (Text.trim text.toList) with
  | none => rfl
  | some bytes => exact Option.map_eq_bind.symm

/-- Bytes are read from members that are all written in base 64. -/
theorem isSome_readBytes?_iff (binary : List (String × String)) :
    (readBytes? binary).isSome = true ↔
      ∀ entry ∈ binary, (Text.Base64.decode? (Text.trim entry.2.toList)).isSome = true := by
  induction binary with
  | nil => simp [readBytes?]
  | cons entry binary inductionHypothesis =>
      rw [List.forall_mem_cons, ← inductionHypothesis, readBytes?_cons]
      cases Text.Base64.decode? (Text.trim entry.2.toList) with
      | none => simp
      | some bytes => simp

/-- An item can be sent: its data are an object, and its bytes are all written in base 64. -/
def Item.IsSendable (item : Item) : Prop :=
  (∃ members, item.data = .object members) ∧
    ∀ entry ∈ item.binary, (Text.Base64.decode? (Text.trim entry.2.toList)).isSome = true

/-- An item that can be sent has a request to add a record of its kind, and any other has none. -/
theorem Item.request?_cases (owner : Option String) (item : Item) :
    item.IsSendable ∧ (∃ body, item.request? owner = some (.post item.resource.endpoint body
      (owner.toList.map fun owner => ("owner", owner)))) ∨
    ¬ item.IsSendable ∧ item.request? owner = none := by
  rw [IsSendable, ← isSome_readBytes?_iff, request?]
  cases item.data with
  | object members =>
      cases readBytes? item.binary with
      | none => exact .inr ⟨by simp, rfl⟩
      | some bytes => exact .inl ⟨⟨⟨members, rfl⟩, rfl⟩, _, rfl⟩
  | null | boolean _ | number _ | text _ | array _ => exact .inr ⟨by simp, rfl⟩

/-- Setting members that hold bytes succeeds if all of them are written in base 64. -/
theorem setBinary_cases
    (binary : List (String × String))
    (members : List (String × Json)) :
    (∃ bytes, readBytes? binary = some bytes ∧
      setBinary members binary = .ok (withBytes members bytes)) ∨
    readBytes? binary = none ∧ ∃ error, setBinary members binary = .error error := by
  induction binary generalizing members with
  | nil => exact .inl ⟨[], rfl, rfl⟩
  | cons entry binary inductionHypothesis =>
      obtain ⟨label, text⟩ := entry
      cases decoded : Text.Base64.decode? (Text.trim text.toList) with
      | none =>
          refine .inr ⟨by rw [readBytes?_cons, decoded]; rfl,
            (Error.validation s!"Binary staging data for '{label}' is not valid base64").withCause,
            ?_⟩
          simp only [setBinary, decodeBinary, decoded]
          rfl
      | some bytes =>
          have set : setBinary members ((label, text) :: binary) =
              setBinary (Members.insert label
                (.text (String.ofList (Text.Base64.encode bytes))) members) binary := by
            simp only [setBinary, decodeBinary, decoded]
            rfl
          rw [set, readBytes?_cons, decoded, Option.bind_some]
          rcases inductionHypothesis _ with ⟨others, readOthers, setOthers⟩ | ⟨unread, failed⟩
          · exact .inl ⟨(label, bytes) :: others, by rw [readOthers]; rfl, setOthers⟩
          · exact .inr ⟨by rw [unread]; rfl, failed⟩

/-- The data sent for an item are those of its request; without one they are refused. -/
theorem Item.body_cases (owner : Option String) (item : Item) :
    (∃ body, item.body = .ok body ∧
      item.request? owner = some (.post item.resource.endpoint body
        (owner.toList.map fun owner => ("owner", owner)))) ∨
    (∃ error, item.body = .error error) ∧ item.request? owner = none := by
  unfold body request?
  cases item.data with
  | object members =>
      rcases setBinary_cases item.binary members with ⟨bytes, read, set⟩ | ⟨unread, error, failed⟩
      · exact .inl ⟨_, by simp only [set]; rfl, by simp only [read]; rfl⟩
      · exact .inr ⟨⟨error, by simp only [failed]; rfl⟩, by simp only [unread]; rfl⟩
  | null | boolean _ | number _ | text _ | array _ => exact .inr ⟨⟨_, rfl⟩, rfl⟩

/-! ## What becomes of one item -/

/-- The server answers a request with the members of a new record. -/
def Grants
    (server : Server)
    (log : List Request)
    (request : Request)
    (members : List (String × Json)) : Prop :=
  ∃ response, server.answer log request = .ok response ∧
    (200 ≤ response.status ∧ response.status < 300) ∧
    response.body.get? "data" = some (.object members)

/-- What is reported of an item that makes a request, or none, after a log of earlier requests. -/
inductive Reports (server : Server) (log : List Request) (request? : Option Request) :
    Outcome → Prop
  /-- The record has been made, and has the number that the server gave, if it is one. -/
  | created
      {outcome : Outcome}
      {request : Request}
      {members : List (String × Json)}
      (sent : request? = some request)
      (granted : Grants server log request members)
      (status : outcome.status = "created")
      (id : ∀ n : Int64, outcome.id? = some n ↔
        Members.get? "id" members = some (.whole n.toInt))
      (noMessage : outcome.message? = none) :
      Reports server log request? outcome
  /-- Nothing has been sent, or no record has been made of it. -/
  | failed
      {outcome : Outcome}
      (notGranted : ∀ request members, request? = some request →
        ¬ Grants server log request members)
      (status : outcome.status = "failed")
      (noId : outcome.id? = none)
      (message : ∃ text, outcome.message? = some text) :
      Reports server log request? outcome

/-- A word of 64 bits is read from its integer alone. -/
theorem readJson?_int64_eq_some_iff
    {json : Json}
    {n : Int64} :
    Codec.int64.readJson? json = some n ↔ json = .whole n.toInt := by
  have least : Int64.minValue.toInt = -2 ^ 63 := by decide
  have greatest : Int64.maxValue.toInt = 2 ^ 63 - 1 := by decide
  constructor
  · intro reads
    obtain ⟨value, read, rfl⟩ := Option.map_eq_some_iff.mp reads
    cases json with
    | number number =>
        cases number with
        | whole whole =>
            obtain ⟨fits, same⟩ : (Int64.minValue.toInt ≤ whole ∧ whole ≤ Int64.maxValue.toInt) ∧
                some whole = some value := Option.ite_none_right_eq_some.mp read
            cases same
            rw [least, greatest] at fits
            rw [Int64.toInt_ofInt_of_le fits.1 (by omega)]
            rfl
        | real real => cases read
    | null | boolean _ | text _ | array _ | object _ => cases read
  · rintro rfl
    have fits : Int64.minValue.toInt ≤ n.toInt ∧ n.toInt ≤ Int64.maxValue.toInt :=
      ⟨Int64.minValue_le_toInt n, Int64.toInt_le n⟩
    have read : (Codec.between Int64.minValue.toInt Int64.maxValue.toInt).read?
        (.ofJson (.whole n.toInt)) = some n.toInt := if_pos fits
    exact Option.map_eq_some_iff.mpr ⟨n.toInt, read, Int64.ofInt_toInt n⟩

/-- The number that is given to a record is the integer under `id`. -/
theorem givenId?_eq_some_iff
    {members : List (String × Json)}
    {n : Int64} :
    givenId? (.object members) = some n ↔
      Members.get? "id" members = some (.whole n.toInt) := by
  rw [givenId?, Option.bind_eq_some_iff]
  constructor
  · rintro ⟨json, stated, read⟩
    rw [readJson?_int64_eq_some_iff.mp read] at stated
    exact stated
  · intro stated
    exact ⟨_, stated, readJson?_int64_eq_some_iff.mpr rfl⟩

/-- An item that makes no request is refused. -/
theorem run_create_of_no_request
    {owner : Option String}
    {item : Item}
    (none : item.request? owner = none)
    (server : Server)
    (log : List Request) :
    ∃ error, (create server owner item).outcome.run log = (.error error, log) := by
  rcases item.body_cases owner with ⟨body, -, sends⟩ | ⟨⟨error, refused⟩, -⟩
  · cases none.symm.trans sends
  · exact ⟨error, by rw [create, Call.run_bind, refused]; rfl⟩

/-- An item that makes a request ends in what is read from its answer. -/
theorem run_create_of_request
    {owner : Option String}
    {item : Item}
    {request : Request}
    (sends : item.request? owner = some request)
    (server : Server)
    (log : List Request) :
    (create server owner item).outcome.run log =
      (server.answer log request >>= fun response => response.accepted request.path >>= fun body =>
        (Resource.answeredObject request.path body).map givenId?, log ++ [request]) := by
  rcases item.body_cases owner with ⟨body, written, sent⟩ | ⟨-, none⟩
  · cases sends.symm.trans sent
    have joined : create server owner item = (do
        let body ← item.body
        let answer ← server.ask (.post item.resource.endpoint body
          (owner.toList.map fun owner => ("owner", owner))) item.resource.endpoint
        ((Resource.answeredObject item.resource.endpoint answer).map givenId? :
          Except Error _)) := by
      refine congrArg (liftM item.body >>= ·) (funext fun body =>
        congrArg (server.ask _ _ >>= ·) (funext fun answer => ?_))
      cases Resource.answeredObject item.resource.endpoint answer <;> rfl
    rw [joined, Call.run_bind, written, Call.run_lift]
    exact Server.run_ask_read _ _ _ _ _
  · cases none.symm.trans sends

/-- The object under `data` is found, or there is none. -/
theorem answeredObject_cases (path : String) (body : Json) :
    (∃ members, body.get? "data" = some (.object members) ∧
      Resource.answeredObject path body = .ok (.object members)) ∨
    (∀ members, body.get? "data" ≠ some (.object members)) ∧
      ∃ error, Resource.answeredObject path body = .error error := by
  unfold Resource.answeredObject
  split
  · next members stated => exact .inl ⟨members, stated, rfl⟩
  · next other => exact .inr ⟨other, _, rfl⟩

/-- A request is granted and its answer read, or neither. -/
theorem grants_cases
    (server : Server)
    (log : List Request)
    (request : Request) :
    (∃ members, Grants server log request members ∧
      (server.answer log request >>= fun response => response.accepted request.path >>= fun body =>
        (Resource.answeredObject request.path body).map givenId?) =
          .ok (givenId? (.object members))) ∨
    (∀ members, ¬ Grants server log request members) ∧ ∃ error,
      (server.answer log request >>= fun response => response.accepted request.path >>= fun body =>
        (Resource.answeredObject request.path body).map givenId?) = .error error := by
  cases answered : server.answer log request with
  | error error =>
      refine .inr ⟨?_, error, rfl⟩
      rintro members ⟨response, same, -⟩
      cases answered.symm.trans same
  | ok response =>
      have grants_iff (members : List (String × Json)) : Grants server log request members ↔
          response.isSuccess = true ∧ response.body.get? "data" = some (.object members) := by
        simp [Grants, answered, Response.isSuccess]
      simp only [grants_iff, bind, Except.bind, Response.accepted]
      cases success : response.isSuccess with
      | false => exact .inr ⟨by simp, _, rfl⟩
      | true =>
          simp only [if_true, true_and]
          rcases answeredObject_cases request.path response.body with
            ⟨members, stated, read⟩ | ⟨other, error, fails⟩
          · exact .inl ⟨members, stated, by rw [read]; rfl⟩
          · exact .inr ⟨other, error, by rw [fails]; rfl⟩

/-- An item ends as the answer to its own request says. -/
theorem run_stage
    (server : Server)
    (owner : Option String)
    (item : Item)
    (log : List Request) :
    ∃ outcome, (stage server owner item).run log =
        (outcome, log ++ (item.request? owner).toList) ∧
      outcome.resource = item.resource ∧ outcome.owner = owner ∧
      Reports server log (item.request? owner) outcome := by
  have made (result : Except Error (Option Int64)) (later : List Request)
      (ran : (create server owner item).outcome.run log = (result, later)) :
      (stage server owner item).run log = (⟨item.resource, owner, result⟩, later) := by
    rw [stage, StateT.run_bind, ran]
    rfl
  cases sends : item.request? owner with
  | none =>
      obtain ⟨error, ran⟩ := run_create_of_no_request sends server log
      refine ⟨⟨item.resource, owner, .error error⟩, ?_, rfl, rfl, .failed nofun rfl rfl ⟨_, rfl⟩⟩
      exact (made _ _ ran).trans (congrArg (_, ·) (List.append_nil log).symm)
  | some request =>
      have ran := made _ _ (run_create_of_request sends server log)
      rcases grants_cases server log request with ⟨members, granted, read⟩ | ⟨refused, error, read⟩
      · rw [read] at ran
        exact ⟨_, ran, rfl, rfl, .created rfl granted rfl (fun n => givenId?_eq_some_iff) rfl⟩
      · rw [read] at ran
        refine ⟨_, ran, rfl, rfl, .failed ?_ rfl rfl ⟨_, rfl⟩⟩
        rintro _ members ⟨⟩
        exact refused members

/-! ## What becomes of all items -/

/-- A report on items that are sent one after the other: one outcome for each, in their order. -/
structure Reported
    (server : Server)
    (owner : Option String)
    (items : List Item)
    (log : List Request)
    (outcomes : List Outcome)
    (later : List Request) : Prop where
  /-- There are as many outcomes as items. -/
  length : outcomes.length = items.length
  /-- The requests of the items have been sent once each, in their order, and nothing else. -/
  sent : later = log ++ items.filterMap (Item.request? owner)
  /-- An item that can be sent has a request to add a record of its kind, and any other has none. -/
  requests : ∀ item ∈ items,
    item.IsSendable ∧ (∃ body, item.request? owner = some (.post item.resource.endpoint body
      (owner.toList.map fun owner => ("owner", owner)))) ∨
    ¬ item.IsSendable ∧ item.request? owner = none
  /-- Each outcome is the one of the item in its place, settled by the answer to its own request. -/
  each : ∀ (index : Nat) (item : Item), items[index]? = some item →
    ∃ outcome, outcomes[index]? = some outcome ∧ outcome.resource = item.resource ∧
      outcome.owner = owner ∧
      Reports server (log ++ (items.take index).filterMap (Item.request? owner))
        (item.request? owner) outcome

/-- Items sent one after the other are reported as they are, whatever becomes of the others. -/
theorem reported_stageAll
    (server : Server)
    (owner : Option String)
    (items : List Item)
    (log : List Request) :
    Reported server owner items log ((stageAll server owner items).run log).1
      ((stageAll server owner items).run log).2 := by
  induction items generalizing log with
  | nil => exact ⟨rfl, (List.append_nil log).symm, nofun, nofun⟩
  | cons item items inductionHypothesis =>
      obtain ⟨outcome, ran, resource, owned, reports⟩ := run_stage server owner item log
      have others := inductionHypothesis (log ++ (item.request? owner).toList)
      have split : (stageAll server owner (item :: items)).run log =
          (outcome :: ((stageAll server owner items).run
            (log ++ (item.request? owner).toList)).1,
            ((stageAll server owner items).run (log ++ (item.request? owner).toList)).2) := by
        rw [stageAll, StateT.run_bind, ran]
        rfl
      have requests (items : List Item) : (log ++ (item.request? owner).toList) ++
          items.filterMap (Item.request? owner) =
            log ++ (item :: items).filterMap (Item.request? owner) := by
        cases sends : item.request? owner <;> simp [sends]
      rw [split]
      refine ⟨congrArg (· + 1) others.length, others.sent.trans (requests items),
        fun item _ => item.request?_cases owner, ?_⟩
      intro index other found
      cases index with
      | zero =>
          cases found
          exact ⟨outcome, rfl, resource, owned, by simpa using reports⟩
      | succ index =>
          obtain ⟨outcome, stands, resource, owned, reports⟩ := others.each index other found
          rw [requests] at reports
          exact ⟨outcome, stands, resource, owned, reports⟩

end Staging
end ThreatIntel
