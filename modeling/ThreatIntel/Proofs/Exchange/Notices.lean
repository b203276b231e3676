import ThreatIntel.Notice
import ThreatIntel.Proofs.Exchange.Calls
import ThreatIntel.Proofs.Json.Objects

/-!
# Notices in a row

What a notifier writes is settled by the message and by the audience that was chosen last. Main
statement: in every row of choices, looks and messages each body shows the last choice and nothing
of the earlier ones, and without a choice nothing is sent.
-/

namespace ThreatIntel

/-! ## Bodies -/

namespace Address

/-- A body names the type and the priority of an address and the message, says whether everybody
receives it, names the recipients if there are some, and holds nothing else. -/
structure Shows (address : Address) (message : String) (body : Json) : Prop where
  type : body.get? "notificationType" = some (.text address.type)
  priority : body.get? "priority" = some (.text address.priority.name)
  message : body.get? "message" = some (.text message)
  organization : body.get? "isOrganization" =
    some (.boolean (address.audience = .organization))
  recipients : ∀ value, body.get? "recipients" = some value ↔
    ∃ names, address.audience = .recipients names ∧ names ≠ "" ∧ value = .text names
  others : ∀ key, key ∉ ["notificationType", "priority", "message", "isOrganization",
    "recipients"] → body.get? key = none

/-- Recipients are named where there are some. -/
theorem recipients?_eq_some_iff
    {address : Address}
    {names : String} :
    address.recipients? = some names ↔ address.audience = .recipients names ∧ names ≠ "" := by
  unfold recipients?
  cases address.audience with
  | organization => simp
  | recipients given =>
      simp only [String.isEmpty_iff, Option.ite_none_left_eq_some, Option.some.injEq,
        Audience.recipients.injEq]
      constructor
      · rintro ⟨notEmpty, rfl⟩
        exact ⟨rfl, notEmpty⟩
      · rintro ⟨rfl, notEmpty⟩
        exact ⟨notEmpty, rfl⟩

/-- What stands under each key of a body. -/
theorem get?_body
    (address : Address)
    (message key : String) :
    (address.body message).get? key =
      if key = "notificationType" then some (.text address.type)
      else if key = "priority" then some (.text address.priority.name)
      else if key = "isOrganization" then some (.boolean (address.audience = .organization))
      else if key = "message" then some (.text message)
      else if key = "recipients" then address.recipients?.map .text
      else none := by
  have distinct := (Json.keys_stated_sublist [
    ("notificationType", some (.text address.type)),
    ("priority", some (Priority.codec.write address.priority)),
    ("isOrganization", some (.boolean (address.audience = .organization))),
    ("message", some (.text message)),
    ("recipients", address.recipients?.map .text)]).nodup (by simp)
  rw [body, Json.ofOptions_eq_object]
  refine (Members.get?_ofList distinct key).trans ?_
  cases address.recipients? <;> simp [Json.stated, Members.get?, Priority.codec, Codec.names]

/-- What is written under an address shows the address. -/
theorem shows_body
    (address : Address)
    (message : String) :
    address.Shows message (address.body message) where
  type := by simp [get?_body]
  priority := by simp [get?_body]
  message := by simp [get?_body]
  organization := by simp [get?_body]
  recipients value := by
    have named : (address.body message).get? "recipients" = address.recipients?.map .text := by
      simp [get?_body]
    rw [named, Option.map_eq_some_iff]
    simp only [recipients?_eq_some_iff, and_assoc, eq_comm (a := value)]
  others key other := by
    simp only [List.mem_cons, List.not_mem_nil, or_false, not_or] at other
    obtain ⟨notType, notPriority, notMessage, notOrganization, notRecipients⟩ := other
    rw [get?_body, if_neg notType, if_neg notPriority, if_neg notOrganization, if_neg notMessage,
      if_neg notRecipients]

end Address

/-! ## Steps -/

namespace Notifier

/-- Something that is done with a notifier. -/
inductive Step where
  /-- Choose some users. -/
  | recipients (type names : String) (priority : Priority)
  /-- Choose everybody. -/
  | organization (type : String) (priority : Priority)
  /-- Look at what would be sent. -/
  | body (message : String)
  /-- Send a message. -/
  | send (message : String)
  deriving DecidableEq

namespace Step

/-- The address that a step chooses. -/
def address? : Step → Option Address
  | recipients type names priority => some ⟨type, priority, .recipients names⟩
  | organization type priority => some ⟨type, priority, .organization⟩
  | body _ | send _ => none

/-- The notifier after a step. -/
def next (notifier : Notifier) : Step → Notifier
  | recipients type names priority => notifier.toRecipients type names priority
  | organization type priority => notifier.toOrganization type priority
  | body _ | send _ => notifier

/-- Take a step; a choice gives nothing back. -/
def run (server : Server) (notifier : Notifier) : Step → Session (Option (Except Error Json))
  | recipients _ _ _ | organization _ _ => pure none
  | body message => pure (some (notifier.body message))
  | send message => some <$> (notifier.send server message).outcome

/-- A choice replaces the address as a whole, and any other step keeps it. -/
theorem address?_next
    (notifier : Notifier)
    (step : Step) :
    (step.next notifier).address? = step.address?.or notifier.address? := by
  cases step <;> rfl

end Step

/-- The address that was chosen last in a row of steps. -/
def lastAddress? (steps : List Step) : Option Address :=
  (steps.filterMap Step.address?).getLast?

theorem lastAddress?_append
    (earlier later : List Step) :
    lastAddress? (earlier ++ later) = (lastAddress? later).or (lastAddress? earlier) := by
  rw [lastAddress?, List.filterMap_append, List.getLast?_append]
  rfl

theorem lastAddress?_singleton (step : Step) : lastAddress? [step] = step.address? := by
  rw [lastAddress?, List.filterMap_cons]
  cases step.address? <;> rfl

/-- As long as nothing is chosen the last choice stays. -/
theorem lastAddress?_take_of_quiet
    {steps : List Step}
    {j k : Nat}
    (before : j ≤ k)
    (quiet : ∀ step ∈ (steps.take k).drop j, step.address? = none) :
    lastAddress? (steps.take k) = lastAddress? (steps.take j) := by
  have nothing : lastAddress? ((steps.take k).drop j) = none := by
    rw [lastAddress?, List.filterMap_eq_nil_iff.mpr quiet, List.getLast?_nil]
  have shorter : (steps.take k).take j = steps.take j := by
    rw [List.take_take, Nat.min_eq_left before]
  rw [← List.take_append_drop j (steps.take k), lastAddress?_append, nothing, Option.none_or,
    shorter]

/-- A step that has been taken. -/
structure Event where
  /-- What was done. -/
  step : Step
  /-- What it gave back. -/
  result : Option (Except Error Json)
  /-- The requests that it sent. -/
  sent : List Request

/-- Take steps one after the other, and write down what happens. -/
def observe (server : Server) (notifier : Notifier) : List Step → Session (List Event)
  | [] => pure []
  | step :: steps => do
      let before ← get
      let result ← step.run server notifier
      let after ← get
      let events ← observe server (step.next notifier) steps
      pure (⟨step, result, after.drop before.length⟩ :: events)

/-- What the answer to a message is taken for: one that was refused is handed back like any
other. -/
def read (response : Response) : Except Error Json :=
  if response.status = 400 then .ok response.body else response.accepted path

/-- What happens at one step, after an address has been chosen and requests have been sent. -/
inductive Event.Lawful
    (server : Server)
    (chosen : Option Address)
    (log : List Request) : Event → Prop
  /-- A choice gives nothing back and sends nothing. -/
  | choice
      {step : Step}
      (chooses : step.address?.isSome) :
      Lawful server chosen log ⟨step, none, []⟩
  /-- A look gives back the body under the address chosen last. -/
  | body
      {message : String}
      {address : Address}
      (last : chosen = some address) :
      Lawful server chosen log ⟨.body message, some (.ok (address.body message)), []⟩
  /-- A message sends that body, once, and gives back what the answer is taken for. -/
  | send
      {message : String}
      {address : Address}
      (last : chosen = some address) :
      Lawful server chosen log ⟨.send message,
        some (server.answer log (.post path (address.body message)) >>= read),
        [.post path (address.body message)]⟩
  /-- Without an address the input is refused, and nothing is sent. -/
  | refused
      {step : Step}
      {error : Error}
      (chooses : step.address? = none)
      (unchosen : chosen = none)
      (kind : error.kind = .validation) :
      Lawful server chosen log ⟨step, some (.error error), []⟩

/-- What is sent for a message is settled by the address chosen last. -/
theorem Event.Lawful.sent_of_send
    {server : Server}
    {chosen : Option Address}
    {log : List Request}
    {event : Event}
    {message : String}
    (lawful : event.Lawful server chosen log)
    (sends : event.step = .send message) :
    event.sent = (chosen.map fun address => .post path (address.body message)).toList := by
  cases lawful with
  | choice chooses =>
      obtain rfl : _ = Step.send message := sends
      cases chooses
  | body => cases sends
  | send last =>
      cases sends
      rw [last]
      rfl
  | refused _ unchosen =>
      rw [unchosen]
      rfl

/-- Once there is an address, every message is written under it. -/
theorem body_of_chosen
    {notifier : Notifier}
    {address : Address}
    (chosen : notifier.address? = some address)
    (message : String) :
    notifier.body message = .ok (address.body message) := by
  rw [body, chosen]

/-- Without an address every message is refused. -/
theorem refused_body
    {notifier : Notifier}
    (unchosen : notifier.address? = none)
    (message : String) :
    ∃ error, notifier.body message = .error error ∧ error.kind = .validation := by
  rw [body, unchosen]
  exact ⟨_, rfl, rfl⟩

section Runs

variable (server : Server)

/-- A message that is written is sent by one request. -/
theorem run_send
    {notifier : Notifier}
    {message : String}
    {body : Json}
    (written : notifier.body message = .ok body)
    (log : List Request) :
    (notifier.send server message).outcome.run log =
      (server.answer log (.post path body) >>= read, log ++ [.post path body]) := by
  simp only [send, Call.run_bind, Call.run_lift, written, Server.run_send]
  cases server.answer log (.post path body) with
  | error error => rfl
  | ok response =>
      change _ = (read response, _)
      by_cases handedBack : response.status = 400
      · simp only [read, handedBack, if_true]
        rfl
      · simp only [read, handedBack, if_false, Call.run_lift]

/-- A message that is refused is not sent. -/
theorem run_send_of_refused
    {notifier : Notifier}
    {message : String}
    {error : Error}
    (refused : notifier.body message = .error error)
    (log : List Request) :
    (notifier.send server message).outcome.run log = (.error error, log) := by
  rw [send, Call.run_bind, Call.run_lift, refused]

/-- One step does what the address chosen last asks for. -/
theorem lawful_run
    (notifier : Notifier)
    (step : Step)
    (log : List Request) :
    ∃ result sent, (step.run server notifier).run log = (result, log ++ sent) ∧
      Event.Lawful server notifier.address? log ⟨step, result, sent⟩ := by
  have unchanged : log = log ++ [] := (List.append_nil log).symm
  cases step with
  | recipients type names priority | organization type priority =>
      exact ⟨none, [], congrArg _ unchanged, .choice rfl⟩
  | body message =>
      refine ⟨some (notifier.body message), [], congrArg _ unchanged, ?_⟩
      cases chosen : notifier.address? with
      | some address =>
          rw [body_of_chosen chosen]
          exact .body rfl
      | none =>
          obtain ⟨error, refused, kind⟩ := refused_body chosen message
          rw [refused]
          exact .refused rfl rfl kind
  | send message =>
      rw [Step.run, StateT.run_map]
      cases chosen : notifier.address? with
      | some address =>
          rw [run_send server (body_of_chosen chosen message)]
          exact ⟨_, _, rfl, .send rfl⟩
      | none =>
          obtain ⟨error, refused, kind⟩ := refused_body chosen message
          rw [run_send_of_refused server refused]
          exact ⟨_, [], congrArg _ unchanged, .refused rfl rfl kind⟩

theorem run_observe_cons
    (notifier : Notifier)
    (step : Step)
    (steps : List Step)
    (log : List Request) :
    (observe server notifier (step :: steps)).run log =
      let done := (step.run server notifier).run log
      let rest := (observe server (step.next notifier) steps).run done.2
      (⟨step, done.1, done.2.drop log.length⟩ :: rest.1, rest.2) := rfl

/-- Every step of a row is lawful under the address that was chosen last before it, be it in the row
or before the row. -/
theorem lawful_observe
    (notifier : Notifier)
    (steps : List Step)
    (log : List Request) :
    let observed := (observe server notifier steps).run log
    observed.1.map (·.step) = steps ∧
    observed.2 = log ++ observed.1.flatMap (·.sent) ∧
    ∀ (k : Nat) (event : Event), observed.1[k]? = some event →
      event.Lawful server ((lastAddress? (steps.take k)).or notifier.address?)
        (log ++ (observed.1.take k).flatMap (·.sent)) := by
  induction steps generalizing notifier log with
  | nil => exact ⟨rfl, (List.append_nil log).symm, nofun⟩
  | cons step steps inductionHypothesis =>
      obtain ⟨result, sent, ran, lawful⟩ := lawful_run server notifier step log
      obtain ⟨each, all, later⟩ := inductionHypothesis (step.next notifier) (log ++ sent)
      have observed : (observe server notifier (step :: steps)).run log =
          let rest := (observe server (step.next notifier) steps).run (log ++ sent)
          (⟨step, result, sent⟩ :: rest.1, rest.2) := by
        simp only [run_observe_cons, ran, List.drop_left]
      rw [observed]
      refine ⟨congrArg (step :: ·) each, ?_, ?_⟩
      · simpa using all
      · intro k event found
        cases k with
        | zero =>
            cases found
            simpa [lastAddress?] using lawful
        | succ k =>
            have next := later k event found
            rw [Step.address?_next, ← Option.or_assoc, ← lastAddress?_singleton,
              ← lastAddress?_append] at next
            simpa using next

end Runs

/-- Whatever is done with a new notifier: a body shows the address chosen last before it, and before
one is chosen bodies and messages are refused. What has been sent is the body of each message that
was not, in order, and as long as no other address is chosen a message has the same body again. -/
theorem last_audience_holds
    (server : Server)
    (steps : List Step)
    (log : List Request) :
    let observed := (observe server {} steps).run log
    observed.1.map (·.step) = steps ∧
    observed.2 = log ++ observed.1.flatMap (·.sent) ∧
    (∀ (k : Nat) (event : Event), observed.1[k]? = some event →
      event.Lawful server (lastAddress? (steps.take k))
        (log ++ (observed.1.take k).flatMap (·.sent))) ∧
    (∀ (j k : Nat) (first second : Event), j ≤ k →
      (∀ step ∈ (steps.take k).drop j, step.address? = none) →
      observed.1[j]? = some first → observed.1[k]? = some second →
      ∀ message, first.step = .send message → second.step = .send message →
        first.sent = second.sent) ∧
    ∀ (address : Address) (message : String), address.Shows message (address.body message) := by
  intro observed
  obtain ⟨each, all, lawful⟩ := lawful_observe server {} steps log
  have lawful : ∀ (k : Nat) (event : Event), observed.1[k]? = some event →
      event.Lawful server (lastAddress? (steps.take k))
        (log ++ (observed.1.take k).flatMap (·.sent)) := by
    intro k event found
    have holds := lawful k event found
    rwa [show Notifier.address? {} = none from rfl, Option.or_none] at holds
  refine ⟨each, all, lawful, ?_, Address.shows_body⟩
  intro j k first second before quiet foundFirst foundSecond message sendsFirst sendsSecond
  rw [(lawful j first foundFirst).sent_of_send sendsFirst,
    (lawful k second foundSecond).sent_of_send sendsSecond, lastAddress?_take_of_quiet before quiet]

theorem last_audience_holds_of_changes :
    let server := Server.ofAnswers [.ok ⟨400, .text "unknown"⟩, .ok ⟨200, .null⟩]
    let steps : List Step := [
      .send "early",
      .recipients "triage" "ann" .high,
      .send "hello",
      .organization "news" .low,
      .recipients "news" "" .medium,
      .send "again",
      .body "other",
      .send "again"]
    let observed := (observe server {} steps).run []
    let hello : Json := .object [
      ("isOrganization", .boolean false),
      ("message", .text "hello"),
      ("notificationType", .text "triage"),
      ("priority", .text "High"),
      ("recipients", .text "ann")]
    let again : Json := .object [
      ("isOrganization", .boolean false),
      ("message", .text "again"),
      ("notificationType", .text "news"),
      ("priority", .text "Medium")]
    observed.2 = [.post path hello, .post path again, .post path again] ∧
      observed.1[5]?.map (·.sent) = observed.1[7]?.map (·.sent) := by
  intro server steps observed hello again
  obtain ⟨-, -, -, same, -⟩ := last_audience_holds server steps []
  have first : observed.1[5]? = some ⟨.send "again", some (.ok .null), [.post path again]⟩ := by
    rfl
  have second : observed.1[7]? = some ⟨.send "again", some (.error Server.exhausted),
      [.post path again]⟩ := by
    rfl
  refine ⟨by rfl, ?_⟩
  rw [first, second]
  exact congrArg some (same 5 7 _ _ (by decide) (by decide) first second "again" rfl rfl)

end Notifier
end ThreatIntel
