import ThreatIntel.Exchange.Server
import ThreatIntel.Json.Codec

/-!
# Notices

Messages that the server passes on to its users: either to some of them, named in one text, or to
the whole organization. The audience is chosen before a message is sent, and the last choice holds.
-/

namespace ThreatIntel

/-- How urgent a message is. -/
inductive Priority where
  /-- Not urgent. -/
  | low
  /-- Somewhat urgent. -/
  | medium
  /-- Urgent. -/
  | high
  deriving DecidableEq, Repr

namespace Priority

/-- Every priority. -/
def all : List Priority := [low, medium, high]

/-- The name of a priority. -/
def name : Priority → String
  | low => "Low"
  | medium => "Medium"
  | high => "High"

/-- The priority of a message for which none is chosen. -/
def default : Priority := low

/-- The name in lower case. -/
def spelling : Priority → String
  | low => "low"
  | medium => "medium"
  | high => "high"

/-- Read the name of a priority in any case. -/
def ofSpelling (spelling : String) : Except Error Priority :=
  match all.find? fun priority => priority.spelling.toList == spelling.toList.map Char.toLower with
  | some priority => .ok priority
  | none => .error (.validation s!"Unknown priority: '{spelling}'")

/-- How a priority is written. -/
def codec : Codec Priority := .names all name

end Priority

/-- Who receives a message. -/
inductive Audience where
  /-- The users that a text names. -/
  | recipients (names : String)
  /-- Everybody. -/
  | organization
  deriving DecidableEq, Repr

/-- How a message is addressed. -/
structure Address where
  /-- The type of message. -/
  type : String
  /-- How urgent it is. -/
  priority : Priority
  /-- Who receives it. -/
  audience : Audience
  deriving DecidableEq, Repr

namespace Address

/-- The names of the recipients, unless there are none. -/
def recipients? (address : Address) : Option String :=
  match address.audience with
  | .recipients names => if names.isEmpty then none else some names
  | .organization => none

/-- A message under an address. -/
def body (address : Address) (message : String) : Json :=
  .ofOptions [
    ("notificationType", some (.text address.type)),
    ("priority", some (Priority.codec.write address.priority)),
    ("isOrganization", some (.boolean (address.audience = .organization))),
    ("message", some (.text message)),
    ("recipients", address.recipients?.map .text)]

end Address

/-- Sends messages to the audience chosen last, if one has been chosen. -/
structure Notifier where
  /-- The type of the messages. -/
  type : Option String := none
  /-- How urgent they are. -/
  priority : Priority := .default
  /-- Who receives them. -/
  audience : Option Audience := none
  deriving DecidableEq

namespace Notifier

/-- Where messages are sent. -/
def path : String := "/v2/notifications"

/-- Choose some users. -/
def toRecipients (notifier : Notifier) (type names : String) (priority : Priority) : Notifier :=
  { notifier with type := some type, priority, audience := some (.recipients names) }

/-- Choose everybody. -/
def toOrganization (notifier : Notifier) (type : String) (priority : Priority) : Notifier :=
  { notifier with type := some type, priority, audience := some .organization }

/-- The address of the messages; there is none before an audience has been chosen. -/
def address? (notifier : Notifier) : Option Address :=
  match notifier.type, notifier.audience with
  | some type, some audience => some ⟨type, notifier.priority, audience⟩
  | _, _ => none

/-- What would be sent. -/
def body (notifier : Notifier) (message : String) : Except Error Json :=
  match notifier.address? with
  | some address => .ok (address.body message)
  | none => .error (.validation "Call recipients() or org() before sending a notification")

/-- Send a message; the answer to one that was refused is handed back like any other. -/
def send (server : Server) (notifier : Notifier) (message : String) : Call Json := do
  let body ← notifier.body message
  let response ← server.send (.post path body)
  if response.status = 400 then pure response.body
  else response.accepted path

end Notifier
end ThreatIntel
