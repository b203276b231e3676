import ThreatIntel.Exchange.Server
import ThreatIntel.Json.Reader
import ThreatIntel.Text.Blank
import ThreatIntel.Text.Mark
import ThreatIntel.Url.Reader

/-!
# Networks

What carries requests to a machine and brings back a status with a text, or nothing. The text of a
response should be JSON; a failure status may come with any text.
-/

namespace ThreatIntel

/-- A request as it leaves. -/
structure Dispatch where
  /-- What is done. -/
  method : Method
  /-- The full address. -/
  url : Url
  /-- The headers that prove who asks. -/
  headers : List (String × String)
  /-- The data sent along. -/
  body : Option Json
  deriving DecidableEq

/-- What comes back. -/
inductive Reply where
  /-- Nothing. -/
  | lost
  /-- A status, and a text that breaks off. -/
  | broken (status : Nat)
  /-- A status with its text. -/
  | received (status : Nat) (text : String)
  deriving DecidableEq, Repr

/-- A network. -/
structure Network where
  /-- The time at which a request leaves after a log of earlier ones, in seconds. -/
  time : List Request → Int64
  /-- What comes back after a log of earlier requests. -/
  reply : List Request → Dispatch → Reply

namespace Network

/-- A network that reaches nobody. -/
def unreachable : Network where
  time _ := 0
  reply _ _ := .lost

end Network

namespace Reply

/-- The data of a text, if it is JSON; a blank text is null. -/
def data? (cs : List Char) : Option Json :=
  if cs.all Text.isBlank then some .null else Json.ofText? (String.ofList cs)

/-- The response to a request that a status and a text make up. -/
def response (request : Request) (status : Nat) (text : String) : Except Error Response :=
  let cs := Text.unmarked text.toList
  match data? cs with
  | some body => .ok ⟨status, body⟩
  | none =>
      if 200 ≤ status ∧ status < 300 then
        .error (Error.decode s!"Response from {request.path} is not JSON").withCause
      else .ok ⟨status, .text (String.ofList cs)⟩

/-- The response to a request that a reply stands for. -/
def read (request : Request) : Reply → Except Error Response
  | lost => .error (Error.transport s!"{request.method.token} {request.path} failed").withCause
  | broken _ => .error (Error.transport "Failed to read response body").withCause
  | received status text => response request status text

/-- A text with a failure status always makes a response. -/
theorem response_of_failure
    {status : Nat}
    (failure : ¬(200 ≤ status ∧ status < 300))
    (request : Request)
    (text : String) :
    ∃ body, response request status text = .ok ⟨status, body⟩ := by
  unfold response
  cases fits : data? (Text.unmarked text.toList) with
  | some body => exact ⟨body, by simp only [fits]⟩
  | none => exact ⟨_, by simp only [fits, failure, if_false]; rfl⟩

end Reply
end ThreatIntel
