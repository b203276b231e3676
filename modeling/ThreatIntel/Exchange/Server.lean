import ThreatIntel.Exchange.Basic

/-!
# Servers

The server as its clients see it: what it answers to a request may depend on all requests before it.
A call is a computation that sends requests, keeps their log, and ends in a value or an error.
-/

namespace ThreatIntel

/-- What answers requests. -/
structure Server where
  /-- The answer to a request after a log of earlier ones. -/
  answer : List Request → Request → Except Error Response

/-- A computation over a log of requests. -/
abbrev Session (α : Type) := StateM (List Request) α

/-- A computation that may end in an error. -/
abbrev Call (α : Type) := ExceptT Error (StateM (List Request)) α

namespace Call

/-- Run a call after a log of requests. -/
def outcome (call : Call α) : Session (Except Error α) :=
  ExceptT.run call

end Call

namespace Server

/-- Send a request, which then stands in the log whatever the answer. -/
def send (server : Server) (request : Request) : Call Response :=
  fun log => (server.answer log request, log ++ [request])

/-- Send a request, and take the data of its successful answer; `call` names the request in errors.
-/
def ask (server : Server) (request : Request) (call : String) : Call Json := do
  let response ← server.send request
  response.accepted call

/-- The error of a server that has said all it had to say. -/
def exhausted : Error := .internal "no scripted response left"

/-- A server that gives prepared answers, one to each request, and then none. -/
def ofAnswers (answers : List (Except Error Response)) : Server where
  answer log _ := answers.getD log.length (.error exhausted)

end Server
end ThreatIntel
