import ThreatIntel.Error
import ThreatIntel.Json.Printer

/-!
# Requests and responses

One exchange with the server: what is asked and what is answered, before any address or signature is
added.
-/

namespace ThreatIntel

/-- What a request does to a resource. -/
inductive Method where
  /-- Read it. -/
  | get
  /-- Add to it. -/
  | post
  /-- Replace it. -/
  | put
  /-- Remove it. -/
  | delete
  deriving DecidableEq, Repr

namespace Method

/-- Every method. -/
def all : List Method := [get, post, put, delete]

/-- The word that stands in a request. -/
def token : Method → String
  | get => "GET"
  | post => "POST"
  | put => "PUT"
  | delete => "DELETE"

/-- The method that a word stands for. -/
def ofToken? (token : String) : Option Method :=
  all.find? fun method => method.token == token

@[simp] theorem ofToken?_token (method : Method) : ofToken? method.token = some method := by
  cases method <;> decide

end Method

/-- A request. -/
structure Request where
  /-- What is done. -/
  method : Method
  /-- To what, below the base address. -/
  path : String
  /-- Named values that narrow it down, in order; a name may occur again. -/
  query : List (String × String) := []
  /-- The data sent along. -/
  body : Option Json := none
  deriving DecidableEq

namespace Request

/-- A request to read. -/
def get (path : String) (query : List (String × String) := []) : Request :=
  ⟨.get, path, query, none⟩

/-- A request to add. -/
def post (path : String) (body : Json) (query : List (String × String) := []) : Request :=
  ⟨.post, path, query, some body⟩

/-- A request to replace. -/
def put (path : String) (body : Json) (query : List (String × String) := []) : Request :=
  ⟨.put, path, query, some body⟩

/-- A request to remove. -/
def delete (path : String) : Request :=
  ⟨.delete, path, [], none⟩

/-- The first value under a name. -/
def queryValue? (request : Request) (name : String) : Option String :=
  request.query.lookup name

end Request

/-- A response. -/
structure Response where
  /-- The status number. -/
  status : Nat
  /-- The data received. -/
  body : Json
  deriving DecidableEq

namespace Response

/-- Whether the status reports success. -/
def isSuccess (response : Response) : Bool :=
  200 ≤ response.status && response.status < 300

/-- What a response says about a failure: its message, or all of its data. -/
def complaint (response : Response) : String :=
  match response.body.get? "message" with
  | some (.text message) => message
  | _ => response.body.render

/-- The kind of error that a failure status stands for. -/
def failureKind (status : Nat) : ErrorKind :=
  if status = 401 ∨ status = 403 then .authentication
  else if status = 404 then .notFound
  else .transport

/-- The data of a successful response to a call; a failure status is an error of that call. -/
def accepted (response : Response) (call : String) : Except Error Json :=
  if response.isSuccess then .ok response.body
  else .error ⟨failureKind response.status,
    s!"{call} returned {response.status}: {response.complaint}", false⟩

end Response
end ThreatIntel
