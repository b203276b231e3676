import ThreatIntel.Exchange.Server
import ThreatIntel.Record.Entity
import ThreatIntel.Text.Decimal

/-!
# Records on the server

Calls that read, add, replace and remove one record. A record that has a number is never added, and
one without a number never replaced; such calls send nothing.
-/

namespace ThreatIntel
namespace Resource

/-- Where one record is found. -/
def itemPath (resource : Resource) (id : Int64) : String :=
  resource.endpoint ++ "/" ++ String.ofList (Text.intDigits id.toInt)

/-- The object under `data` in the answer to a call. -/
def answeredObject (call : String) (body : Json) : Except Error Json :=
  match body.get? "data" with
  | some (.object members) => .ok (.object members)
  | _ => .error (.decode s!"{call} response has no 'data' object")

/-- Send a request, and read the record in its answer. -/
def askRecord (server : Server) (resource : Resource) (request : Request) :
    Call resource.Record := do
  let body ← server.ask request request.path
  let data ← answeredObject request.path body
  resource.readRecord data

/-- Read the record with a number, with extra fields. -/
def fetchRecord (server : Server) (resource : Resource) (id : Int64) (fields : List String) :
    Call resource.Record :=
  askRecord server resource
    (.get (resource.itemPath id) (fields.map fun field => ("fields", field)))

/-- Read the record with a number, for those who learn the kind only when they ask. -/
def fetchEntity (server : Server) (resource : Resource) (id : Int64) (fields : List String) :
    Call Entity := do
  let path := resource.itemPath id
  let body ← server.ask (.get path (fields.map fun field => ("fields", field))) path
  let data ← answeredObject path body
  Entity.read resource data

/-- Add a record, on behalf of an owner if one is given. -/
def createRecord (server : Server) (resource : Resource) (record : resource.Record)
    (owner : Option String) : Call resource.Record :=
  if record.id.isSome then
    throw (.validation s!"{resource.title} already has an id; use update instead")
  else
    askRecord server resource (.post resource.endpoint record.toJson
      (owner.toList.map fun owner => ("owner", owner)))

/-- Replace a record. -/
def updateRecord (server : Server) (resource : Resource) (record : resource.Record) :
    Call resource.Record :=
  match record.id with
  | none => throw (.validation s!"{resource.title} has no id; use create instead")
  | some id => askRecord server resource (.put (resource.itemPath id) record.toJson)

/-- Remove the record with a number. -/
def deleteRecord (server : Server) (resource : Resource) (id : Int64) : Call Unit := do
  let path := resource.itemPath id
  let _ ← server.ask (.delete path) path
  pure ()

/-- The calls on a kind of record in words, for those who look for a fault. -/
def describeApi (resource : Resource) : String :=
  "ResourceApi \x7b kind: " ++ resource.joinedTitle ++ " \x7d"

end Resource
end ThreatIntel
