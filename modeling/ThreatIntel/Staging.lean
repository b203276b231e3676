import ThreatIntel.Client
import ThreatIntel.Files
import ThreatIntel.Json.Reader
import ThreatIntel.Record.Remote
import ThreatIntel.Text.Base64
import ThreatIntel.Text.Blank

/-!
# Staging

Test data from files, put on the server record by record. A stage file holds one item or a list of
items. Each item is sent on its own, whatever becomes of the others; one whose data are no object,
or whose bytes are not written in base 64, is not sent at all.
-/

namespace ThreatIntel
namespace Staging

/-- Data for one record. -/
structure Item where
  /-- The kind of record. -/
  resource : Resource
  /-- The members of the record. -/
  data : Json
  /-- Members that hold bytes in base 64. -/
  binary : List (String × String)
  deriving DecidableEq

/-- Kinds of records, read from any spelling. -/
def resourceCodec : Codec Resource where
  write resource := .text resource.name
  read? document := (Codec.text.read? document).bind Resource.ofSpelling?

namespace Item

/-- The members of an item. -/
def form : Form Item Item :=
  Form.build Item.mk
    |>.field "type" (·.resource) (.required resourceCodec)
    |>.field "data" (·.data) (.required .json)
    |>.field "binary" (·.binary) (.defaulted (.dictionary .text) [])

/-- How an item is written. -/
def codec : Codec Item := form.codec

end Item

/-- The bytes of a text in base 64, blanks around it aside; `label` names the text in errors. -/
def decodeBinary (label text : String) : Except Error (List UInt8) :=
  match Text.Base64.decode? (Text.trim text.toList) with
  | some bytes => .ok bytes
  | none => .error
      (Error.validation s!"Binary staging data for '{label}' is not valid base64").withCause

/-- Set the members that hold bytes. -/
def setBinary (members : List (String × Json)) :
    List (String × String) → Except Error (List (String × Json))
  | [] => .ok members
  | (label, text) :: rest => do
      let bytes ← decodeBinary label text
      let canonical := String.ofList (Text.Base64.encode bytes)
      setBinary (Members.insert label (.text canonical) members) rest

/-- What is sent for an item. -/
def Item.body (item : Item) : Except Error Json :=
  match item.data with
  | .object members => (setBinary members item.binary).map .object
  | _ => .error (.validation s!"Stage data for {item.resource.name} must be a JSON object")

/-- The number that the server gave to a record. -/
def givenId? (data : Json) : Option Int64 :=
  (data.get? "id").bind Codec.int64.readJson?

/-- Send an item on behalf of an owner. -/
def create (server : Server) (owner : Option String) (item : Item) : Call (Option Int64) := do
  let body ← item.body
  let path := item.resource.endpoint
  let answer ← server.ask (.post path body (owner.toList.map fun owner => ("owner", owner))) path
  let data ← Resource.answeredObject path answer
  pure (givenId? data)

/-- What became of an item. -/
structure Outcome where
  /-- The kind of record. -/
  resource : Resource
  /-- The owner on whose behalf it was sent. -/
  owner : Option String
  /-- The number of the new record, if the server gave one, or why there is no record. -/
  result : Except Error (Option Int64)

namespace Outcome

/-- Whether there is no record. -/
def isFailure (outcome : Outcome) : Bool :=
  match outcome.result with
  | .ok _ => false
  | .error _ => true

/-- The name of what became of an item. -/
def status (outcome : Outcome) : String :=
  if outcome.isFailure then "failed" else "created"

/-- The number of the new record. -/
def id? (outcome : Outcome) : Option Int64 :=
  match outcome.result with
  | .ok id => id
  | .error _ => none

/-- Why there is no record. -/
def message? (outcome : Outcome) : Option String :=
  match outcome.result with
  | .ok _ => none
  | .error error => some error.display

/-- An outcome as data. -/
def toJson (outcome : Outcome) : Json :=
  .ofList [
    ("kind", .text outcome.resource.name),
    ("status", .text outcome.status),
    ("id", (outcome.id?.map fun id => Json.whole id.toInt).getD .null),
    ("owner", (outcome.owner.map Json.text).getD .null),
    ("message", (outcome.message?.map Json.text).getD .null)]

end Outcome

/-- Send one item, whatever becomes of it. -/
def stage (server : Server) (owner : Option String) (item : Item) : Session Outcome := do
  let result ← (create server owner item).outcome
  pure ⟨item.resource, owner, result⟩

/-- Send items one after the other. -/
def stageAll (server : Server) (owner : Option String) : List Item → Session (List Outcome)
  | [] => pure []
  | item :: items => do
      let outcome ← stage server owner item
      let outcomes ← stageAll server owner items
      pure (outcome :: outcomes)

/-- The items of a stage file, which must be readable as a whole. -/
def ofDocument? (document : Document) : Option (List Item) := do
  let _ ← document.toJson?
  (Codec.list Item.codec).read? document <|> (Item.codec.read? document).map ([·])

/-- The items of the stage file at a path. -/
def load (disk : Disk) (path : String) : Except Error (List Item) :=
  match disk.read? path with
  | none => .error (Error.io s!"Failed to read stage file {path}").withCause
  | some content =>
      match (Document.ofText? content).bind ofDocument? with
      | some items => .ok items
      | none => .error (Error.validation s!"Invalid stage file {path}").withCause

/-- Whether a name is that of a stage file. -/
def isStageName (name : String) : Bool :=
  "tc_stage_".toList.isPrefixOf name.toList && ".json".toList.isSuffixOf name.toList

/-- The paths of the stage files among the names in a folder, in the order of the names. -/
def stagePaths (disk : Disk) (folder : String) (names : List String) : List String :=
  let staged := names.filter fun name => isStageName name && disk.isFile (Files.join folder name)
  (staged.mergeSort fun left right => decide (left ≤ right)).map (Files.join folder)

/-- The items of all stage files in a folder; one file that cannot be read leaves none. -/
def loadFolder (disk : Disk) (folder : String) : Except Error (List Item) :=
  match disk.names? folder with
  | none => .error (Error.io s!"Failed to read stage directory {folder}").withCause
  | some names => ((stagePaths disk folder names).mapM (load disk)).map List.flatten

end Staging
end ThreatIntel
