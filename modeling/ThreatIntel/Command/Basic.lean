import ThreatIntel.Command.Values
import ThreatIntel.Notice
import ThreatIntel.Resource

/-!
# Commands

What can be asked for on a command line, and how it is spelled there.
-/

namespace ThreatIntel

/-- How results are shown. -/
inductive OutputFormat where
  /-- As tables and lines. -/
  | table
  /-- As JSON. -/
  | json
  deriving DecidableEq, Repr

namespace OutputFormat

/-- Every format. -/
def all : List OutputFormat := [table, json]

/-- The name of a format. -/
def name : OutputFormat → String
  | table => "table"
  | json => "json"

end OutputFormat

/-- Which records are asked for. -/
structure Selection where
  /-- The kind of record. -/
  resource : Resource
  /-- Clauses on fields. -/
  clauses : List String := []
  /-- Clauses behind relations. -/
  nested : List String := []
  deriving DecidableEq, Repr

/-- What is asked for. -/
inductive Command where
  /-- Show a query. -/
  | query (selection : Selection)
  /-- List records: so many on a page, so many at most, and with extra fields. -/
  | list (selection : Selection) (limit : Option UInt32) (count : Option Nat)
      (fields : List String)
  /-- Show one record with extra fields. -/
  | get (resource : Resource) (id : Int64) (fields : List String)
  /-- Send a message. -/
  | notify (type message : String) (recipients : Option String) (toOrganization : Bool)
      (priority : Priority)
  /-- Check the files of an app. -/
  | checkApp (folder : String)
  /-- List the parameters of an app. -/
  | listParameters (folder : String)
  /-- Add the records of stage files. -/
  | stage (path : String) (owner : Option String)
  deriving DecidableEq, Repr

/-- A command, and what goes for all commands. -/
structure Invocation where
  /-- The path of the settings. -/
  settings : String
  /-- How results are shown. -/
  format : OutputFormat
  /-- What is asked for. -/
  command : Command
  deriving DecidableEq, Repr

namespace Command

/-- What goes for all commands, as far as it has been read. -/
structure Choices where
  /-- The path of the settings. -/
  settings : String := "tcex.toml"
  /-- How results are shown. -/
  format : OutputFormat := .table
  deriving DecidableEq, Repr

/-- What is asked for, as far as it has been read. -/
structure Draft where
  /-- The kind of record. -/
  resource : Option Resource := none
  /-- The number of a record. -/
  id : Option Int64 := none
  /-- Clauses on fields. -/
  clauses : List String := []
  /-- Clauses behind relations. -/
  nested : List String := []
  /-- How many records stand on a page. -/
  limit : Option UInt32 := none
  /-- How many records are listed at most. -/
  count : Option Nat := none
  /-- Extra fields. -/
  fields : List String := []
  /-- The type of a message. -/
  type : Option String := none
  /-- A message. -/
  message : Option String := none
  /-- The names of those who receive a message. -/
  recipients : Option String := none
  /-- Whether everybody receives a message. -/
  toOrganization : Bool := false
  /-- How urgent a message is. -/
  priority : Priority := .default
  /-- A path. -/
  path : Option String := none
  /-- The owner of added records. -/
  owner : Option String := none
  deriving DecidableEq, Repr

/-- The kind of record, in its place. -/
def resourceArgument : Argument Draft :=
  .place "RESOURCE" fun text draft =>
    (because Error.display (Resource.ofSpelling text)).map fun resource =>
      { draft with resource := some resource }

/-- The number of a record, in its place. -/
def idArgument : Argument Draft :=
  .place "ID" fun text draft => (word64 text).map fun id => { draft with id := some id }

/-- A clause on a field. -/
def clauseArgument : Argument Draft :=
  { Argument.named "filter" "FILTERS" fun text (draft : Draft) =>
      .ok { draft with clauses := draft.clauses ++ [text] } with repeatable := true }

/-- A clause behind a relation. -/
def nestedArgument : Argument Draft :=
  { Argument.named "has" "HAS" fun text (draft : Draft) =>
      .ok { draft with nested := draft.nested ++ [text] } with repeatable := true }

/-- How many records stand on a page. -/
def limitArgument : Argument Draft :=
  .named "limit" "LIMIT" fun text draft =>
    (word32 text).map fun limit => { draft with limit := some limit }

/-- How many records are listed at most. -/
def countArgument : Argument Draft :=
  .named "max" "MAX" fun text draft =>
    (count text).map fun count => { draft with count := some count }

/-- An extra field. -/
def fieldArgument : Argument Draft :=
  { Argument.named "fields" "FIELDS" fun text (draft : Draft) =>
      .ok { draft with fields := draft.fields ++ [text] } with repeatable := true }

/-- The type of a message. -/
def typeArgument : Argument Draft :=
  { Argument.named "type" "NOTIFICATION_TYPE" fun text (draft : Draft) =>
      .ok { draft with type := some text } with required := true }

/-- A message. -/
def messageArgument : Argument Draft :=
  { Argument.named "message" "MESSAGE" fun text (draft : Draft) =>
      .ok { draft with message := some text } with required := true }

/-- The names of those who receive a message. -/
def recipientsArgument : Argument Draft :=
  .named "recipients" "RECIPIENTS" fun text draft => .ok { draft with recipients := some text }

/-- Everybody receives a message. -/
def organizationArgument : Argument Draft :=
  .flag "org" fun draft => { draft with toOrganization := true }

/-- How urgent a message is. -/
def priorityArgument : Argument Draft :=
  .named "priority" "PRIORITY" fun text draft =>
    (because Error.display (Priority.ofSpelling text)).map fun priority =>
      { draft with priority := priority }

/-- The folder of an app. -/
def folderArgument : Argument Draft :=
  .named "path" "PATH" fun text draft =>
    (notEmpty text).map fun path => { draft with path := some path }

/-- The path of stage files, in its place. -/
def pathArgument : Argument Draft :=
  .place "PATH" fun text draft =>
    (notEmpty text).map fun path => { draft with path := some path }

/-- The owner of added records. -/
def ownerArgument : Argument Draft :=
  .named "owner" "OWNER" fun text draft => .ok { draft with owner := some text }

/-- An explanation. -/
def helpArgument : Argument σ := .stop "help" 'h' .help

/-- The grammar of a command with arguments. -/
def grammar (arguments : List (Argument Draft)) (finish : Draft → Option Command) :
    Grammar Draft Command where
  arguments := arguments ++ [helpArgument]
  conflicts := [(recipientsArgument.shown, organizationArgument.shown)]
  start := {}
  finish := finish

namespace Draft

/-- Which records are asked for. -/
def selection? (draft : Draft) : Option Selection :=
  draft.resource.map fun resource => ⟨resource, draft.clauses, draft.nested⟩

/-- The folder of an app. -/
def folder (draft : Draft) : String :=
  draft.path.getD "."

end Draft

/-- The commands, with their names. -/
def grammars : List (String × Grammar Draft Command) :=
  [("tql", grammar [resourceArgument, clauseArgument, nestedArgument] fun draft =>
      draft.selection?.map .query),
    ("list", grammar
      [resourceArgument, clauseArgument, nestedArgument, limitArgument, countArgument,
        fieldArgument] fun draft =>
      draft.selection?.map (.list · draft.limit draft.count draft.fields)),
    ("get", grammar [resourceArgument, idArgument, fieldArgument] fun draft => do
      pure (.get (← draft.resource) (← draft.id) draft.fields)),
    ("notify", grammar
      [typeArgument, messageArgument, recipientsArgument, organizationArgument,
        priorityArgument] fun draft => do
      pure (.notify (← draft.type) (← draft.message) draft.recipients draft.toOrganization
        draft.priority)),
    ("stage", grammar [pathArgument, ownerArgument] fun draft =>
      draft.path.map (.stage · draft.owner))]

/-- The commands on the files of an app, with their names. -/
def appGrammars : List (String × Grammar Draft Command) :=
  [("validate", grammar [folderArgument] fun draft => some (.checkApp draft.folder)),
    ("params", grammar [folderArgument] fun draft => some (.listParameters draft.folder))]

/-- What goes for all commands. -/
def choices : Grammar Choices Unit where
  arguments := [
    { Argument.named "config" "CONFIG" fun text (choices : Choices) =>
        .ok { choices with settings := text } with manner := .named "config" (some 'c') },
    { Argument.named "format" "FORMAT" fun text (choices : Choices) =>
        (listed OutputFormat.all OutputFormat.name text).map fun format =>
          { choices with format := format } with manner := .named "format" (some 'f') },
    .stop "version" 'V' .version, helpArgument]
  start := {}
  finish := fun _ => some ()

/-- The name of the program. -/
def program : String := "tcex"

/-- What the program is for. -/
def purpose : String := "ThreatConnect command-line client"

/-- What the commands on the files of an app are for. -/
def appPurpose : String := "App configuration files"

/-- Read one of several commands: its name with its words, behind what goes for all of them. -/
def readOne (grammar : Grammar σ Unit) (name purpose : String) (commands : List String)
    (read : String → List String → Except Stop Command) (words : List String) :
    Except Stop (σ × Command) := do
  let (reading, rest) ← grammar.readUntil ("help" :: commands) { values := grammar.start } words
  match rest with
  | some (command, words) => do
      let command ← if command = "help" then throw .help else read command words
      let reading ← reading.settle
      pure (reading.values, command)
  | none => do
      let reading ← reading.settle
      if reading.given.isEmpty then throw (.nothing purpose) else throw (.fault (.noCommand name))

/-- Read a command that is in a list. -/
def readIn (grammars : List (String × Grammar Draft Command)) (name : String)
    (words : List String) : Except Stop Command :=
  match grammars.lookup name with
  | some grammar => grammar.read words
  | none => .error (.fault (.unknownCommand name))

/-- Read a command on the files of an app. -/
def readApp (words : List String) : Except Stop Command :=
  let grammar : Grammar Unit Unit :=
    { arguments := [helpArgument], start := (), finish := fun _ => some () }
  (readOne grammar (program ++ " app") appPurpose (appGrammars.map Prod.fst) (readIn appGrammars)
    words).map Prod.snd

/-- Read a command. -/
def readCommand (name : String) (words : List String) : Except Stop Command :=
  if name = "app" then readApp words else readIn grammars name words

/-- Read the words of a command line. -/
def readInvocation (words : List String) : Except Stop Invocation := do
  let names := "app" :: grammars.map Prod.fst
  let (choices, command) ← readOne choices program purpose names readCommand words
  pure ⟨choices.settings, choices.format, command⟩

end Command
end ThreatIntel
