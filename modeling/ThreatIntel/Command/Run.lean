import ThreatIntel.App.Layout
import ThreatIntel.App.Manifest
import ThreatIntel.App.Package
import ThreatIntel.Client
import ThreatIntel.Command.Clause
import ThreatIntel.Command.Task
import ThreatIntel.Exchange.Site
import ThreatIntel.Record.Remote
import ThreatIntel.Settings.Sources
import ThreatIntel.Staging

/-!
# Running commands

What each command does, and what a whole command line leaves behind. Only the commands that need a
server need settings that can work.
-/

namespace ThreatIntel

/-- What a program finds around it. -/
structure Surroundings where
  /-- The files. -/
  files : Files
  /-- The environment variables. -/
  environment : List (String × String)
  /-- The time. -/
  now : Time.Instant
  /-- The network. -/
  network : Network
  /-- How many pages are asked for at most on the way to one record. -/
  budget : Nat := UInt64.size

/-- A client with its server. -/
structure Connection where
  /-- The client. -/
  client : Client
  /-- The server. -/
  server : Server

namespace Command

/-- The connection that settings describe. -/
def connect (network : Network) (settings : Except Error Settings) : Except Error Connection := do
  let settings ← settings
  let site ← Site.ofSettings settings
  pure ⟨.ofSettings settings, site.server network⟩

/-- The query that clauses make of another. -/
def select (now : Time.Instant) (selection : Selection) (query : Query.Expression) :
    Except Error Query.Expression := do
  let (outcome, filter) :=
    (addClauses now selection.clauses selection.nested).run.run ⟨selection.resource, query⟩
  outcome
  pure filter.query

/-- Show a query. -/
def showQuery (now : Time.Instant) (format : OutputFormat) (selection : Selection) :
    Task Unit := do
  let query ← select now selection .empty
  match format with
  | .table => Task.result query.render
  | .json => Task.result (Json.ofList [("endpoint", .text selection.resource.endpoint),
      ("tql", .text query.render)]).pretty

/-- The members by which a record is told from others, the best one first. -/
def summaryKeys : List String :=
  ["summary", "name", "displayName", "title", "value", "userName"]

/-- A record as a row of a table. -/
def recordRow (resource : Resource) (record : Json) : List String :=
  [((record.get? "id").map Json.render).getD "", resource.title,
    (summaryKeys.findSome? fun key => (record.get? key).bind Json.text?).getD ""]

/-- The collection of a listing: the one of the client, unless pages are to be different. -/
def listing (client : Client) (resource : Resource) (limit : Option UInt32)
    (fields : List String) : Collection :=
  let collection := client.collection resource
  if limit.isSome ∨ fields ≠ [] then
    collection.withWindow
      { Window.ofBounds (limit.getD collection.window.limit) 0 with fields := fields }
  else collection

/-- List records. -/
def listRecords (now : Time.Instant) (budget : Nat) (connection : Connection)
    (format : OutputFormat) (selection : Selection) (limit : Option UInt32) (count : Option Nat)
    (fields : List String) : Task Unit := do
  let collection := listing connection.client selection.resource limit fields
  let query ← select now selection collection.query
  let collection := { collection with query := query }
  let records ← Task.call (Collection.list connection.server budget collection count)
  let records := records.map Resource.Record.toJson
  Task.rows format
    ⟨["id", "type", "summary"], records.map (recordRow selection.resource)⟩ records

/-- Show one record. -/
def showRecord (connection : Connection) (format : OutputFormat) (resource : Resource)
    (id : Int64) (fields : List String) : Task Unit := do
  let record ← Task.call (resource.fetchRecord connection.server id fields)
  Task.record format record.toJson

/-- The notifier for an audience, which is either some users or everybody. -/
def notifier? (type : String) (recipients : Option String) (toOrganization : Bool)
    (priority : Priority) : Option Notifier :=
  match recipients, toOrganization with
  | some names, false => some (Notifier.toRecipients {} type names priority)
  | none, true => some (Notifier.toOrganization {} type priority)
  | _, _ => none

/-- Send a message. -/
def sendNotice (connection : Connection) (format : OutputFormat) (notifier : Option Notifier)
    (message : String) : Task Unit := do
  match notifier with
  | none => throw (.validation "Pass either --recipients or --org")
  | some notifier => do
      let answer ← Task.call (notifier.send connection.server message)
      match format with
      | .json => Task.result answer.pretty
      | .table => Task.success "Notification sent"

/-- Print what is wrong with the package file of an app, and count the errors. -/
def checkPackage (disk : Disk) (folder : String) : Task Nat := do
  let path := Files.join folder "tcex.json"
  if disk.isFile path then
    let package ← App.Package.load disk path
    let findings := package.findings
    findings.forM fun finding =>
      match finding.severity with
      | .error => Task.failure finding.message
      | .warning => Task.warning finding.message
    pure (findings.countP (·.severity = .error))
  else pure 0

/-- Print the parameters of the layout file of an app that the app does not declare, and count them.
-/
def checkLayout (disk : Disk) (folder : String) (manifest : App.Manifest) : Task Nat := do
  let path := Files.join folder "layout.json"
  if disk.isFile path then
    let layout ← App.Layout.load disk path
    let unknown := layout.parameterNames.filter fun name => (manifest.parameter? name).isNone
    unknown.forM fun name =>
      Task.failure s!"layout.json input '{name}' is not a param in install.json"
    pure unknown.length
  else pure 0

/-- Check the files of an app. -/
def checkFolder (disk : Disk) (folder : String) : Task Unit := do
  let manifest ← App.Manifest.load disk (Files.join folder "install.json")
  let count := manifest.parameters.length
  Task.success s!"install.json is valid ({count} params, prefix '{manifest.packagePrefix}')"
  let packageErrors ← checkPackage disk folder
  let layoutErrors ← checkLayout disk folder manifest
  let errors := packageErrors + layoutErrors
  if 0 < errors then
    throw (.validation s!"{errors} problem(s) found in {folder}")

/-- A truth value in a table. -/
def truthText (value : Bool) : String :=
  if value then "true" else "false"

/-- A parameter as a row of a table. -/
def parameterRow (parameter : App.Parameter) : List String :=
  [parameter.name, parameter.type.name, truthText parameter.required, truthText parameter.hidden,
    truthText parameter.serviceConfig]

/-- List the parameters of an app. -/
def showParameters (disk : Disk) (format : OutputFormat) (folder : String) : Task Unit := do
  let manifest ← App.Manifest.load disk (Files.join folder "install.json")
  Task.rows format
    ⟨["name", "type", "required", "hidden", "service_config"],
      manifest.parameters.map parameterRow⟩
    (manifest.parameters.map App.Parameter.codec.write)

/-- What became of an item, as a row of a table. -/
def outcomeRow (outcome : Staging.Outcome) : List String :=
  [outcome.resource.name, if outcome.isFailure then "Failed" else "Created",
    (outcome.id?.map fun id => String.ofList (Text.intDigits id.toInt)).getD "",
    outcome.message?.getD ""]

/-- Add the records of a stage file, or of all stage files in a folder. -/
def stageRecords (disk : Disk) (connection : Connection) (format : OutputFormat)
    (path : String) (owner : Option String) : Task Unit := do
  let items ←
    if (disk.names? path).isSome then Staging.loadFolder disk path
    else Staging.load disk path
  let owner := connection.client.owner owner
  let outcomes ← Task.call (Staging.stageAll connection.server owner items)
  Task.rows format ⟨["type", "status", "id", "message"], outcomes.map outcomeRow⟩
    (outcomes.map Staging.Outcome.toJson)
  let failed := outcomes.countP Staging.Outcome.isFailure
  if 0 < failed then
    throw (.transport s!"{failed} of {outcomes.length} entities failed to stage")

/-- Do what a command asks for; its files are those of a disk. -/
def perform (surroundings : Surroundings) (settings : Except Error Settings)
    (format : OutputFormat) (command : Command) (disk : Disk := surroundings.files) : Task Unit :=
  match command with
  | query selection => showQuery surroundings.now format selection
  | checkApp folder => checkFolder disk folder
  | listParameters folder => showParameters disk format folder
  | list selection limit count fields => do
      let connection ← connect surroundings.network settings
      listRecords surroundings.now surroundings.budget connection format selection limit count
        fields
  | get resource id fields => do
      let connection ← connect surroundings.network settings
      showRecord connection format resource id fields
  | notify type message recipients toOrganization priority => do
      let connection ← connect surroundings.network settings
      sendNotice connection format (notifier? type recipients toOrganization priority) message
  | stage path owner => do
      let connection ← connect surroundings.network settings
      stageRecords disk connection format path owner

/-- What a command line leaves behind. -/
structure Report where
  /-- The number with which the program ends. -/
  code : Nat
  /-- What is printed. -/
  lines : List Line
  deriving DecidableEq, Repr

namespace Report

/-- The text of the results. -/
def results (report : Report) : String :=
  report.lines.foldl (fun text line => match line with
    | .result line => text ++ line ++ "\n"
    | .complaint _ => text) ""

/-- The text of what is wrong. -/
def complaints (report : Report) : String :=
  report.lines.foldl (fun text line => match line with
    | .result _ => text
    | .complaint line => text ++ line ++ "\n") ""

/-- The version of the program. -/
def version : String := "0.1.0"

/-- How the program is called. -/
def usage : String := "Usage: " ++ program ++ " [OPTIONS] <COMMAND>"

/-- What is left behind where the words stop before there is a command. -/
def ofStop : Stop → Report
  | .version => ⟨0, [.result (program ++ " " ++ version)]⟩
  | .help => ⟨0, [.result (purpose ++ "\n\n" ++ usage)]⟩
  | .nothing purpose => ⟨2, [.complaint (purpose ++ "\n\n" ++ usage)]⟩
  | .fault fault => ⟨2, [.complaint ("error: " ++ fault.message ++ "\n\n" ++ usage)]⟩

/-- What is left behind by a command. -/
def ofTask (task : Task Unit) : Report :=
  match task.run.run {} with
  | (.ok (), progress) => ⟨0, progress.lines⟩
  | (.error error, progress) => ⟨1, progress.lines ++ [.complaint ("✗ " ++ error.display)]⟩

end Report

/-- Do what a command line asks for; the files of its command are those of a disk. -/
def run (surroundings : Surroundings) (words : List String)
    (disk : Disk := surroundings.files) : Report :=
  match readInvocation words with
  | .error stop => .ofStop stop
  | .ok invocation =>
      let settings :=
        Settings.load surroundings.files surroundings.environment invocation.settings
      .ofTask (perform surroundings settings invocation.format invocation.command disk)

end Command
end ThreatIntel
