import ThreatIntel.App.Parameter
import ThreatIntel.Digest.NamedId
import ThreatIntel.Json.File
import ThreatIntel.Text.Lowercase

/-!
# Manifests

What an app declares about itself: names, programs, runtime, parameters and outputs. Several
parameters may have one name; each view on the parameters says which of them it shows.
-/

namespace ThreatIntel
namespace App

/-- An output of a playbook app. -/
structure OutputVariable where
  /-- The name of the output. -/
  name : String
  /-- The type of its values. -/
  type : String
  /-- The kinds of intelligence it gives. -/
  intelType : List String
  /-- A remark for users. -/
  note : Option String
  deriving DecidableEq

namespace OutputVariable

/-- The members of an output. -/
def form : Form OutputVariable OutputVariable :=
  Form.build OutputVariable.mk
    |>.field "name" (·.name) (.required .text)
    |>.field "type" (·.type) (.required .text)
    |>.field "intelType" (·.intelType) (listEntry .text)
    |>.field "note" (·.note) (.omissible .text)

/-- How an output is written. -/
def codec : Codec OutputVariable := form.codec

end OutputVariable

/-- Whether and how a failed run is repeated. -/
structure Retry where
  /-- Whether it may be repeated. -/
  allowed : Bool
  /-- Minutes before the next try. -/
  defaultDelayMinutes : UInt32
  /-- How often it is tried again. -/
  defaultMaxRetries : UInt32
  deriving DecidableEq

namespace Retry

/-- The members of a repetition. -/
def form : Form Retry Retry :=
  Form.build Retry.mk
    |>.field "allowed" (·.allowed) (.defaulted .boolean false)
    |>.field "defaultDelayMinutes" (·.defaultDelayMinutes) (.defaulted .uint32 1)
    |>.field "defaultMaxRetries" (·.defaultMaxRetries) (.defaulted .uint32 1)

/-- How a repetition is written. -/
def codec : Codec Retry := form.codec

end Retry

/-- What a playbook app declares beside the rest. -/
structure Playbook where
  /-- The category of the app. -/
  type : String
  /-- What stands before the names of its outputs. -/
  outputPrefix : Option String
  /-- The outputs. -/
  outputVariables : List OutputVariable
  /-- How a failed run is repeated. -/
  retry : Option Retry
  deriving DecidableEq

namespace Playbook

/-- The members of a playbook section. -/
def form : Form Playbook Playbook :=
  Form.build Playbook.mk
    |>.field "type" (·.type) (.required .text)
    |>.field "outputPrefix" (·.outputPrefix) (.omissible .text)
    |>.field "outputVariables" (·.outputVariables) (.defaulted (.list OutputVariable.codec) [])
    |>.field "retry" (·.retry) (.omissible Retry.codec)

/-- How a playbook section is written. -/
def codec : Codec Playbook := form.codec

end Playbook

/-- How the records of a feed grow old. -/
structure Deprecation where
  /-- The type of indicator. -/
  indicatorType : Option String
  /-- Days between two steps. -/
  intervalDays : Option UInt32
  /-- How much confidence a step takes away. -/
  confidenceAmount : Option UInt32
  /-- Whether a record without confidence is deleted. -/
  deleteAtMinimum : Bool
  /-- Whether the amount is a share. -/
  percentage : Bool
  deriving DecidableEq

namespace Deprecation

/-- The members of a deprecation. -/
def form : Form Deprecation Deprecation :=
  Form.build Deprecation.mk
    |>.field "indicatorType" (·.indicatorType) (.omissible .text)
    |>.field "intervalDays" (·.intervalDays) (.omissible .uint32)
    |>.field "confidenceAmount" (·.confidenceAmount) (.omissible .uint32)
    |>.field "deleteAtMinimum" (·.deleteAtMinimum) (.defaulted .boolean false)
    |>.field "percentage" (·.percentage) (.defaulted .boolean false)

/-- How a deprecation is written. -/
def codec : Codec Deprecation := form.codec

end Deprecation

/-- A source of records that an app brings in. -/
structure Feed where
  /-- The name of the source. -/
  sourceName : String
  /-- Its category. -/
  sourceCategory : String
  /-- What it offers. -/
  sourceDescription : String
  /-- The file of the job that brings it in. -/
  jobFile : String
  /-- How much room its documents may take. -/
  documentStorageLimitMb : UInt32
  /-- How many indicators it may have. -/
  indicatorLimit : UInt32
  /-- Whether it may be fetched in bulk. -/
  enableBulkJson : Bool
  /-- The file of its attributes. -/
  attributesFile : Option String
  /-- How its records grow old. -/
  deprecation : List Deprecation
  deriving DecidableEq

namespace Feed

/-- The members of a feed. -/
def form : Form Feed Feed :=
  Form.build Feed.mk
    |>.field "sourceName" (·.sourceName) (.required .text)
    |>.field "sourceCategory" (·.sourceCategory) (.required .text)
    |>.field "sourceDescription" (·.sourceDescription) (.required .text)
    |>.field "jobFile" (·.jobFile) (.required .text)
    |>.field "documentStorageLimitMb" (·.documentStorageLimitMb) (.required .uint32)
    |>.field "indicatorLimit" (·.indicatorLimit) (.required .uint32)
    |>.field "enableBulkJson" (·.enableBulkJson) (.defaulted .boolean false)
    |>.field "attributesFile" (·.attributesFile) (.omissible .text)
    |>.field "deprecation" (·.deprecation) (listEntry Deprecation.codec)

/-- How a feed is written. -/
def codec : Codec Feed := form.codec

end Feed

/-- What a service app declares beside the rest. -/
structure Service where
  /-- The types by which the service is found. -/
  discoveryTypes : List String
  deriving DecidableEq

namespace Service

/-- The members of a service section. -/
def form : Form Service Service :=
  Form.build Service.mk
    |>.field "discoveryTypes" (·.discoveryTypes) (.defaulted (.list .text) [])

/-- How a service section is written. -/
def codec : Codec Service := form.codec

end Service

/-- Where an app runs: one level, or a list of which the first counts. -/
inductive RuntimeLevel where
  /-- One level. -/
  | one (level : String)
  /-- A list of levels. -/
  | many (levels : List String)
  deriving DecidableEq, Repr

namespace RuntimeLevel

/-- How a runtime level is written. -/
def codec : Codec RuntimeLevel where
  write
    | one level => Codec.text.write level
    | many levels => (Codec.list .text).write levels
  read? document :=
    (Codec.text.read? document).map one <|> ((Codec.list .text).read? document).map many

/-- The level that counts. -/
def first : RuntimeLevel → String
  | one level => level
  | many levels => levels.headD ""

/-- The level that counts, in lower case. -/
def primary (level : RuntimeLevel) : String :=
  String.ofList (Text.lower level.first.toList)

end RuntimeLevel

/-- What an app declares about itself. -/
structure Manifest where
  /-- The name that users see. -/
  displayName : String
  /-- Where users find the app. -/
  displayPath : Option String
  /-- The language of the program. -/
  programLanguage : String
  /-- Where the program begins. -/
  programMain : String
  /-- The version of the program. -/
  programVersion : String
  /-- Where the app runs. -/
  runtimeLevel : RuntimeLevel
  /-- What stands between the values of a list. -/
  listDelimiter : String
  /-- Whether it may be run on demand. -/
  allowOnDemand : Bool
  /-- Whether it may be run on behalf of a user. -/
  allowRunAsUser : Option Bool
  /-- Whether it takes the token of a user. -/
  apiUserTokenParam : Option Bool
  /-- The identifier of the app. -/
  appId : Option String
  /-- The state of its sources. -/
  commitHash : Option String
  /-- The image in which it runs. -/
  dockerImage : Option String
  /-- What it is able to do. -/
  features : List String
  /-- The sources it brings in. -/
  feeds : List Feed
  /-- Words it is found by. -/
  labels : List String
  /-- The version of the language. -/
  languageVersion : Option String
  /-- The oldest server it runs on. -/
  minServerVersion : Option String
  /-- A remark for users. -/
  note : Option String
  /-- The parameters. -/
  parameters : List Parameter
  /-- The playbook section. -/
  playbook : Option Playbook
  /-- The file of its picture. -/
  programIcon : Option String
  /-- The name of the program. -/
  programName : Option String
  /-- The files it publishes. -/
  publishOutFiles : List String
  /-- The minutes at which it is repeated. -/
  repeatingMinutes : List UInt32
  /-- Where it may be run from. -/
  runtimeContext : List String
  /-- The service section. -/
  service : Option Service
  deriving DecidableEq

namespace Manifest

/-- The members of a manifest. -/
def form : Form Manifest Manifest :=
  Form.build Manifest.mk
    |>.field "displayName" (·.displayName) (.required .text)
    |>.field "displayPath" (·.displayPath) (.omissible .text)
    |>.field "programLanguage" (·.programLanguage) (.required .text)
    |>.field "programMain" (·.programMain) (.required .text)
    |>.field "programVersion" (·.programVersion) (.required .text)
    |>.field "runtimeLevel" (·.runtimeLevel) (.required RuntimeLevel.codec)
    |>.field "listDelimiter" (·.listDelimiter) (.defaulted .text "|")
    |>.field "allowOnDemand" (·.allowOnDemand) (.defaulted .boolean false)
    |>.field "allowRunAsUser" (·.allowRunAsUser) (.omissible .boolean)
    |>.field "apiUserTokenParam" (·.apiUserTokenParam) (.omissible .boolean)
    |>.field "appId" (·.appId) (.omissible .text)
    |>.field "commitHash" (·.commitHash) (.omissible .text)
    |>.field "dockerImage" (·.dockerImage) (.omissible .text)
    |>.field "features" (·.features) (.defaulted (.list .text) [])
    |>.field "feeds" (·.feeds) (listEntry Feed.codec)
    |>.field "labels" (·.labels) (listEntry .text)
    |>.field "languageVersion" (·.languageVersion) (.omissible .text)
    |>.field "minServerVersion" (·.minServerVersion) (.omissible .text)
    |>.field "note" (·.note) (.omissible .text)
    |>.field "params" (·.parameters) (.defaulted (.list Parameter.codec) [])
    |>.field "playbook" (·.playbook) (.omissible Playbook.codec)
    |>.field "programIcon" (·.programIcon) (.omissible .text)
    |>.field "programName" (·.programName) (.omissible .text)
    |>.field "publishOutFiles" (·.publishOutFiles) (listEntry .text)
    |>.field "repeatingMinutes" (·.repeatingMinutes) (listEntry .uint32)
    |>.field "runtimeContext" (·.runtimeContext) (listEntry .text)
    |>.field "service" (·.service) (.omissible Service.codec)

/-- How a manifest is written. -/
def codec : Codec Manifest := form.codec

/-- Whether a name is neither too short nor too long to be shown. -/
def hasFairLength (name : String) : Bool :=
  3 ≤ name.length && name.length ≤ 100

/-- The members that cannot be shown. -/
def unfairMembers (manifest : Manifest) : List String :=
  (if hasFairLength manifest.displayName then [] else ["display_name"]) ++
    (if manifest.displayPath.all hasFairLength then [] else ["display_path"])

/-- Check what the form of a manifest does not say. -/
def check (manifest : Manifest) : Except Error Unit :=
  match manifest.unfairMembers with
  | [] => .ok ()
  | names => .error (.validation ("Invalid install.json: " ++ ",".intercalate names))

/-- The identifier of an app that declares none: it follows from the name of its folder. -/
def defaultId (folder : String) : String :=
  Digest.namedId (String.ofList (Text.lower folder.toList))

/-- The manifest with an identifier. -/
def identified (manifest : Manifest) (folder : String) : Manifest :=
  match manifest.appId with
  | some _ => manifest
  | none => { manifest with appId := some (defaultId folder) }

/-- The manifest at a path. -/
def load (disk : Disk) (path : String) : Except Error Manifest := do
  let manifest ← codec.readFile disk path
  manifest.check
  pure (manifest.identified ((disk.folderName? path).getD ""))

/-- What stands before the name of the app's package. -/
def packagePrefix (manifest : Manifest) : String :=
  match manifest.runtimeLevel.primary with
  | "organization" => "TC_-_"
  | "playbook" => "TCPB_-_"
  | "apiservice" => "TCVA_-_"
  | "triggerservice" => "TCVC_-_"
  | "webhooktriggerservice" => "TCVW-_"
  | _ => ""

/-- What kind of variables its outputs are. -/
def outputVariableType (manifest : Manifest) : String :=
  match manifest.runtimeLevel.primary with
  | "triggerservice" | "webhooktriggerservice" => "Trigger"
  | _ => "App"

/-- The names of the parameters. -/
def parameterNames (manifest : Manifest) : List String :=
  manifest.parameters.map (·.name)

/-- The first parameter of a name. -/
def parameter? (manifest : Manifest) (name : String) : Option Parameter :=
  manifest.parameters.find? (·.name == name)

/-- Keep the first parameter of each name, of those whose names have not been seen. -/
def firstByName (seen : List String) : List Parameter → List Parameter
  | [] => []
  | parameter :: rest =>
      if seen.contains parameter.name then firstByName seen rest
      else parameter :: firstByName (parameter.name :: seen) rest

/-- The first parameter of each name that meets criteria, in their order. -/
def select (manifest : Manifest) (criteria : Criteria) : List Parameter :=
  firstByName [] (manifest.parameters.filter criteria.admits)

/-- Parameters under their names; of several with one name the last stands. -/
def byName (parameters : List Parameter) : List (String × Parameter) :=
  Members.ofList (parameters.map fun parameter => (parameter.name, parameter))

/-- All parameters under their names. -/
def parametersByName (manifest : Manifest) : List (String × Parameter) :=
  byName manifest.parameters

/-- The required parameters under their names. -/
def requiredByName (manifest : Manifest) : List (String × Parameter) :=
  byName (manifest.parameters.filter (·.required))

/-- The other parameters under their names. -/
def optionalByName (manifest : Manifest) : List (String × Parameter) :=
  byName (manifest.parameters.filter (!·.required))

/-- The parameters that configure a service, under their names. -/
def serviceConfigByName (manifest : Manifest) : List (String × Parameter) :=
  byName (manifest.parameters.filter (·.serviceConfig))

/-- The parameters that do not configure a service, under their names. -/
def servicePlaybookByName (manifest : Manifest) : List (String × Parameter) :=
  byName (manifest.parameters.filter (!·.serviceConfig))

/-- The outputs under their names; of several with one name the last stands. -/
def outputsByName (manifest : Manifest) : List (String × OutputVariable) :=
  let outputs := manifest.playbook.toList.flatMap (·.outputVariables)
  Members.ofList (outputs.map fun output => (output.name, output))

end Manifest
end App
end ThreatIntel
