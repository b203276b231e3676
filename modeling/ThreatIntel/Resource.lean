import ThreatIntel.Error

/-!
# Resources

The fifteen kinds of records that the server keeps, where each is found, and the spellings a kind is
read from: its title in singular or plural, with any separators and in any case.
-/

namespace ThreatIntel

/-- A kind of record. -/
inductive Resource where
  /-- Evidence attached to a case. -/
  | artifact
  /-- Definitions of artifact types. -/
  | artifactType
  /-- Cases. -/
  | caseFile
  /-- Groups of intelligence: adversaries, incidents, reports. -/
  | group
  /-- Attributes attached to indicators. -/
  | indicatorAttribute
  /-- Indicators: addresses, hosts, files. -/
  | indicator
  /-- Notes on a case. -/
  | note
  /-- Security labels. -/
  | securityLabel
  /-- System roles. -/
  | systemRole
  /-- Tags. -/
  | tag
  /-- Tasks of a case. -/
  | task
  /-- Victims. -/
  | victim
  /-- Assets of a victim. -/
  | victimAsset
  /-- Events in the timeline of a case. -/
  | workflowEvent
  /-- Templates from which cases are opened. -/
  | workflowTemplate
  deriving DecidableEq, Repr

namespace Resource

/-- Every kind, in the order in which they are listed. -/
def all : List Resource :=
  [artifact, artifactType, caseFile, group, indicatorAttribute, indicator, note, securityLabel,
    systemRole, tag, task, victim, victimAsset, workflowEvent, workflowTemplate]

/-- Where the records of a kind are found, below the base address. -/
def endpoint : Resource → String
  | artifact => "/v3/artifacts"
  | artifactType => "/v3/artifactTypes"
  | caseFile => "/v3/cases"
  | group => "/v3/groups"
  | indicatorAttribute => "/v3/indicatorAttributes"
  | indicator => "/v3/indicators"
  | note => "/v3/notes"
  | securityLabel => "/v3/securityLabels"
  | systemRole => "/v3/security/systemRoles"
  | tag => "/v3/tags"
  | task => "/v3/tasks"
  | victim => "/v3/victims"
  | victimAsset => "/v3/victimAssets"
  | workflowEvent => "/v3/workflowEvents"
  | workflowTemplate => "/v3/workflowTemplates"

/-- The name under which a kind is stored: plural, with underscores. -/
def name : Resource → String
  | artifact => "artifacts"
  | artifactType => "artifact_types"
  | caseFile => "cases"
  | group => "groups"
  | indicatorAttribute => "indicator_attributes"
  | indicator => "indicators"
  | note => "notes"
  | securityLabel => "security_labels"
  | systemRole => "system_roles"
  | tag => "tags"
  | task => "tasks"
  | victim => "victims"
  | victimAsset => "victim_assets"
  | workflowEvent => "workflow_events"
  | workflowTemplate => "workflow_templates"

/-- What one record of the kind is called. -/
def title : Resource → String
  | artifact => "Artifact"
  | artifactType => "Artifact Type"
  | caseFile => "Case"
  | group => "Group"
  | indicatorAttribute => "Indicator Attribute"
  | indicator => "Indicator"
  | note => "Note"
  | securityLabel => "Security Label"
  | systemRole => "System Role"
  | tag => "Tag"
  | task => "Task"
  | victim => "Victim"
  | victimAsset => "Victim Asset"
  | workflowEvent => "Workflow Event"
  | workflowTemplate => "Workflow Template"

/-- What records of the kind are called, in one word. -/
def joinedTitle (resource : Resource) : String :=
  String.ofList (resource.title.toList.filter (· ≠ ' ') ++ ['s'])

/-- The ASCII letters and digits of a spelling, in lower case. -/
def squash (spelling : String) : List Char :=
  (spelling.toList.filter Char.isAlphanum).map Char.toLower

/-- A squashed spelling without one final `s`. -/
def dropPlural (squashed : List Char) : List Char :=
  if squashed.getLast? = some 's' then squashed.dropLast else squashed

/-- Read a kind from any of its spellings; a bare attribute is one of an indicator. -/
def ofSpelling? (spelling : String) : Option Resource :=
  let squashed := squash spelling
  let singular := dropPlural squashed
  if singular = "attribute".toList then some indicatorAttribute
  else all.find? fun resource =>
    squash resource.title == squashed || squash resource.title == singular

/-- Read a kind from any of its spellings, or say which spelling is unknown. -/
def ofSpelling (spelling : String) : Except Error Resource :=
  match ofSpelling? spelling with
  | some resource => .ok resource
  | none => .error (.validation s!"Unknown resource type: '{spelling}'")

/-- Read a kind from the name it is stored under. -/
def ofName? (name : String) : Option Resource :=
  all.find? fun resource => resource.name == name

@[simp] theorem mem_all (resource : Resource) : resource ∈ all := by
  cases resource <;> decide

@[simp] theorem ofName?_name (resource : Resource) : ofName? resource.name = some resource := by
  cases resource <;> decide

end Resource
end ThreatIntel
