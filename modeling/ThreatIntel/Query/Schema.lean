import ThreatIntel.Query.Basic
import ThreatIntel.Resource

/-!
# Query schema

For each kind of record, the fields it can be queried by and the relations that lead to other kinds.
A field or relation has two names: the keyword that stands in a query, and the same word written in
lower case with underscores.
-/

namespace ThreatIntel
namespace Query

/-- The type of a field's values. -/
inductive FieldType where
  /-- `true` or `false`. -/
  | boolean
  /-- A whole number. -/
  | integer
  /-- A text. -/
  | text
  /-- An instant, sent as a text in one fixed layout. -/
  | date
  deriving DecidableEq, Repr

namespace FieldType

/-- The declared type of literals compared with the field. -/
def valueType : FieldType → ValueType
  | boolean => .boolean
  | integer => .integer
  | text | date => .text

/-- The name of the type. -/
def name : FieldType → String
  | boolean => "boolean"
  | integer => "integer"
  | text => "string"
  | date => "date"

end FieldType

/-- A word in mixed case, spelled in lower case with underscores. -/
def snakeCase (word : String) : String :=
  String.ofList (word.toList.flatMap fun c => if c.isUpper then ['_', c.toLower] else [c])

/-- A field that records can be queried by. -/
structure Field where
  /-- The name of the field in a query. -/
  keyword : String
  /-- The type of its values. -/
  type : FieldType
  deriving DecidableEq, Repr

namespace Field

/-- The second name of the field. -/
def snakeName (field : Field) : String :=
  snakeCase field.keyword

/-- Whether the field goes by the name. -/
def answersTo (field : Field) (name : String) : Bool :=
  field.keyword == name || field.snakeName == name

end Field

/-- A way from records of one kind to records of another. -/
structure Relation where
  /-- The name of the relation in a query. -/
  keyword : String
  /-- The kind it leads to. -/
  target : Resource
  deriving DecidableEq, Repr

namespace Relation

/-- The second name of the relation. -/
def snakeName (relation : Relation) : String :=
  snakeCase relation.keyword

/-- Whether the relation goes by the name. -/
def answersTo (relation : Relation) (name : String) : Bool :=
  relation.keyword == name || relation.snakeName == name

end Relation

end Query

namespace Resource

open Query

/-- The fields of each kind, in alphabetical order of their keywords. -/
def fields : Resource → List Field
  | artifact =>
      [⟨"analyticsScore", .integer⟩, ⟨"caseId", .integer⟩, ⟨"dateAdded", .date⟩,
        ⟨"id", .integer⟩, ⟨"indicatorActive", .boolean⟩, ⟨"noteId", .integer⟩, ⟨"source", .text⟩,
        ⟨"summary", .text⟩, ⟨"taskId", .integer⟩, ⟨"type", .text⟩, ⟨"typeName", .text⟩]
  | artifactType =>
      [⟨"active", .boolean⟩, ⟨"dataType", .text⟩, ⟨"description", .text⟩, ⟨"id", .integer⟩,
        ⟨"intelType", .text⟩, ⟨"managed", .boolean⟩, ⟨"name", .text⟩]
  | caseFile =>
      [⟨"assignedToUserOrGroup", .text⟩, ⟨"caseCloseTime", .date⟩, ⟨"caseDetectionTime", .date⟩,
        ⟨"caseOccurrenceTime", .date⟩, ⟨"caseOpenTime", .date⟩, ⟨"createdById", .integer⟩,
        ⟨"dateAdded", .date⟩, ⟨"description", .text⟩, ⟨"id", .integer⟩, ⟨"lastUpdated", .date⟩,
        ⟨"name", .text⟩, ⟨"ownerName", .text⟩, ⟨"resolution", .text⟩, ⟨"severity", .text⟩,
        ⟨"status", .text⟩, ⟨"tag", .text⟩, ⟨"targetId", .integer⟩, ⟨"targetType", .text⟩,
        ⟨"workflowTemplateName", .text⟩, ⟨"xid", .text⟩]
  | group =>
      [⟨"associatedIndicator", .integer⟩, ⟨"attribute", .text⟩, ⟨"dateAdded", .date⟩,
        ⟨"documentDateAdded", .date⟩, ⟨"documentFilename", .text⟩, ⟨"emailFrom", .text⟩,
        ⟨"emailSubject", .text⟩, ⟨"eventDate", .date⟩, ⟨"id", .integer⟩, ⟨"lastModified", .date⟩,
        ⟨"owner", .integer⟩, ⟨"ownerName", .text⟩, ⟨"securityLabel", .text⟩, ⟨"status", .text⟩,
        ⟨"summary", .text⟩, ⟨"tag", .text⟩, ⟨"taskDueDate", .date⟩, ⟨"type", .integer⟩,
        ⟨"typeName", .text⟩, ⟨"upVoteCount", .integer⟩, ⟨"xid", .text⟩]
  | indicatorAttribute =>
      [⟨"createdBy", .text⟩, ⟨"dateAdded", .date⟩, ⟨"dateVal", .date⟩, ⟨"default", .boolean⟩,
        ⟨"displayed", .boolean⟩, ⟨"id", .integer⟩, ⟨"indicatorId", .integer⟩,
        ⟨"intVal", .integer⟩, ⟨"lastModified", .date⟩, ⟨"maxSize", .integer⟩,
        ⟨"owner", .integer⟩, ⟨"ownerName", .text⟩, ⟨"pinned", .boolean⟩, ⟨"source", .text⟩,
        ⟨"text", .text⟩, ⟨"type", .integer⟩, ⟨"typeName", .text⟩, ⟨"user", .text⟩]
  | indicator =>
      [⟨"activeLocked", .boolean⟩, ⟨"addressAsn", .integer⟩, ⟨"addressCidr", .text⟩,
        ⟨"addressCity", .text⟩, ⟨"addressCountryCode", .text⟩, ⟨"addressCountryName", .text⟩,
        ⟨"addressIpVal", .integer⟩, ⟨"addressIsIpv6", .boolean⟩,
        ⟨"addressRegisteringOrg", .text⟩, ⟨"addressState", .text⟩, ⟨"addressTimezone", .text⟩,
        ⟨"associatedGroup", .integer⟩, ⟨"attribute", .text⟩, ⟨"confidence", .integer⟩,
        ⟨"dateAdded", .date⟩, ⟨"description", .text⟩, ⟨"falsePositiveCount", .integer⟩,
        ⟨"fileSize", .integer⟩, ⟨"hostDnsActive", .boolean⟩, ⟨"hostWhoisActive", .boolean⟩,
        ⟨"id", .integer⟩, ⟨"indicatorActive", .boolean⟩, ⟨"lastFalsePositive", .date⟩,
        ⟨"lastModified", .date⟩, ⟨"lastObserved", .date⟩, ⟨"observationCount", .integer⟩,
        ⟨"owner", .integer⟩, ⟨"ownerName", .text⟩, ⟨"rating", .integer⟩,
        ⟨"securityLabel", .text⟩, ⟨"source", .text⟩, ⟨"summary", .text⟩, ⟨"tag", .text⟩,
        ⟨"tagOwner", .integer⟩, ⟨"tagOwnerName", .text⟩, ⟨"threatAssessScore", .integer⟩,
        ⟨"type", .integer⟩, ⟨"typeName", .text⟩, ⟨"value1", .text⟩, ⟨"value2", .text⟩,
        ⟨"value3", .text⟩]
  | note =>
      [⟨"artifactId", .integer⟩, ⟨"author", .text⟩, ⟨"caseId", .integer⟩, ⟨"dateAdded", .date⟩,
        ⟨"id", .integer⟩, ⟨"lastModified", .date⟩, ⟨"summary", .text⟩, ⟨"taskId", .integer⟩,
        ⟨"workflowEventId", .integer⟩]
  | securityLabel =>
      [⟨"color", .text⟩, ⟨"dateAdded", .date⟩, ⟨"description", .text⟩, ⟨"id", .integer⟩,
        ⟨"name", .text⟩, ⟨"owner", .integer⟩, ⟨"ownerName", .text⟩]
  | systemRole =>
      [⟨"active", .boolean⟩, ⟨"assignable", .boolean⟩, ⟨"displayed", .boolean⟩,
        ⟨"id", .integer⟩, ⟨"name", .text⟩]
  | tag =>
      [⟨"associatedCase", .integer⟩, ⟨"associatedGroup", .integer⟩,
        ⟨"associatedIndicator", .integer⟩, ⟨"associatedVictim", .integer⟩, ⟨"caseId", .integer⟩,
        ⟨"description", .text⟩, ⟨"id", .integer⟩, ⟨"lastUsed", .date⟩, ⟨"name", .text⟩,
        ⟨"owner", .integer⟩, ⟨"ownerName", .text⟩, ⟨"summary", .text⟩]
  | task =>
      [⟨"assigneeName", .text⟩, ⟨"caseId", .integer⟩, ⟨"caseSeverity", .text⟩,
        ⟨"completedBy", .text⟩, ⟨"completedDate", .date⟩, ⟨"description", .text⟩,
        ⟨"dueDate", .date⟩, ⟨"id", .integer⟩, ⟨"name", .text⟩, ⟨"owner", .text⟩,
        ⟨"required", .boolean⟩, ⟨"status", .text⟩, ⟨"targetId", .integer⟩, ⟨"targetType", .text⟩,
        ⟨"workflowPhase", .integer⟩, ⟨"workflowStep", .integer⟩, ⟨"xid", .text⟩]
  | victim =>
      [⟨"assetName", .text⟩, ⟨"assetType", .text⟩, ⟨"attribute", .text⟩, ⟨"dateAdded", .date⟩,
        ⟨"description", .text⟩, ⟨"id", .integer⟩, ⟨"name", .text⟩, ⟨"nationality", .text⟩,
        ⟨"org", .text⟩, ⟨"owner", .integer⟩, ⟨"ownerName", .text⟩, ⟨"securityLabel", .text⟩,
        ⟨"suborg", .text⟩, ⟨"summary", .text⟩, ⟨"tag", .text⟩, ⟨"workLocation", .text⟩]
  | victimAsset =>
      [⟨"asset", .text⟩, ⟨"id", .integer⟩, ⟨"type", .text⟩, ⟨"victimId", .integer⟩]
  | workflowEvent =>
      [⟨"caseId", .integer⟩, ⟨"dateAdded", .date⟩, ⟨"deleted", .boolean⟩,
        ⟨"deletedReason", .text⟩, ⟨"eventDate", .date⟩, ⟨"id", .integer⟩, ⟨"link", .text⟩,
        ⟨"summary", .text⟩, ⟨"systemGenerated", .boolean⟩, ⟨"userName", .text⟩]
  | workflowTemplate =>
      [⟨"active", .boolean⟩, ⟨"description", .text⟩, ⟨"id", .integer⟩, ⟨"name", .text⟩,
        ⟨"targetType", .text⟩, ⟨"version", .integer⟩]

/-- The relations of each kind, in alphabetical order of their keywords. -/
def relations : Resource → List Relation
  | artifact =>
      [⟨"hasCase", .caseFile⟩, ⟨"hasGroup", .group⟩, ⟨"hasIndicator", .indicator⟩,
        ⟨"hasNote", .note⟩, ⟨"hasTask", .task⟩]
  | artifactType => []
  | caseFile =>
      [⟨"hasArtifact", .artifact⟩, ⟨"hasGroup", .group⟩, ⟨"hasIndicator", .indicator⟩,
        ⟨"hasNote", .note⟩, ⟨"hasTag", .tag⟩, ⟨"hasTask", .task⟩,
        ⟨"hasWorkflowTemplate", .workflowTemplate⟩]
  | group =>
      [⟨"hasArtifact", .artifact⟩, ⟨"hasAttribute", .indicatorAttribute⟩,
        ⟨"hasCase", .caseFile⟩, ⟨"hasGroup", .group⟩, ⟨"hasIndicator", .indicator⟩,
        ⟨"hasSecurityLabel", .securityLabel⟩, ⟨"hasTag", .tag⟩, ⟨"hasVictim", .victim⟩,
        ⟨"hasVictimAsset", .victimAsset⟩]
  | indicatorAttribute =>
      [⟨"hasIndicator", .indicator⟩, ⟨"hasSecurityLabel", .securityLabel⟩]
  | indicator =>
      [⟨"hasArtifact", .artifact⟩, ⟨"hasAttribute", .indicatorAttribute⟩,
        ⟨"hasCase", .caseFile⟩, ⟨"hasGroup", .group⟩, ⟨"hasIndicator", .indicator⟩,
        ⟨"hasSecurityLabel", .securityLabel⟩, ⟨"hasTag", .tag⟩, ⟨"hasVictim", .victim⟩,
        ⟨"hasVictimAsset", .victimAsset⟩]
  | note =>
      [⟨"hasArtifact", .artifact⟩, ⟨"hasCase", .caseFile⟩, ⟨"hasTask", .task⟩]
  | securityLabel =>
      [⟨"hasGroup", .group⟩, ⟨"hasIndicator", .indicator⟩, ⟨"hasVictim", .victim⟩]
  | systemRole => []
  | tag =>
      [⟨"hasCase", .caseFile⟩, ⟨"hasGroup", .group⟩, ⟨"hasIndicator", .indicator⟩,
        ⟨"hasVictim", .victim⟩]
  | task =>
      [⟨"hasArtifact", .artifact⟩, ⟨"hasCase", .caseFile⟩, ⟨"hasNote", .note⟩]
  | victim =>
      [⟨"hasAttribute", .indicatorAttribute⟩, ⟨"hasGroup", .group⟩,
        ⟨"hasIndicator", .indicator⟩, ⟨"hasSecurityLabel", .securityLabel⟩, ⟨"hasTag", .tag⟩,
        ⟨"hasVictimAsset", .victimAsset⟩]
  | victimAsset =>
      [⟨"hasGroup", .group⟩, ⟨"hasIndicator", .indicator⟩, ⟨"hasVictim", .victim⟩]
  | workflowEvent =>
      [⟨"hasCase", .caseFile⟩, ⟨"hasNote", .note⟩]
  | workflowTemplate =>
      [⟨"hasCase", .caseFile⟩]

/-- The first field that goes by the name. -/
def field? (resource : Resource) (name : String) : Option Field :=
  resource.fields.find? (·.answersTo name)

/-- The first relation that goes by the name. -/
def relation? (resource : Resource) (name : String) : Option Relation :=
  resource.relations.find? (·.answersTo name)

end Resource
end ThreatIntel
