import ThreatIntel.Binary64.Basic
import ThreatIntel.Json.Codec
import ThreatIntel.Resource
import ThreatIntel.Time.Timestamp

/-!
# Record schema

The columns in which the records of each kind are kept: a name and the format of the values under
it. Every column may be empty. The first column of every kind is the number of the record.
-/

namespace ThreatIntel

/-- The format of a column. -/
inductive Format where
  /-- Whole numbers of 64 bits. -/
  | integer
  /-- Texts. -/
  | text
  /-- Truth values. -/
  | boolean
  /-- Binary numbers. -/
  | real
  /-- Instants, written as timestamps. -/
  | instant
  deriving DecidableEq, Repr

/-- Instants, written as timestamps in universal time. -/
def Codec.timestamp : Codec Time.Instant where
  write instant := .text (Time.Timestamp.write instant)
  read?
    | .text value => Time.Timestamp.readLenient? value.toList
    | _ => none

namespace Format

/-- The values of a format. -/
abbrev Value : Format → Type
  | integer => Int64
  | text => String
  | boolean => Bool
  | real => Binary64
  | instant => Time.Instant

/-- How the values of a format are written. -/
def codec : (format : Format) → Codec format.Value
  | integer => .int64
  | text => .text
  | boolean => .boolean
  | real => .real
  | instant => .timestamp

instance (format : Format) : DecidableEq format.Value :=
  match format with
  | integer => inferInstanceAs (DecidableEq Int64)
  | text => inferInstanceAs (DecidableEq String)
  | boolean => inferInstanceAs (DecidableEq Bool)
  | real => inferInstanceAs (DecidableEq Binary64)
  | instant => inferInstanceAs (DecidableEq Time.Instant)

end Format

/-- A column of a record. -/
structure Column where
  /-- The name of the column. -/
  name : String
  /-- The format of its values. -/
  format : Format
  deriving DecidableEq, Repr

namespace Resource

/-- The columns of each kind after the number of the record. -/
def details : Resource → List Column
  | artifact =>
      [⟨"caseId", .integer⟩, ⟨"caseXid", .text⟩, ⟨"taskId", .integer⟩, ⟨"summary", .text⟩,
        ⟨"type", .text⟩, ⟨"intelType", .text⟩, ⟨"source", .text⟩, ⟨"fileData", .text⟩,
        ⟨"dateAdded", .instant⟩]
  | artifactType =>
      [⟨"name", .text⟩, ⟨"description", .text⟩, ⟨"dataType", .text⟩, ⟨"intelType", .text⟩]
  | caseFile =>
      [⟨"xid", .text⟩, ⟨"name", .text⟩, ⟨"description", .text⟩, ⟨"severity", .text⟩,
        ⟨"status", .text⟩, ⟨"resolution", .text⟩, ⟨"ownerName", .text⟩,
        ⟨"caseOpenTime", .instant⟩, ⟨"caseCloseTime", .instant⟩, ⟨"dateAdded", .instant⟩]
  | group =>
      [⟨"xid", .text⟩, ⟨"type", .text⟩, ⟨"name", .text⟩, ⟨"ownerName", .text⟩,
        ⟨"status", .text⟩, ⟨"eventDate", .instant⟩, ⟨"dateAdded", .instant⟩,
        ⟨"lastModified", .instant⟩]
  | indicatorAttribute =>
      [⟨"type", .text⟩, ⟨"value", .text⟩, ⟨"source", .text⟩, ⟨"default", .boolean⟩,
        ⟨"pinned", .boolean⟩, ⟨"dateAdded", .instant⟩, ⟨"lastModified", .instant⟩]
  | indicator =>
      [⟨"type", .text⟩, ⟨"summary", .text⟩, ⟨"ownerName", .text⟩, ⟨"description", .text⟩,
        ⟨"rating", .real⟩, ⟨"confidence", .integer⟩, ⟨"active", .boolean⟩,
        ⟨"activeLocked", .boolean⟩, ⟨"privateFlag", .boolean⟩, ⟨"source", .text⟩,
        ⟨"dateAdded", .instant⟩, ⟨"lastModified", .instant⟩]
  | note =>
      [⟨"caseId", .integer⟩, ⟨"taskId", .integer⟩, ⟨"artifactId", .integer⟩, ⟨"author", .text⟩,
        ⟨"text", .text⟩, ⟨"summary", .text⟩, ⟨"dateAdded", .instant⟩,
        ⟨"lastModified", .instant⟩]
  | securityLabel =>
      [⟨"name", .text⟩, ⟨"description", .text⟩, ⟨"color", .text⟩, ⟨"owner", .text⟩,
        ⟨"dateAdded", .instant⟩]
  | systemRole =>
      [⟨"name", .text⟩, ⟨"description", .text⟩, ⟨"active", .boolean⟩, ⟨"assignable", .boolean⟩,
        ⟨"displayed", .boolean⟩]
  | tag =>
      [⟨"name", .text⟩, ⟨"description", .text⟩, ⟨"owner", .text⟩, ⟨"lastUsed", .instant⟩]
  | task =>
      [⟨"caseId", .integer⟩, ⟨"name", .text⟩, ⟨"description", .text⟩, ⟨"status", .text⟩,
        ⟨"required", .boolean⟩, ⟨"workflowPhase", .integer⟩, ⟨"workflowStep", .integer⟩,
        ⟨"dueDate", .instant⟩, ⟨"completedDate", .instant⟩]
  | victim =>
      [⟨"name", .text⟩, ⟨"description", .text⟩, ⟨"nationality", .text⟩, ⟨"org", .text⟩,
        ⟨"suborg", .text⟩, ⟨"workLocation", .text⟩, ⟨"ownerName", .text⟩]
  | victimAsset =>
      [⟨"victimId", .integer⟩, ⟨"type", .text⟩, ⟨"asset", .text⟩, ⟨"address", .text⟩,
        ⟨"phone", .text⟩, ⟨"accountName", .text⟩, ⟨"networkType", .text⟩, ⟨"website", .text⟩]
  | workflowEvent =>
      [⟨"caseId", .integer⟩, ⟨"caseXid", .text⟩, ⟨"summary", .text⟩, ⟨"link", .text⟩,
        ⟨"linkText", .text⟩, ⟨"deleted", .boolean⟩, ⟨"deletedReason", .text⟩,
        ⟨"systemGenerated", .boolean⟩, ⟨"eventDate", .instant⟩, ⟨"dateAdded", .instant⟩]
  | workflowTemplate =>
      [⟨"name", .text⟩, ⟨"description", .text⟩, ⟨"active", .boolean⟩, ⟨"version", .integer⟩]

/-- The columns of each kind. -/
def columns (resource : Resource) : List Column :=
  ⟨"id", .integer⟩ :: resource.details

end Resource
end ThreatIntel
