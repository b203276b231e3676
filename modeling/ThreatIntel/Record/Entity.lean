import ThreatIntel.Record.Basic

/-!
# Entities

An entity is a record together with its kind, for those who learn the kind only when they ask.
-/

namespace ThreatIntel

/-- A record of some kind. -/
structure Entity where
  /-- The kind. -/
  resource : Resource
  /-- The record. -/
  record : resource.Record
  deriving DecidableEq

namespace Entity

/-- Read an entity of a kind. -/
def read (resource : Resource) (json : Json) : Except Error Entity :=
  (resource.readRecord json).map (Entity.mk resource)

/-- The number of an entity. -/
def id (entity : Entity) : Option Int64 :=
  entity.record.id

/-- The written form of an entity. -/
def toJson (entity : Entity) : Json :=
  entity.record.toJson

/-- An entity that is read is of the kind asked for. -/
theorem resource_of_read
    {resource : Resource}
    {json : Json}
    {entity : Entity}
    (reads : read resource json = .ok entity) :
    entity.resource = resource := by
  unfold read at reads
  cases record : resource.readRecord json with
  | error error => simp [record, Except.map] at reads
  | ok record =>
      simp only [record, Except.map, Except.ok.injEq] at reads
      rw [← reads]

end Entity
end ThreatIntel
