import ThreatIntel.Proofs.Exchange.Calls
import ThreatIntel.Proofs.Record.Rows
import ThreatIntel.Record.Entity
import ThreatIntel.Record.Remote

/-!
# Entities survive

An entity is written as an object without empty members, in which its number stands under `id`, and
is read back from it unchanged. So what a server stores as it was sent comes back as it was given.
-/

namespace ThreatIntel

/-- A server that answers a request that sends data with these data, under `data`. -/
def Server.Echoes (server : Server) : Prop :=
  ∀ log request sent, request.body = some sent →
    ∃ status, server.answer log request = .ok ⟨status, .object [("data", sent)]⟩ ∧
      200 ≤ status ∧ status < 300

namespace Resource

variable
  {resource : Resource}
  {record : resource.Record}

/-- The members of a written record that have a value. -/
def Record.members (record : resource.Record) : List (String × Json) :=
  Json.stated ((resource.columns.map (·.name)).zip (Row.write resource.columns record))

theorem toJson_eq_object (record : resource.Record) :
    record.toJson = .object (Members.ofList record.members) := rfl

theorem keys_members_nodup (record : resource.Record) : (record.members.map Prod.fst).Nodup := by
  refine List.Nodup.sublist (Json.keys_stated_sublist _) ?_
  rw [List.map_fst_zip (Nat.le_of_eq (aligned_write record))]
  exact resource.columnNames_nodup

/-- A written record has no empty members. -/
theorem ne_null_of_mem
    (writable : Row.Writable resource.columns record)
    {member : String × Json}
    (present : member ∈ Members.ofList record.members) :
    member.2 ≠ .null := by
  obtain ⟨⟨name, value⟩, listed, stated⟩ := List.mem_filterMap.mp
    ((Members.ofList_perm (keys_members_nodup record)).mem_iff.mp present)
  obtain ⟨json, rfl, rfl⟩ := Option.map_eq_some_iff.mp stated
  exact Row.ne_null_of_mem_write writable (List.of_mem_zip listed).2

/-- The number of a record stands under `id`, if it has one. -/
theorem get?_id (record : resource.Record) :
    record.toJson.get? "id" = record.id.map fun id => .whole id.toInt := by
  have found := congrArg List.head?
    (Json.map_get?_stated resource.columnNames_nodup (aligned_write record))
  rw [toJson_eq_object, Json.get?, Members.get?_ofList (keys_members_nodup record)]
  exact Option.some.inj found

section Echo

variable
  {server : Server}
  (echoes : server.Echoes)
  (writable : Row.Writable resource.columns record)
  (log : List Request)

include echoes writable

/-- A record that is sent to a server that echoes is the record that it answers with. -/
theorem run_askRecord
    {request : Request}
    (sends : request.body = some record.toJson) :
    (askRecord server resource request).outcome.run log = (.ok record, log ++ [request]) := by
  obtain ⟨status, answer, least, greatest⟩ := echoes log request record.toJson sends
  have success : Response.isSuccess ⟨status, .object [("data", record.toJson)]⟩ = true := by
    simp [Response.isSuccess, least, greatest]
  have accepted : Response.accepted ⟨status, .object [("data", record.toJson)]⟩ request.path =
      .ok (.object [("data", record.toJson)]) :=
    if_pos success
  have asked : (server.ask request request.path).outcome.run log =
      (.ok (.object [("data", record.toJson)]), log ++ [request]) := by
    rw [Server.run_ask, answer]
    exact congrArg (·, log ++ [request]) accepted
  have data : answeredObject request.path (.object [("data", record.toJson)]) =
      .ok record.toJson := rfl
  simp only [askRecord, Call.run_bind, asked, data, Call.run_lift, readRecord_toJson writable]

/-- A record without a number is added as it was given. -/
theorem run_createRecord
    (unnumbered : record.id = none)
    (owner : Option String) :
    (createRecord server resource record owner).outcome.run log =
      (.ok record, log ++ [.post resource.endpoint record.toJson
        (owner.toList.map fun owner => ("owner", owner))]) := by
  rw [createRecord, unnumbered]
  exact run_askRecord echoes writable log rfl

/-- A record with a number is replaced as it was given. -/
theorem run_updateRecord
    {id : Int64}
    (numbered : record.id = some id) :
    (updateRecord server resource record).outcome.run log =
      (.ok record, log ++ [.put (resource.itemPath id) record.toJson]) := by
  rw [updateRecord, numbered]
  exact run_askRecord echoes writable log rfl

end Echo
end Resource

namespace Entity

/-- The entity has a written form: its binary numbers are finite. -/
def Writable (entity : Entity) : Prop :=
  Row.Writable entity.resource.columns entity.record

theorem read_toJson {entity : Entity} (writable : entity.Writable) :
    read entity.resource entity.toJson = .ok entity := by
  unfold read toJson
  rw [Resource.readRecord_toJson writable]
  rfl

/-- An entity that is read from a proper value has a written form. -/
theorem writable_of_read
    {json : Json}
    (proper : json.Proper)
    {resource : Resource}
    {entity : Entity}
    (reads : read resource json = .ok entity) :
    entity.Writable := by
  unfold read at reads
  cases read : resource.readRecord json with
  | error error => simp [read, Except.map] at reads
  | ok record =>
      simp only [read, Except.map, Except.ok.injEq] at reads
      subst reads
      exact Resource.writable_of_readRecord proper read

/-- Nothing of an entity is lost on its way. Written, it is an object without empty members that
holds its number under `id`, and it is read back as it was; so what was read from any proper value
is read again from its written form; and a server that echoes what it is sent gives back every
record that is added or replaced. -/
theorem survives :
    (∀ entity : Entity, entity.Writable →
      read entity.resource entity.toJson = .ok entity ∧
      (∃ members, entity.toJson = .object members ∧ ∀ member ∈ members, member.2 ≠ .null) ∧
      entity.toJson.get? "id" = entity.id.map fun id => .whole id.toInt) ∧
    (∀ (resource : Resource) (json : Json) (entity : Entity), json.Proper →
      read resource json = .ok entity → read resource entity.toJson = .ok entity) ∧
    ∀ (server : Server), server.Echoes → ∀ (resource : Resource) (record : resource.Record),
      Row.Writable resource.columns record → ∀ log : List Request,
        (record.id = none → ∀ owner,
          (resource.createRecord server record owner).outcome.run log =
            (.ok record, log ++ [.post resource.endpoint record.toJson
              (owner.toList.map fun owner => ("owner", owner))])) ∧
        ∀ id, record.id = some id →
          (resource.updateRecord server record).outcome.run log =
            (.ok record, log ++ [.put (resource.itemPath id) record.toJson]) := by
  refine ⟨fun entity writable => ⟨read_toJson writable, ?_, ?_⟩, ?_, ?_⟩
  · exact ⟨_, Resource.toJson_eq_object entity.record,
      fun _ present => Resource.ne_null_of_mem writable present⟩
  · exact Resource.get?_id entity.record
  · intro resource json entity proper reads
    have same := resource_of_read reads
    subst same
    exact read_toJson (writable_of_read proper reads)
  · intro server echoes resource record writable log
    exact ⟨fun unnumbered => Resource.run_createRecord echoes writable log unnumbered,
      fun _ numbered => Resource.run_updateRecord echoes writable log numbered⟩

theorem survives_of_leap_second :
    read .tag (toJson ⟨.tag, some 7, some "", none, none, some .epoch, ()⟩) =
        .ok ⟨.tag, some 7, some "", none, none, some .epoch, ()⟩ ∧
      (∃ entity,
        read .indicator (.object [("dateAdded", .text "-0001-12-31 23:59:60.5z"),
          ("rating", .whole 4), ("unknown", .null)]) = .ok entity ∧
        read .indicator entity.toJson = .ok entity) ∧
      (Resource.createRecord
        ⟨fun _ request => .ok ⟨200, .object [("data", request.body.getD .null)]⟩⟩
        .tag (none, some "", none, none, some .epoch, ()) none).outcome.run [] =
          (.ok (none, some "", none, none, some .epoch, ()), [.post "/v3/tags"
            (.object [("lastUsed", .text "1970-01-01T00:00:00Z"), ("name", .text "")])]) := by
  refine ⟨?_, ?_, ?_⟩
  · refine (survives.1 ⟨.tag, some 7, some "", none, none, some .epoch, ()⟩ ?_).1
    simp [Writable, Row.Writable, Format.Writable, Resource.columns, Resource.details]
  · have proper : Json.Proper (.object [("dateAdded", .text "-0001-12-31 23:59:60.5z"),
        ("rating", .whole 4), ("unknown", .null)]) := by
      simp only [Json.Proper, Json.ProperMembers, Json.whole, Number.Proper]
      decide
    have reads : (read .indicator (.object [("dateAdded", .text "-0001-12-31 23:59:60.5z"),
        ("rating", .whole 4), ("unknown", .null)])).toOption.isSome = true := by
      decide +kernel
    cases read : read .indicator (.object [("dateAdded", .text "-0001-12-31 23:59:60.5z"),
        ("rating", .whole 4), ("unknown", .null)]) with
    | error error =>
        rw [read] at reads
        cases reads
    | ok entity => exact ⟨entity, rfl, survives.2.1 _ _ entity proper read⟩
  · have echoes : Server.Echoes
        ⟨fun _ request => .ok ⟨200, .object [("data", request.body.getD .null)]⟩⟩ := by
      intro log request sent sends
      exact ⟨200, by simp only [sends, Option.getD_some], by decide, by decide⟩
    have writable : Row.Writable (Resource.columns .tag)
        (none, some "", none, none, some .epoch, ()) := by
      simp [Row.Writable, Format.Writable, Resource.columns, Resource.details]
    have added := (survives.2.2 _ echoes .tag _ writable []).1 rfl none
    have written : toJson ⟨.tag, none, some "", none, none, some .epoch, ()⟩ =
        .object [("lastUsed", .text "1970-01-01T00:00:00Z"), ("name", .text "")] := by
      decide +kernel
    rw [toJson] at written
    rw [written] at added
    exact added

end Entity
end ThreatIntel
