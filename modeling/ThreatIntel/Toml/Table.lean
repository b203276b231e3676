import ThreatIntel.Json.Basic

/-!
# Tables in settings files

The tables of a settings file while it is read. Each table knows how it came about, since that
decides what may still be added to it: a table is opened by one header at most, and one that was
made by a dotted key is filled by dotted keys alone.
-/

namespace ThreatIntel
namespace Toml

/-- How a table came about. -/
inductive Origin where
  /-- On the way to a table with a header. -/
  | passing
  /-- By a header of its own. -/
  | header
  /-- By a dotted key. -/
  | dotted
  deriving DecidableEq, Repr

mutual

/-- What stands under a key. -/
inductive Node where
  /-- A value. -/
  | value (json : Json)
  /-- A table. -/
  | table (table : Table)
  /-- A series of tables, the last one first. -/
  | series (tables : List Table)

/-- A table. -/
inductive Table where
  /-- What stands under which key. -/
  | mk (origin : Origin) (members : List (String × Node))

end

namespace Table

/-- How the table came about. -/
def origin : Table → Origin
  | mk origin _ => origin

/-- What stands under which key. -/
def members : Table → List (String × Node)
  | mk _ members => members

/-- The table with something under a key, in place of what stood there. -/
def put (table : Table) (key : String) (node : Node) : Table :=
  mk table.origin (Members.insert key node table.members)

/-- Change the table at the end of a path; tables that are missing on the way are made. A dotted key
does not lead into a table with a header. -/
def alter (dotted : Bool) (change : Table → Option Table) : List String → Table → Option Table
  | [], table => change table
  | key :: path, table => do
      match Members.get? key table.members with
      | none =>
          let child ← alter dotted change path (mk (if dotted then .dotted else .passing) [])
          pure (table.put key (.table child))
      | some (.table child) =>
          if dotted ∧ child.origin = .header then none
          else
            let child ← alter dotted change path child
            pure (table.put key (.table child))
      | some (.series (last :: earlier)) =>
          let last ← alter dotted change path last
          pure (table.put key (.series (last :: earlier)))
      | some _ => none

/-- Put a value under a key that is still free. -/
def define? (key : String) (value : Json) (table : Table) : Option Table :=
  match Members.get? key table.members with
  | none => some (table.put key (.value value))
  | some _ => none

/-- Put a value under a dotted key, the tables of which come from dotted keys. -/
def defineDotted? (path : List String) (key : String) (value : Json) (table : Table) :
    Option Table :=
  alter true (fun table =>
    if (table.origin = .dotted) = path.isEmpty then none else table.define? key value) path table

/-- Open a table by its header: it is new, or was made on the way to another. -/
def openTable? (key : String) (table : Table) : Option Table :=
  match Members.get? key table.members with
  | none => some (table.put key (.table (mk .header [])))
  | some (.table child) =>
      if child.origin = .passing then some (table.put key (.table (mk .header child.members)))
      else none
  | some _ => none

/-- Append a table to a series, which is new or was made by such headers. -/
def appendTable? (key : String) (table : Table) : Option Table :=
  match Members.get? key table.members with
  | none => some (table.put key (.series [mk .header []]))
  | some (.series tables) => some (table.put key (.series (mk .header [] :: tables)))
  | some _ => none

end Table

mutual

/-- A table as an object. -/
def Table.toJson : Table → Json
  | .mk _ members => .object (membersToJson members)

/-- What stands under a key, as a value. -/
def Node.toJson : Node → Json
  | .value json => json
  | .table table => Table.toJson table
  | .series tables => .array (tablesToJson tables).reverse

/-- The members of a table as those of an object. -/
def membersToJson : List (String × Node) → List (String × Json)
  | [] => []
  | (key, node) :: members => (key, Node.toJson node) :: membersToJson members

/-- Tables as objects. -/
def tablesToJson : List Table → List Json
  | [] => []
  | table :: tables => Table.toJson table :: tablesToJson tables

end

end Toml
end ThreatIntel
