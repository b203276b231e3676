import ThreatIntel.Error
import ThreatIntel.Record.Schema

/-!
# Records

A record is a row of values, one for each column of its kind or none. One codec, written once for
all schemas, writes the filled columns of a row as an object and reads a row back from it.
-/

namespace ThreatIntel

/-- Values for a list of columns, each of which may be empty. -/
def Row : List Column → Type
  | [] => Unit
  | column :: columns => Option column.format.Value × Row columns

namespace Row

/-- The row without any value. -/
def empty : (columns : List Column) → Row columns
  | [] => ()
  | _ :: columns => (none, empty columns)

/-- Equality of rows is decidable. -/
def decEq : (columns : List Column) → DecidableEq (Row columns)
  | [] => inferInstanceAs (DecidableEq Unit)
  | _ :: columns =>
      let _ := decEq columns
      inferInstanceAs (DecidableEq (_ × _))

instance (columns : List Column) : DecidableEq (Row columns) := decEq columns

/-- How the values of one column are written: an empty one is left out. -/
def entry (column : Column) : Entry (Option column.format.Value) :=
  .optional column.format.codec

/-- The members of a row. -/
def write : (columns : List Column) → Row columns → List (Option Json)
  | [], _ => []
  | column :: columns, (value, row) => (entry column).write value :: write columns row

/-- Read a row from the slots of its columns. -/
def read? : (columns : List Column) → List Slot → Option (Row columns × List Slot)
  | [], slots => some ((), slots)
  | _ :: _, [] => none
  | column :: columns, slot :: slots => do
      let value ← (entry column).read? slot
      let (row, slots) ← read? columns slots
      pure ((value, row), slots)

/-- The members of a row under the names of its columns. -/
def form (columns : List Column) : Form (Row columns) (Row columns) where
  names := columns.map (·.name)
  write := write columns
  read? := read? columns

end Row

/-- A record of one kind. -/
abbrev Resource.Record (resource : Resource) : Type :=
  Row resource.columns

namespace Resource

/-- How records of a kind are written. -/
def codec (resource : Resource) : Codec resource.Record :=
  (Row.form resource.columns).codec

/-- Read a record of a kind. -/
def readRecord (resource : Resource) (json : Json) : Except Error resource.Record :=
  match resource.codec.readJson? json with
  | some record => .ok record
  | none => .error (Error.decode s!"Failed to decode {resource.title}").withCause

end Resource

namespace Resource.Record

/-- The number of a record. -/
def id {resource : Resource} (record : resource.Record) : Option Int64 :=
  record.1

/-- The written form of a record. -/
def toJson {resource : Resource} (record : resource.Record) : Json :=
  resource.codec.write record

end Resource.Record
end ThreatIntel
