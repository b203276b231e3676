import ThreatIntel.Json.Document

/-!
# Codecs

How values of a type are written as JSON and read back. A codec of a structure is built member by
member from a `Form`: a structure is written as an object, and may be read from an object, in which
unknown names are passed over, or from a list of its members in their order.
-/

namespace ThreatIntel

/-- A way to write the values of a type and to read them back. -/
structure Codec (α : Type) where
  /-- The written form of a value. -/
  write : α → Json
  /-- The value that a document states, if it states one. -/
  read? : Document → Option α

namespace Codec

/-- Read a value rather than a text. -/
def readJson? (codec : Codec α) (json : Json) : Option α :=
  codec.read? (.ofJson json)

/-- Any value. -/
def json : Codec Json where
  write := id
  read? := Document.toJson?

/-- Truth values. -/
def boolean : Codec Bool where
  write := .boolean
  read?
    | .boolean value => some value
    | _ => none

/-- Texts. -/
def text : Codec String where
  write := .text
  read?
    | .text value => some value
    | _ => none

/-- Whole numbers between two bounds, both included. -/
def between (least greatest : Int) : Codec Int where
  write := .whole
  read?
    | .number (.whole value) => if least ≤ value ∧ value ≤ greatest then some value else none
    | _ => none

/-- A codec for another view of the same values. -/
def via (codec : Codec α) (view : β → α) (ofView : α → β) : Codec β where
  write value := codec.write (view value)
  read? document := (codec.read? document).map ofView

/-- Signed words of 64 bits. -/
def int64 : Codec Int64 :=
  (between Int64.minValue.toInt Int64.maxValue.toInt).via Int64.toInt Int64.ofInt

/-- Unsigned words of 32 bits. -/
def uint32 : Codec UInt32 :=
  (between 0 (UInt32.size - 1)).via (fun word => word.toNat) (fun value => UInt32.ofNat value.toNat)

/-- Unsigned words of 64 bits. -/
def uint64 : Codec UInt64 :=
  (between 0 (UInt64.size - 1)).via (fun word => word.toNat) (fun value => UInt64.ofNat value.toNat)

/-- Binary numbers; those without a decimal form are written as no value. -/
def real : Codec Binary64 where
  write value := if value.isFinite then .number (.real value) else .null
  read?
    | .number (.whole value) => some (.ofInt value)
    | .number (.real value) => some value
    | _ => none

/-- Lists. -/
def list (codec : Codec α) : Codec (List α) where
  write items := .array (items.map codec.write)
  read?
    | .array items => items.mapM codec.read?
    | _ => none

/-- Read the members of a dictionary. -/
def readMembers? (codec : Codec α) (members : List (Option String × Document)) :
    Option (List (String × α)) :=
  members.mapM fun (key, value) => do pure (← key, ← codec.read? value)

/-- Values under keys, in the order of the keys. -/
def dictionary (codec : Codec α) : Codec (List (String × α)) where
  write members := .ofList (members.map fun (key, value) => (key, codec.write value))
  read?
    | .object members => (codec.readMembers? members).map Members.ofList
    | _ => none

/-- Values known by their names: a name alone, or as the only key of an object, without a value. -/
def names (all : List α) (name : α → String) : Codec α where
  write value := .text (name value)
  read?
    | .text word => all.find? (name · == word)
    | .object [(some word, .null)] => all.find? (name · == word)
    | _ => none

end Codec

/-- What a document says for one member of a structure. -/
inductive Slot where
  /-- The member is stated. -/
  | given (document : Document)
  /-- The document is an object without that name. -/
  | unnamed
  /-- The document is a list that ends before the member. -/
  | beyond

namespace Slot

/-- The slots of the members of a list. -/
def ofItems? : List String → List Document → Option (List Slot)
  | [], [] => some []
  | [], _ :: _ => none
  | _ :: names, [] => (beyond :: ·) <$> ofItems? names []
  | _ :: names, item :: items => (given item :: ·) <$> ofItems? names items

/-- The slot of one name among the members of an object; a name may stand there once. -/
def ofName? (members : List (Option String × Document)) (name : String) : Option Slot :=
  match members.filter (·.1 == some name) with
  | [] => some unnamed
  | [member] => some (given member.2)
  | _ => none

/-- The slots of the members that have the given names, in the order of the names. -/
def ofDocument? (names : List String) : Document → Option (List Slot)
  | .array items => ofItems? names items
  | .object members => if members.all (·.1.isSome) then names.mapM (ofName? members) else none
  | _ => none

end Slot

/-- A way to write one member of a structure and to read it back. -/
structure Entry (α : Type) where
  /-- The written form of the member, if it is written. -/
  write : α → Option Json
  /-- The value of the member, if the slot allows one. -/
  read? : Slot → Option α

namespace Entry

/-- A member that is always there. -/
def required (codec : Codec α) : Entry α where
  write value := some (codec.write value)
  read?
    | .given document => codec.read? document
    | .unnamed | .beyond => none

/-- A member that has a value of its own when it is not stated. -/
def defaulted (codec : Codec α) (default : α) : Entry α where
  write value := some (codec.write value)
  read?
    | .given document => codec.read? document
    | .unnamed | .beyond => some default

/-- Read a member that may be stated as no value. -/
def readOptional? (codec : Codec α) : Document → Option (Option α)
  | .null => some none
  | document => (codec.read? document).map some

/-- A member that may be left out of an object, but not of a list; it is left out where it has no
value. -/
def optional (codec : Codec α) : Entry (Option α) where
  write value := value.map codec.write
  read?
    | .given document => readOptional? codec document
    | .unnamed => some none
    | .beyond => none

/-- A member that may be left out; it is left out where it has no value. -/
def omissible (codec : Codec α) : Entry (Option α) where
  write value := value.map codec.write
  read?
    | .given document => readOptional? codec document
    | .unnamed | .beyond => some none

/-- A member that may be left out; where it has no value, that is written. -/
def nullable (codec : Codec α) : Entry (Option α) where
  write value := some ((value.map codec.write).getD .null)
  read? := (omissible codec).read?

/-- The same member, left out where it satisfies a condition. -/
def hideIf (entry : Entry α) (hidden : α → Bool) : Entry α where
  write value := if hidden value then none else entry.write value
  read? := entry.read?

/-- The same member, never written. -/
def secret (entry : Entry α) : Entry α :=
  entry.hideIf fun _ => true

end Entry

/-- How the members of a record `ρ` are written one after the other, and how they are read to an
`α`. -/
structure Form (ρ α : Type) where
  /-- The names of the members. -/
  names : List String
  /-- The members of a record. -/
  write : ρ → List (Option Json)
  /-- What the first slots state, and the slots after them. -/
  read? : List Slot → Option (α × List Slot)

namespace Form

/-- A form without members. -/
def build (value : α) : Form ρ α where
  names := []
  write _ := []
  read? slots := some (value, slots)

/-- A form with one more member at the end. -/
def field (form : Form ρ (β → α)) (name : String) (get : ρ → β) (entry : Entry β) : Form ρ α where
  names := form.names ++ [name]
  write record := form.write record ++ [entry.write (get record)]
  read? slots := do
    let (make, slots) ← form.read? slots
    match slots with
    | slot :: slots => (entry.read? slot).map fun value => (make value, slots)
    | [] => none

/-- The codec of a structure. -/
def codec (form : Form ρ ρ) : Codec ρ where
  write record := .ofOptions (form.names.zip (form.write record))
  read? document := do
    let slots ← Slot.ofDocument? form.names document
    let (record, _) ← form.read? slots
    pure record

end Form
end ThreatIntel
