import ThreatIntel.Json.Basic

/-!
# Documents

What a JSON text says before it is taken as a value: members stand in their written order and a key
may occur twice, and a part whose form is right may still have no value, such as a number beyond
every binary number. Such a part does no harm where it is passed over.
-/

namespace ThreatIntel

/-- The content of a JSON text. -/
inductive Document where
  /-- No value. -/
  | null
  /-- A truth value. -/
  | boolean (value : Bool)
  /-- A number. -/
  | number (value : Number)
  /-- A text. -/
  | text (value : String)
  /-- A list. -/
  | array (items : List Document)
  /-- Members as written; a key without a value is `none`. -/
  | object (members : List (Option String × Document))
  /-- A part of correct form that has no value. -/
  | unreadable
  deriving Repr

namespace Document

mutual

/-- The value of a document, in which the last of several equal keys counts. -/
def toJson? : Document → Option Json
  | null => some .null
  | boolean value => some (.boolean value)
  | number value => some (.number value)
  | text value => some (.text value)
  | array items => (itemsToJson? items).map .array
  | object members => (membersToJson? members).map .ofList
  | unreadable => none

/-- The values of a list of documents. -/
def itemsToJson? : List Document → Option (List Json)
  | [] => some []
  | item :: items => do
      let first ← toJson? item
      let rest ← itemsToJson? items
      pure (first :: rest)

/-- The values of the members of a document. -/
def membersToJson? : List (Option String × Document) → Option (List (String × Json))
  | [] => some []
  | (key, value) :: members => do
      let key ← key
      let first ← toJson? value
      let rest ← membersToJson? members
      pure ((key, first) :: rest)

end

mutual

/-- The document that states a value. -/
def ofJson : Json → Document
  | .null => null
  | .boolean value => boolean value
  | .number value => number value
  | .text value => text value
  | .array items => array (ofItems items)
  | .object members => object (ofMembers members)

/-- The documents that state a list of values. -/
def ofItems : List Json → List Document
  | [] => []
  | item :: items => ofJson item :: ofItems items

/-- The members that state the members of an object. -/
def ofMembers : List (String × Json) → List (Option String × Document)
  | [] => []
  | (key, value) :: members => (some key, ofJson value) :: ofMembers members

end

@[simp] theorem ofItems_eq_map (items : List Json) : ofItems items = items.map ofJson := by
  induction items with
  | nil => rfl
  | cons item items inductionHypothesis => simp [ofItems, inductionHypothesis]

@[simp] theorem ofMembers_eq_map (members : List (String × Json)) :
    ofMembers members = members.map fun (key, value) => (some key, ofJson value) := by
  induction members with
  | nil => rfl
  | cons member members inductionHypothesis => simp [ofMembers, inductionHypothesis]

end Document
end ThreatIntel
