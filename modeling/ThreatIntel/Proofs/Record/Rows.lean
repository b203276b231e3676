import ThreatIntel.Proofs.Json.Objects
import ThreatIntel.Proofs.Json.Proper
import ThreatIntel.Proofs.Time.Timestamps
import ThreatIntel.Record.Basic

/-!
# Rows survive

Each format reads back what it writes, and so does a row of columns, and a record of any kind: no
two of its columns share a name. Only a binary number without a decimal form is lost; none of these
is ever read.
-/

namespace ThreatIntel

namespace Format

/-- The value has a written form. -/
def Writable : (format : Format) → format.Value → Prop
  | real, value => Binary64.isFinite value = true
  | integer, _ | text, _ | boolean, _ | instant, _ => True

theorem write_ne_null
    {format : Format}
    {value : format.Value}
    (writable : format.Writable value) :
    format.codec.write value ≠ .null := by
  cases format with
  | real =>
      have written : Codec.real.write value = .number (.real value) := if_pos writable
      change Codec.real.write value ≠ .null
      rw [written]
      nofun
  | integer | text | boolean | instant => nofun

/-- A written value is read back. -/
theorem readJson?_write
    {format : Format}
    {value : format.Value}
    (writable : format.Writable value) :
    format.codec.readJson? (format.codec.write value) = some value := by
  cases format with
  | integer =>
      have inRange := And.intro (Int64.minValue_le_toInt value) (Int64.toInt_le value)
      change (if Int64.minValue.toInt ≤ Int64.toInt value ∧
        Int64.toInt value ≤ Int64.maxValue.toInt then some (Int64.toInt value) else none).map
          Int64.ofInt = some value
      rw [if_pos inRange, Option.map_some, Int64.ofInt_toInt]
  | text | boolean => rfl
  | real =>
      have written : Codec.real.write value = .number (.real value) := if_pos writable
      change Codec.real.readJson? (Codec.real.write value) = some value
      rw [written]
      rfl
  | instant => exact Time.Timestamp.readLenient?_write value

/-- A value that is read from a proper one has a written form. -/
theorem writable_of_read
    {json : Json}
    (proper : json.Proper)
    {format : Format}
    {value : format.Value}
    (reads : format.codec.read? (.ofJson json) = some value) :
    format.Writable value := by
  cases format with
  | real =>
      cases json with
      | number number => exact proper.isFinite_of_read reads
      | null | boolean _ | text _ | array _ | object _ => cases reads
  | integer | text | boolean | instant => trivial

end Format

namespace Entry

/-- A member that may be left out is read back, if its value is read back and is not written like
none. -/
theorem read?_stating_optional
    {α : Type}
    {codec : Codec α}
    {value : Option α}
    (visible : ∀ given ∈ value, codec.write given ≠ .null)
    (reads : ∀ given ∈ value, codec.readJson? (codec.write given) = some given) :
    (optional codec).read? (Slot.stating ((optional codec).write value)) = some value := by
  cases value with
  | none => rfl
  | some given =>
      have read : codec.read? (.ofJson (codec.write given)) = some given := reads given rfl
      have notNull : Document.ofJson (codec.write given) ≠ .null := by
        intro null
        refine visible given rfl ?_
        cases written : codec.write given with
        | null => rfl
        | boolean _ | number _ | text _ | array _ | object _ =>
            rw [written] at null
            cases null
      change readOptional? codec (.ofJson (codec.write given)) = some (some given)
      unfold readOptional?
      split
      · next null => exact absurd null notNull
      · rw [read]
        rfl

/-- The value of a member that is read from a proper one. -/
theorem exists_of_read?_optional
    {α : Type}
    {codec : Codec α}
    {slot : Slot}
    (proper : slot.Proper)
    {value : α}
    (reads : (optional codec).read? slot = some (some value)) :
    ∃ json : Json, json.Proper ∧ codec.read? (.ofJson json) = some value := by
  cases slot with
  | given document =>
      obtain ⟨json, sound, rfl⟩ := proper
      change readOptional? codec (.ofJson json) = some (some value) at reads
      unfold readOptional? at reads
      split at reads
      · cases reads
      · obtain ⟨given, read, same⟩ := Option.map_eq_some_iff.mp reads
        cases same
        exact ⟨json, sound, read⟩
  | unnamed | beyond => cases reads

end Entry

namespace Row

/-- Every value of the row has a written form. -/
def Writable : (columns : List Column) → Row columns → Prop
  | [], _ => True
  | column :: columns, (value, row) =>
      (∀ given ∈ value, column.format.Writable given) ∧ Writable columns row

theorem length_write
    {columns : List Column}
    (row : Row columns) :
    (write columns row).length = columns.length := by
  induction columns with
  | nil => rfl
  | cons column columns inductionHypothesis => exact congrArg (· + 1) (inductionHypothesis row.2)

/-- A row is read back from what its written members state. -/
theorem read?_write
    {columns : List Column}
    {row : Row columns}
    (writable : row.Writable columns) :
    read? columns ((write columns row).map Slot.stating) = some (row, []) := by
  induction columns with
  | nil => rfl
  | cons column columns inductionHypothesis =>
      obtain ⟨value, row⟩ := row
      obtain ⟨first, others⟩ := writable
      have head : (entry column).read? (Slot.stating ((entry column).write value)) = some value :=
        Entry.read?_stating_optional (fun given member => Format.write_ne_null (first given member))
          (fun given member => Format.readJson?_write (first given member))
      simp only [write, List.map_cons, read?, head, inductionHypothesis others,
        Option.bind_eq_bind, Option.bind_some]
      rfl

/-- A row that is read from proper values has a written form. -/
theorem writable_of_read?
    {columns : List Column}
    {slots : List Slot}
    (proper : ∀ slot ∈ slots, slot.Proper)
    {row : Row columns}
    {rest : List Slot}
    (reads : read? columns slots = some (row, rest)) :
    row.Writable columns := by
  induction columns generalizing slots rest with
  | nil => trivial
  | cons column columns inductionHypothesis =>
      cases slots with
      | nil => cases reads
      | cons slot slots =>
          obtain ⟨value, first, reads⟩ := Option.bind_eq_some_iff.mp reads
          obtain ⟨⟨others, rest'⟩, later, built⟩ := Option.bind_eq_some_iff.mp reads
          cases built
          refine ⟨fun given member => ?_, ?_⟩
          · obtain ⟨json, sound, read⟩ := Entry.exists_of_read?_optional
              (proper slot List.mem_cons_self) (member ▸ first)
            exact Format.writable_of_read sound read
          · exact inductionHypothesis
              (fun slot member => proper slot (List.mem_cons_of_mem _ member)) later

/-- No member of a written row is null. -/
theorem ne_null_of_mem_write
    {columns : List Column}
    {row : Row columns}
    (writable : row.Writable columns)
    {json : Json}
    (member : some json ∈ write columns row) :
    json ≠ .null := by
  induction columns with
  | nil => cases member
  | cons column columns inductionHypothesis =>
      obtain ⟨value, row⟩ := row
      obtain ⟨first, others⟩ := writable
      rcases List.mem_cons.mp member with head | later
      · obtain ⟨given, present, rfl⟩ := Option.map_eq_some_iff.mp head.symm
        exact Format.write_ne_null (first given present)
      · exact inductionHypothesis others later

end Row

namespace Resource

/-- No two columns of a kind share a name. -/
theorem columnNames_nodup (resource : Resource) : (resource.columns.map (·.name)).Nodup := by
  cases resource <;> decide

variable
  {resource : Resource}
  {record : resource.Record}

/-- The members of a written record, under the names of the columns. -/
theorem aligned_write (record : resource.Record) :
    (resource.columns.map (·.name)).length = (Row.write resource.columns record).length := by
  rw [List.length_map, Row.length_write]

/-- A written record is read back. -/
theorem readRecord_toJson (writable : Row.Writable resource.columns record) :
    resource.readRecord record.toJson = .ok record := by
  have reads : resource.codec.readJson? record.toJson = some record :=
    Form.readJson?_write resource.columnNames_nodup (aligned_write record)
      (Row.read?_write writable)
  rw [readRecord, reads]

/-- A record that is read from a proper value has a written form. -/
theorem writable_of_readRecord
    {json : Json}
    (proper : json.Proper)
    (reads : resource.readRecord json = .ok record) :
    Row.Writable resource.columns record := by
  unfold readRecord at reads
  split at reads
  · next read =>
      cases reads
      obtain ⟨slots, stated, rest⟩ := Option.bind_eq_some_iff.mp read
      obtain ⟨⟨row, left⟩, row?, built⟩ := Option.bind_eq_some_iff.mp rest
      cases built
      exact Row.writable_of_read? (Slot.proper_of_ofDocument? proper stated) row?
  · cases reads

end Resource
end ThreatIntel
