import ThreatIntel.Proofs.Json.Objects
import ThreatIntel.Proofs.Json.Ordered
import ThreatIntel.Proofs.Json.Pretty

/-!
# Keys of written structures

A structure whose member names ascend is written with its members in that order, those without a
value left out. So the whole is ordered, and its keys ascend, if this holds of the written values;
and the whole is plain, one level above these values.
-/

namespace ThreatIntel

/-- The bytes of the first text come before those of the second. -/
def BytesBefore (first second : String) : Prop :=
  first.toUTF8.toList < second.toUTF8.toList

instance (first second : String) : Decidable (BytesBefore first second) :=
  inferInstanceAs (Decidable (first.toUTF8.toList < second.toUTF8.toList))

namespace Document

mutual

/-- At every level of the document all keys have a value, and each comes before the next by its
bytes. -/
def KeysAscend : Document → Prop
  | null | boolean _ | number _ | text _ | unreadable => True
  | array items => KeysAscendInItems items
  | object members =>
      (∃ keys : List String, members.map Prod.fst = keys.map some ∧ keys.Pairwise BytesBefore) ∧
        KeysAscendInMembers members

/-- The keys ascend in every item of the list. -/
def KeysAscendInItems : List Document → Prop
  | [] => True
  | item :: items => KeysAscend item ∧ KeysAscendInItems items

/-- The keys ascend in every value among the members. -/
def KeysAscendInMembers : List (Option String × Document) → Prop
  | [] => True
  | (_, value) :: members => KeysAscend value ∧ KeysAscendInMembers members

end

theorem keysAscendInItems_ofItems
    {items : List Json}
    (ascend : ∀ item ∈ items, (ofJson item).KeysAscend) :
    KeysAscendInItems (ofItems items) := by
  induction items with
  | nil => trivial
  | cons item items inductionHypothesis =>
      refine ⟨ascend item List.mem_cons_self, inductionHypothesis fun item later => ?_⟩
      exact ascend item (List.mem_cons_of_mem _ later)

theorem keysAscendInMembers_ofMembers
    {members : List (String × Json)}
    (ascend : ∀ member ∈ members, (ofJson member.2).KeysAscend) :
    KeysAscendInMembers (ofMembers members) := by
  induction members with
  | nil => trivial
  | cons member members inductionHypothesis =>
      refine ⟨ascend member List.mem_cons_self, inductionHypothesis fun member later => ?_⟩
      exact ascend member (List.mem_cons_of_mem _ later)

theorem keysAscend_object
    {members : List (String × Json)}
    (keys : (members.map Prod.fst).Pairwise BytesBefore)
    (ascend : ∀ member ∈ members, (ofJson member.2).KeysAscend) :
    (ofJson (.object members)).KeysAscend := by
  refine ⟨⟨members.map Prod.fst, ?_, keys⟩, keysAscendInMembers_ofMembers ascend⟩
  simp

end Document

namespace Json

theorem plainItems_iff
    {levels : Nat}
    (items : List Json) :
    PlainItems levels items ↔ ∀ item ∈ items, item.Plain levels := by
  induction items with
  | nil => simp [PlainItems]
  | cons item items inductionHypothesis => simp [PlainItems, inductionHypothesis]

theorem plainMembers_iff
    {levels : Nat}
    (members : List (String × Json)) :
    PlainMembers levels members ↔ ∀ member ∈ members, member.2.Plain levels := by
  induction members with
  | nil => simp [PlainMembers]
  | cons member members inductionHypothesis => simp [PlainMembers, inductionHypothesis]

/-- A member is stated under its name with its value. -/
theorem mem_of_mem_stated
    {members : List (String × Option Json)}
    {member : String × Json}
    (stated : member ∈ stated members) :
    (member.1, some member.2) ∈ members := by
  obtain ⟨⟨key, value⟩, given, same⟩ := List.mem_filterMap.mp stated
  obtain ⟨value, rfl, rfl⟩ := Option.map_eq_some_iff.mp same
  exact given

end Json

/-! ## Tidy values -/

/-- The value is plain and ordered, and its keys ascend by their bytes. -/
structure Json.Tidy (levels : Nat) (json : Json) : Prop where
  plain : json.Plain levels
  ordered : json.Ordered
  ascend : (Document.ofJson json).KeysAscend

/-- Whatever the codec writes is tidy. -/
def Codec.Tidy (levels : Nat) (codec : Codec α) : Prop :=
  ∀ value, (codec.write value).Tidy levels

/-- Whatever is written of the member is tidy. -/
def Entry.Tidy (levels : Nat) (entry : Entry α) : Prop :=
  ∀ value, ∀ written ∈ entry.write value, written.Tidy levels

/-- Under each name the form writes a tidy value or none. -/
structure Form.Tidy (levels : Nat) (form : Form ρ α) : Prop where
  aligned (record : ρ) : form.names.length = (form.write record).length
  values (record : ρ) : ∀ written, some written ∈ form.write record → written.Tidy levels

theorem Codec.tidy_text (levels : Nat) : Codec.text.Tidy levels :=
  fun _ => ⟨by cases levels <;> trivial, trivial, trivial⟩

/-- A list lies one level above its items. -/
theorem Codec.Tidy.list
    {levels : Nat}
    {codec : Codec α}
    (tidy : codec.Tidy levels) :
    (Codec.list codec).Tidy (levels + 1) := by
  intro items
  have each : ∀ item ∈ items.map codec.write, item.Tidy levels := by
    intro item written
    obtain ⟨value, -, rfl⟩ := List.mem_map.mp written
    exact tidy value
  constructor
  · exact (Json.plainItems_iff _).mpr fun item written => (each item written).plain
  · exact (Json.orderedItems_iff _).mpr fun item written => (each item written).ordered
  · exact Document.keysAscendInItems_ofItems fun item written => (each item written).ascend

theorem Codec.Tidy.defaulted
    {levels : Nat}
    {codec : Codec α}
    (tidy : codec.Tidy levels)
    (default : α) :
    (Entry.defaulted codec default).Tidy levels := by
  rintro value _ ⟨⟩
  exact tidy value

theorem Codec.Tidy.omissible
    {levels : Nat}
    {codec : Codec α}
    (tidy : codec.Tidy levels) :
    (Entry.omissible codec).Tidy levels := by
  intro value written stated
  obtain ⟨given, -, rfl⟩ := Option.map_eq_some_iff.mp stated
  exact tidy given

namespace Form

theorem tidy_build (levels : Nat) (value : α) : (build value : Form ρ α).Tidy levels :=
  ⟨fun _ => rfl, nofun⟩

theorem Tidy.field
    {levels : Nat}
    {form : Form ρ (β → α)}
    (tidy : form.Tidy levels)
    {name : String}
    {get : ρ → β}
    {entry : Entry β}
    (last : entry.Tidy levels) :
    (form.field name get entry).Tidy levels where
  aligned record := by
    simp [Form.field, tidy.aligned record]
  values record written member := by
    rcases List.mem_append.mp member with front | back
    · exact tidy.values record written front
    · exact last (get record) written (List.mem_singleton.mp back).symm

/-- A structure whose names ascend lies one level above its values. -/
theorem Tidy.codec
    {levels : Nat}
    {form : Form ρ ρ}
    (tidy : form.Tidy levels)
    (ascending : form.names.Pairwise (· < ·))
    (bytes : form.names.Pairwise BytesBefore) :
    form.codec.Tidy (levels + 1) := by
  intro record
  have keys := Json.keys_stated_sublist (form.names.zip (form.write record))
  rw [List.map_fst_zip (Nat.le_of_eq (tidy.aligned record))] at keys
  have ordered : Members.Ordered (Json.stated (form.names.zip (form.write record))) :=
    List.pairwise_map.mp (ascending.sublist keys)
  have written : form.codec.write record =
      .object (Json.stated (form.names.zip (form.write record))) :=
    congrArg Json.object (Members.ofList_of_ordered ordered)
  have values : ∀ member ∈ Json.stated (form.names.zip (form.write record)),
      member.2.Tidy levels := by
    intro member stated
    exact tidy.values record member.2 (List.of_mem_zip (Json.mem_of_mem_stated stated)).2
  rw [written]
  constructor
  · exact (Json.plainMembers_iff _).mpr fun member stated => (values member stated).plain
  · exact ⟨ordered, (Json.orderedMembers_iff _).mpr fun member stated =>
      (values member stated).ordered⟩
  · exact Document.keysAscend_object (bytes.sublist keys) fun member stated =>
      (values member stated).ascend

end Form
end ThreatIntel
