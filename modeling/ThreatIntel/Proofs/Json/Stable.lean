import ThreatIntel.Proofs.Json.Objects
import ThreatIntel.Proofs.Json.Ordered
import ThreatIntel.Proofs.Record.Rows

/-!
# Stable codecs

A codec restores a value if it reads the value back from its written form, and it is stable if it
restores every value that it has read. A codec that is built from stable codecs is stable: a list, a
member with or without a value of its own, and a structure whose members have different names, as
long as the structure is taken apart into the members that it is made of.
-/

namespace ThreatIntel

/-- The codec reads the value back from its written form. -/
class Codec.Restores (codec : Codec α) (value : α) : Prop where
  readJson?_write : codec.readJson? (codec.write value) = some value

/-- What the codec has read, it restores; and it writes none of it as no value, unless it was stated
so. -/
class Codec.Stable (codec : Codec α) : Prop where
  restores {document : Document} {value : α} :
    codec.read? document = some value → codec.Restores value
  visible {document : Document} {value : α} :
    document ≠ .null → codec.read? document = some value → codec.write value ≠ .null

/-- The member is read back from what its written form states. -/
def Entry.Restores (entry : Entry α) (value : α) : Prop :=
  entry.read? (Slot.stating (entry.write value)) = some value

/-- What has been read of the member is read back. -/
class Entry.Stable (entry : Entry α) : Prop where
  restores {slot : Slot} {value : α} : entry.read? slot = some value → entry.Restores value

/-! ## Codecs -/

namespace Codec

instance (value : String) : text.Restores value := ⟨rfl⟩

instance (value : Bool) : boolean.Restores value := ⟨rfl⟩

instance (value : Int64) : int64.Restores value :=
  ⟨@Format.readJson?_write .integer value trivial⟩

instance (value : UInt32) : uint32.Restores value := by
  have bound : value.toNat < UInt32.size := value.toNat_lt
  have inRange : (0 : Int) ≤ value.toNat ∧ (value.toNat : Int) ≤ UInt32.size - 1 := by
    omega
  refine ⟨?_⟩
  change (if (0 : Int) ≤ value.toNat ∧ (value.toNat : Int) ≤ UInt32.size - 1
    then some (value.toNat : Int) else none).map (fun value => UInt32.ofNat value.toNat) =
      some value
  rw [if_pos inRange, Option.map_some, Int.toNat_natCast, UInt32.ofNat_toNat]

instance : text.Stable := ⟨fun _ => inferInstance, nofun⟩

instance : boolean.Stable := ⟨fun _ => inferInstance, nofun⟩

instance : int64.Stable := ⟨fun _ => inferInstance, nofun⟩

instance : uint32.Stable := ⟨fun _ => inferInstance, nofun⟩

instance : json.Stable where
  restores reads := ⟨Document.toJson?_ofJson (Document.ordered_of_toJson? reads)⟩
  visible := by
    intro document value stated reads same
    cases document with
    | null => exact stated rfl
    | boolean _ | number _ | text _ => cases same; cases reads
    | array items | object members =>
        obtain ⟨_, -, built⟩ := Option.map_eq_some_iff.mp reads
        cases built.trans same
    | unreadable => cases reads

/-- A name is found again. -/
instance (all : List α) (name : α → String) : (names all name).Stable where
  restores := by
    intro document value reads
    have found (word : String) (find : all.find? (name · == word) = some value) :
        (names all name).Restores value := by
      have same : name value = word := by simpa using List.find?_some find
      subst same
      exact ⟨find⟩
    unfold names at reads
    dsimp only at reads
    split at reads
    · exact found _ reads
    · exact found _ reads
    · cases reads
  visible := nofun

/-- A list whose items are restored is restored. -/
theorem restores_list
    {codec : Codec α}
    {items : List α}
    (restores : ∀ item ∈ items, codec.Restores item) :
    (list codec).Restores items := by
  have reads : (items.map fun item => Document.ofJson (codec.write item)).mapM codec.read? =
      some items := by
    induction items with
    | nil => rfl
    | cons item items inductionHypothesis =>
        have first : codec.read? (.ofJson (codec.write item)) = some item :=
          (restores item List.mem_cons_self).readJson?_write
        have others := inductionHypothesis fun item later =>
          restores item (List.mem_cons_of_mem _ later)
        rw [List.map_cons, List.mapM_cons, first, others]
        rfl
  refine ⟨?_⟩
  change (Document.ofItems (items.map codec.write)).mapM codec.read? = some items
  rw [Document.ofItems_eq_map, List.map_map]
  exact reads

instance (codec : Codec α) : (list codec).Restores [] := ⟨rfl⟩

instance (codec : Codec α) [stable : codec.Stable] : (list codec).Stable where
  restores := by
    intro document items reads
    cases document with
    | array documents =>
        refine restores_list fun item member => ?_
        obtain ⟨_, -, read⟩ := exists_of_mem_of_mapM reads member
        exact stable.restores read
    | null | boolean _ | number _ | text _ | object _ | unreadable => cases reads
  visible := nofun

end Codec

/-! ## Members -/

namespace Entry

variable
  {codec : Codec α}

instance [stable : codec.Stable] : (required codec).Stable where
  restores := by
    intro slot value reads
    cases slot with
    | given document => exact (stable.restores reads).readJson?_write
    | unnamed | beyond => cases reads

instance (default : α) [stable : codec.Stable] [codec.Restores default] :
    (defaulted codec default).Stable where
  restores := by
    intro slot value reads
    cases slot with
    | given document => exact (stable.restores reads).readJson?_write
    | unnamed | beyond =>
        cases reads
        exact (inferInstance : codec.Restores default).readJson?_write

/-- What is written of a member is read alike, whether or not a list may end before it. -/
theorem read?_omissible_stating (codec : Codec α) (json : Option Json) :
    (omissible codec).read? (Slot.stating json) = (optional codec).read? (Slot.stating json) := by
  cases json <;> rfl

/-- A value that is restored and visible is restored as a member that may be left out. -/
theorem restores_omissible
    {value : Option α}
    (visible : ∀ given ∈ value, codec.write given ≠ .null)
    (restores : ∀ given ∈ value, codec.Restores given) :
    (omissible codec).Restores value :=
  (read?_omissible_stating codec _).trans
    (read?_stating_optional visible fun given member => (restores given member).readJson?_write)

instance [stable : codec.Stable] : (omissible codec).Stable where
  restores := by
    intro slot value reads
    cases value with
    | none => rfl
    | some value =>
        cases slot with
        | given document =>
            change readOptional? codec document = some (some value) at reads
            unfold readOptional? at reads
            split at reads
            · cases reads
            · next stated =>
                obtain ⟨given, read, same⟩ := Option.map_eq_some_iff.mp reads
                cases same
                refine restores_omissible ?_ ?_ <;> rintro _ ⟨⟩
                · exact stable.visible (fun null => stated null) read
                · exact stable.restores read
        | unnamed | beyond => cases reads

/-- A member that is left out where it has the value that it then gets is restored. -/
theorem restores_hideIf
    {entry : Entry α}
    {hidden : α → Bool}
    {value : α}
    (shown : entry.Restores value)
    (unnamed : hidden value = true → entry.read? .unnamed = some value) :
    (entry.hideIf hidden).Restores value := by
  change entry.read? (Slot.stating (if hidden value then none else entry.write value)) = some value
  cases isHidden : hidden value with
  | true =>
      rw [if_pos rfl]
      exact unnamed isHidden
  | false =>
      rw [if_neg Bool.false_ne_true]
      exact shown

end Entry

/-! ## Structures -/

namespace Form

/-- The members of a form side by side, apart from the record that is made of them. -/
class Parts (form : Form ρ α) where
  /-- The members side by side. -/
  Members : Type
  /-- The record that is made of members. -/
  make : Members → α
  /-- The members of a record. -/
  split : ρ → Members
  /-- Every member is restored. -/
  Restored : Members → Prop
  /-- What is read is made of restored members. -/
  exists_restored {slots rest : List Slot} {value : α} :
    form.read? slots = some (value, rest) → ∃ members, value = make members ∧ Restored members
  /-- There is a name for each member. -/
  aligned (record : ρ) : form.names.length = (form.write record).length
  /-- The record is made again of what is written of its members. -/
  read?_write (record : ρ) (rest : List Slot) :
    Restored (split record) →
      form.read? ((form.write record).map Slot.stating ++ rest) = some (make (split record), rest)

instance (value : α) : Parts (build value : Form ρ α) where
  Members := Unit
  make _ := value
  split _ := ()
  Restored _ := True
  exists_restored := by
    intro slots rest made reads
    cases reads
    exact ⟨(), rfl, trivial⟩
  aligned _ := rfl
  read?_write _ _ _ := rfl

instance
    (form : Form ρ (β → α))
    [parts : Parts form]
    (name : String)
    (get : ρ → β)
    (entry : Entry β)
    [stable : entry.Stable] :
    Parts (form.field name get entry) where
  Members := parts.Members × β
  make members := parts.make members.1 members.2
  split record := (parts.split record, get record)
  Restored members := parts.Restored members.1 ∧ entry.Restores members.2
  exists_restored := by
    intro slots rest value reads
    obtain ⟨⟨make, left⟩, front, reads⟩ := Option.bind_eq_some_iff.mp reads
    obtain ⟨members, rfl, restored⟩ := parts.exists_restored front
    cases left with
    | nil => cases reads
    | cons slot left =>
        obtain ⟨last, read, built⟩ := Option.map_eq_some_iff.mp reads
        cases built
        exact ⟨(members, last), rfl, restored, stable.restores read⟩
  aligned record := by
    simp [field, parts.aligned record]
  read?_write record rest := by
    rintro ⟨restored, last⟩
    have front := parts.read?_write record
      (Slot.stating (entry.write (get record)) :: rest) restored
    have read : entry.read? (Slot.stating (entry.write (get record))) = some (get record) := last
    simp only [field, List.map_append, List.map_cons, List.map_nil, List.append_assoc,
      List.singleton_append, front, Option.bind_eq_bind, Option.bind_some, read, Option.map_some]

variable
  {form : Form ρ ρ}
  [parts : Parts form]

/-- A record is restored if its members are, and it is made of them. -/
theorem restores_codec
    (distinct : form.names.Nodup)
    {record : ρ}
    (restored : parts.Restored (parts.split record))
    (made : parts.make (parts.split record) = record) :
    form.codec.Restores record := by
  have reads := parts.read?_write record [] restored
  rw [List.append_nil, made] at reads
  exact ⟨readJson?_write distinct (parts.aligned record) reads⟩

/-- A structure is stable if its members are, and it is taken apart into those that it is made
of. -/
theorem stable_codec
    (distinct : form.names.Nodup)
    (split_make : ∀ members, parts.split (parts.make members) = members) :
    form.codec.Stable where
  restores := by
    intro document record reads
    obtain ⟨slots, -, reads⟩ := Option.bind_eq_some_iff.mp reads
    obtain ⟨⟨made, left⟩, reads, same⟩ := Option.bind_eq_some_iff.mp reads
    cases same
    obtain ⟨members, rfl, restored⟩ := parts.exists_restored reads
    have again := split_make members
    exact restores_codec distinct (again.symm ▸ restored) (congrArg parts.make again)
  visible := nofun

end Form
end ThreatIntel
