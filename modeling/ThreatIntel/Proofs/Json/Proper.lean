import ThreatIntel.Json.Codec
import ThreatIntel.Proofs.Binary64.Whole
import ThreatIntel.Proofs.Lists

/-!
# Proper values

The numbers that a JSON value can hold are the whole numbers of the words of 64 bits and the finite
binary numbers. A value is proper if it holds no others; then so are the values that a structure is
read from.
-/

namespace ThreatIntel

/-- A number that a JSON value can hold. -/
def Number.Proper : Number → Prop
  | .whole value => Int64.minValue.toInt ≤ value ∧ value < UInt64.size
  | .real value => value.isFinite = true

namespace Json

mutual

/-- Every number in the value is one that a value can hold. -/
def Proper : Json → Prop
  | .null | .boolean _ | .text _ => True
  | .number value => value.Proper
  | .array items => ProperItems items
  | .object members => ProperMembers members

/-- Every item of the list is proper. -/
def ProperItems : List Json → Prop
  | [] => True
  | item :: items => Proper item ∧ ProperItems items

/-- Every value among the members is proper. -/
def ProperMembers : List (String × Json) → Prop
  | [] => True
  | (_, value) :: members => Proper value ∧ ProperMembers members

end

theorem properItems_iff (items : List Json) :
    ProperItems items ↔ ∀ item ∈ items, item.Proper := by
  induction items with
  | nil => simp [ProperItems]
  | cons item items inductionHypothesis => simp [ProperItems, inductionHypothesis]

theorem properMembers_iff (members : List (String × Json)) :
    ProperMembers members ↔ ∀ member ∈ members, member.2.Proper := by
  induction members with
  | nil => simp [ProperMembers]
  | cons member members inductionHypothesis => simp [ProperMembers, inductionHypothesis]

end Json

/-- A number that is read from a proper one is finite. -/
theorem Number.Proper.isFinite_of_read
    {number : Number}
    (proper : number.Proper)
    {value : Binary64}
    (reads : Codec.real.read? (.number number) = some value) :
    value.isFinite = true := by
  cases number with
  | whole whole =>
      cases reads
      refine Binary64.isFinite_ofInt ?_
      have least : Int64.minValue.toInt = -9223372036854775808 := by decide
      have bits : Nat.pow 2 64 = 18446744073709551616 := by decide
      unfold Proper UInt64.size at proper
      omega
  | real real =>
      cases reads
      exact proper

namespace Slot

/-- The slot states a proper value, or nothing. -/
def Proper : Slot → Prop
  | .given document => ∃ json : Json, json.Proper ∧ document = .ofJson json
  | .unnamed | .beyond => True

theorem proper_of_ofItems?
    {names : List String}
    {items : List Json}
    (proper : ∀ item ∈ items, item.Proper)
    {slots : List Slot}
    (reads : ofItems? names (items.map .ofJson) = some slots) :
    ∀ slot ∈ slots, slot.Proper := by
  induction names generalizing items slots with
  | nil =>
      cases items with
      | nil =>
          cases reads
          simp
      | cons item items => cases reads
  | cons name names inductionHypothesis =>
      cases items with
      | nil =>
          obtain ⟨others, read, rfl⟩ := Option.map_eq_some_iff.mp reads
          have nothing : ∀ item ∈ ([] : List Json), item.Proper := by simp
          have later := inductionHypothesis nothing read
          intro slot member
          rcases List.mem_cons.mp member with rfl | other
          · trivial
          · exact later slot other
      | cons item items =>
          obtain ⟨others, read, rfl⟩ := Option.map_eq_some_iff.mp reads
          have later := inductionHypothesis
            (fun item member => proper item (List.mem_cons_of_mem _ member)) read
          intro slot member
          rcases List.mem_cons.mp member with rfl | other
          · exact ⟨item, proper item List.mem_cons_self, rfl⟩
          · exact later slot other

theorem proper_of_ofName?
    {members : List (String × Json)}
    (proper : ∀ member ∈ members, member.2.Proper)
    {name : String}
    {slot : Slot}
    (reads : ofName? (members.map fun (key, value) => (some key, .ofJson value)) name =
      some slot) :
    slot.Proper := by
  unfold ofName? at reads
  split at reads
  · cases reads
    trivial
  · next only found =>
      cases reads
      have among : only ∈ members.map fun (key, value) => (some key, Document.ofJson value) :=
        (List.mem_filter.mp (found ▸ List.mem_singleton_self only)).1
      obtain ⟨member, present, rfl⟩ := List.mem_map.mp among
      exact ⟨member.2, proper member present, rfl⟩
  · cases reads

/-- What a proper value states for the members of a structure is proper. -/
theorem proper_of_ofDocument?
    {json : Json}
    (proper : json.Proper)
    {names : List String}
    {slots : List Slot}
    (reads : ofDocument? names (.ofJson json) = some slots) :
    ∀ slot ∈ slots, slot.Proper := by
  cases json with
  | array items =>
      rw [Json.Proper, Json.properItems_iff] at proper
      rw [Document.ofJson, Document.ofItems_eq_map] at reads
      exact proper_of_ofItems? proper reads
  | object members =>
      rw [Json.Proper, Json.properMembers_iff] at proper
      rw [Document.ofJson, Document.ofMembers_eq_map, ofDocument?] at reads
      split at reads
      · intro slot member
        obtain ⟨name, -, read⟩ := exists_of_mem_of_mapM reads member
        exact proper_of_ofName? proper read
      · cases reads
  | null | boolean _ | number _ | text _ => cases reads

end Slot
end ThreatIntel
