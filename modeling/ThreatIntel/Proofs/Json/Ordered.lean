import ThreatIntel.Json.Document

/-!
# Ordered values

In a value that is read from a document the members of every object stand in the order of their
keys, each key once. A value of that form is read back from the document that states it, and putting
its members in order changes nothing.
-/

namespace ThreatIntel

namespace Members

variable
  {α : Type}
  {key : String}
  {value : α}
  {members pairs : List (String × α)}

/-- The members stand in the order of their keys, each key once. -/
def Ordered (members : List (String × α)) : Prop :=
  members.Pairwise fun first second => first.1 < second.1

theorem mem_insert
    {member : String × α}
    (present : member ∈ insert key value members) :
    member = (key, value) ∨ member ∈ members := by
  induction members with
  | nil => exact .inl (List.mem_singleton.mp present)
  | cons first rest inductionHypothesis =>
      obtain ⟨other, old⟩ := first
      rw [insert] at present
      split at present
      · exact (List.mem_cons.mp present).imp id (List.mem_cons_of_mem _)
      · split at present
        · exact List.mem_cons.mp present
        · rcases List.mem_cons.mp present with head | later
          · exact .inr (head ▸ List.mem_cons_self)
          · exact (inductionHypothesis later).imp id (List.mem_cons_of_mem _)

theorem Ordered.insert (ordered : Ordered members) : Ordered (insert key value members) := by
  induction members with
  | nil => exact List.pairwise_singleton _ _
  | cons first rest inductionHypothesis =>
      obtain ⟨other, old⟩ := first
      obtain ⟨below, others⟩ := List.pairwise_cons.mp ordered
      rw [Members.insert]
      split
      · next same =>
          subst same
          exact List.pairwise_cons.mpr ⟨below, others⟩
      · next different =>
          split
          · next before =>
              refine List.pairwise_cons.mpr ⟨fun member present => ?_, ordered⟩
              rcases List.mem_cons.mp present with rfl | later
              · exact before
              · exact String.lt_trans before (below member later)
          · next notBefore =>
              have behind : other < key :=
                Std.lt_of_le_of_ne notBefore fun same => different same.symm
              refine List.pairwise_cons.mpr ⟨fun member present => ?_, inductionHypothesis others⟩
              rcases mem_insert present with rfl | later
              · exact behind
              · exact below member later

theorem ordered_foldl_insert (ordered : Ordered members) :
    Ordered (pairs.foldl (fun members pair => insert pair.1 pair.2 members) members) := by
  induction pairs generalizing members with
  | nil => exact ordered
  | cons pair rest inductionHypothesis => exact inductionHypothesis ordered.insert

/-- An object is built with its members in order. -/
theorem ordered_ofList (pairs : List (String × α)) : Ordered (ofList pairs) :=
  ordered_foldl_insert .nil

theorem mem_foldl_insert
    {member : String × α}
    (present : member ∈ pairs.foldl (fun members pair => insert pair.1 pair.2 members) members) :
    member ∈ pairs ∨ member ∈ members := by
  induction pairs generalizing members with
  | nil => exact .inr present
  | cons pair rest inductionHypothesis =>
      rcases inductionHypothesis present with later | before
      · exact .inl (List.mem_cons_of_mem _ later)
      · rcases mem_insert before with rfl | earlier
        · exact .inl List.mem_cons_self
        · exact .inr earlier

/-- An object holds no members but those that it is built from. -/
theorem mem_of_mem_ofList
    {member : String × α}
    (present : member ∈ ofList pairs) :
    member ∈ pairs :=
  (mem_foldl_insert present).resolve_right List.not_mem_nil

/-- A member behind all others is put at the end. -/
theorem insert_of_behind (behind : ∀ member ∈ members, member.1 < key) :
    insert key value members = members ++ [(key, value)] := by
  induction members with
  | nil => rfl
  | cons first rest inductionHypothesis =>
      obtain ⟨other, old⟩ := first
      have before : other < key := behind (other, old) List.mem_cons_self
      have different : key ≠ other := (String.ne_of_lt before).symm
      have notBefore : ¬key < other := fun after =>
        String.lt_irrefl other (String.lt_trans before after)
      rw [insert, if_neg different, if_neg notBefore,
        inductionHypothesis fun member later => behind member (List.mem_cons_of_mem _ later)]
      rfl

theorem foldl_insert_of_ordered (ordered : Ordered (members ++ pairs)) :
    pairs.foldl (fun members pair => insert pair.1 pair.2 members) members = members ++ pairs := by
  induction pairs generalizing members with
  | nil => exact (List.append_nil members).symm
  | cons pair rest inductionHypothesis =>
      have behind : ∀ member ∈ members, member.1 < pair.1 := fun member present =>
        (List.pairwise_append.mp ordered).2.2 member present pair List.mem_cons_self
      rw [List.foldl_cons, insert_of_behind behind, inductionHypothesis (by simpa using ordered)]
      simp

/-- Members in order make up an object as they stand. -/
theorem ofList_of_ordered (ordered : Ordered pairs) : ofList pairs = pairs :=
  foldl_insert_of_ordered (show Ordered ([] ++ pairs) from ordered)

end Members

namespace Json

mutual

/-- The members of every object in the value stand in the order of their keys, each key once. -/
def Ordered : Json → Prop
  | .null | .boolean _ | .number _ | .text _ => True
  | .array items => OrderedItems items
  | .object members => Members.Ordered members ∧ OrderedMembers members

/-- Every item of the list is ordered. -/
def OrderedItems : List Json → Prop
  | [] => True
  | item :: items => Ordered item ∧ OrderedItems items

/-- Every value among the members is ordered. -/
def OrderedMembers : List (String × Json) → Prop
  | [] => True
  | (_, value) :: members => Ordered value ∧ OrderedMembers members

end

theorem orderedItems_iff (items : List Json) :
    OrderedItems items ↔ ∀ item ∈ items, item.Ordered := by
  induction items with
  | nil => simp [OrderedItems]
  | cons item items inductionHypothesis => simp [OrderedItems, inductionHypothesis]

theorem orderedMembers_iff (members : List (String × Json)) :
    OrderedMembers members ↔ ∀ member ∈ members, member.2.Ordered := by
  induction members with
  | nil => simp [OrderedMembers]
  | cons member members inductionHypothesis => simp [OrderedMembers, inductionHypothesis]

theorem ordered_ofList
    {members : List (String × Json)}
    (ordered : OrderedMembers members) :
    (ofList members).Ordered := by
  refine ⟨Members.ordered_ofList members, ?_⟩
  rw [orderedMembers_iff] at ordered ⊢
  intro member present
  exact ordered member (Members.mem_of_mem_ofList present)

mutual

/-- Nothing is put elsewhere in a value that is ordered. -/
theorem inKeyOrder_of_ordered : ∀ {json : Json}, json.Ordered → json.inKeyOrder = json
  | .null, _ | .boolean _, _ | .number _, _ | .text _, _ => rfl
  | .array items, ordered => by
      rw [inKeyOrder, itemsInKeyOrder_of_ordered ordered]
  | .object members, ordered => by
      rw [inKeyOrder, membersInKeyOrder_of_ordered ordered.2, ofList,
        Members.ofList_of_ordered ordered.1]

theorem itemsInKeyOrder_of_ordered :
    ∀ {items : List Json}, OrderedItems items → itemsInKeyOrder items = items
  | [], _ => rfl
  | item :: items, ordered => by
      rw [itemsInKeyOrder, inKeyOrder_of_ordered ordered.1, itemsInKeyOrder_of_ordered ordered.2]

theorem membersInKeyOrder_of_ordered :
    ∀ {members : List (String × Json)}, OrderedMembers members → membersInKeyOrder members = members
  | [], _ => rfl
  | (key, value) :: members, ordered => by
      rw [membersInKeyOrder, inKeyOrder_of_ordered ordered.1,
        membersInKeyOrder_of_ordered ordered.2]

end

end Json

namespace Document

mutual

/-- The value of a document is ordered. -/
theorem ordered_of_toJson? :
    ∀ {document : Document} {json : Json}, document.toJson? = some json → json.Ordered
  | null, _, rfl | boolean _, _, rfl | number _, _, rfl | text _, _, rfl => trivial
  | array items, json, states => by
      obtain ⟨values, read, rfl⟩ := Option.map_eq_some_iff.mp states
      exact ordered_of_itemsToJson? read
  | object members, json, states => by
      obtain ⟨values, read, rfl⟩ := Option.map_eq_some_iff.mp states
      exact Json.ordered_ofList (ordered_of_membersToJson? read)

theorem ordered_of_itemsToJson? :
    ∀ {items : List Document} {values : List Json},
      itemsToJson? items = some values → Json.OrderedItems values
  | [], _, rfl => trivial
  | item :: items, values, states => by
      obtain ⟨first, readFirst, rest⟩ := Option.bind_eq_some_iff.mp states
      obtain ⟨others, readOthers, same⟩ := Option.bind_eq_some_iff.mp rest
      cases same
      exact ⟨ordered_of_toJson? readFirst, ordered_of_itemsToJson? readOthers⟩

theorem ordered_of_membersToJson? :
    ∀ {members : List (Option String × Document)} {values : List (String × Json)},
      membersToJson? members = some values → Json.OrderedMembers values
  | [], _, rfl => trivial
  | (key, value) :: members, values, states => by
      obtain ⟨name, -, rest⟩ := Option.bind_eq_some_iff.mp states
      obtain ⟨first, readFirst, rest⟩ := Option.bind_eq_some_iff.mp rest
      obtain ⟨others, readOthers, same⟩ := Option.bind_eq_some_iff.mp rest
      cases same
      exact ⟨ordered_of_toJson? readFirst, ordered_of_membersToJson? readOthers⟩

end

mutual

/-- An ordered value is the value of the document that states it. -/
theorem toJson?_ofJson : ∀ {json : Json}, json.Ordered → (ofJson json).toJson? = some json
  | .null, _ | .boolean _, _ | .number _, _ | .text _, _ => rfl
  | .array items, ordered => by
      simp only [ofJson, toJson?, itemsToJson?_ofItems ordered, Option.map_some]
  | .object members, ordered => by
      simp only [ofJson, toJson?, membersToJson?_ofMembers ordered.2, Option.map_some, Json.ofList,
        Members.ofList_of_ordered ordered.1]

theorem itemsToJson?_ofItems :
    ∀ {items : List Json}, Json.OrderedItems items → itemsToJson? (ofItems items) = some items
  | [], _ => rfl
  | item :: items, ordered => by
      simp only [ofItems, itemsToJson?, toJson?_ofJson ordered.1, itemsToJson?_ofItems ordered.2,
        Option.bind_eq_bind, Option.bind_some, Option.pure_def]

theorem membersToJson?_ofMembers :
    ∀ {members : List (String × Json)},
      Json.OrderedMembers members → membersToJson? (ofMembers members) = some members
  | [], _ => rfl
  | (key, value) :: members, ordered => by
      simp only [ofMembers, membersToJson?, toJson?_ofJson ordered.1,
        membersToJson?_ofMembers ordered.2, Option.bind_eq_bind, Option.bind_some, Option.pure_def]

end

end Document
end ThreatIntel
