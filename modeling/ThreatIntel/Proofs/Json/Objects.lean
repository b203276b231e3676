import ThreatIntel.Json.Codec

/-!
# Written objects

An object that is built from members under different names holds just these members, and each of
them is found again under its name. So a structure whose member names differ is read back as it was
written, if each of its members is.
-/

namespace ThreatIntel

namespace Members

variable
  {α : Type}
  {key : String}
  {value : α}
  {members pairs : List (String × α)}

theorem mem_keys (member : (key, value) ∈ members) : key ∈ members.map Prod.fst :=
  List.mem_map.mpr ⟨_, member, rfl⟩

/-- A new member is put beside the others. -/
theorem insert_perm (absent : key ∉ members.map Prod.fst) :
    (insert key value members).Perm ((key, value) :: members) := by
  induction members with
  | nil => exact .refl _
  | cons member rest inductionHypothesis =>
      obtain ⟨other, old⟩ := member
      rw [List.map_cons, List.mem_cons, not_or] at absent
      rw [insert, if_neg absent.1]
      split
      · exact .refl _
      · exact ((inductionHypothesis absent.2).cons _).trans (.swap _ _ _)

/-- Members under different names are put beside those that are there. -/
theorem foldl_insert_perm
    (distinct : ((pairs ++ members).map Prod.fst).Nodup) :
    (pairs.foldl (fun members pair => insert pair.1 pair.2 members) members).Perm
      (pairs ++ members) := by
  induction pairs generalizing members with
  | nil => exact .refl _
  | cons pair rest inductionHypothesis =>
      have absent : pair.1 ∉ members.map Prod.fst := by
        rw [List.cons_append, List.map_cons, List.nodup_cons, List.map_append] at distinct
        exact fun present => distinct.1 (List.mem_append_right _ present)
      have inserted : (rest ++ insert pair.1 pair.2 members).Perm (pair :: rest ++ members) :=
        ((insert_perm absent).append_left rest).trans List.perm_middle
      rw [List.foldl_cons]
      refine (inductionHypothesis ?_).trans inserted
      exact (inserted.map Prod.fst).nodup_iff.mpr distinct

/-- An object of members under different names holds just these members. -/
theorem ofList_perm (distinct : (pairs.map Prod.fst).Nodup) : (ofList pairs).Perm pairs := by
  have perm : (ofList pairs).Perm (pairs ++ []) := foldl_insert_perm (by simpa using distinct)
  rwa [List.append_nil] at perm

theorem get?_of_not_mem (absent : key ∉ members.map Prod.fst) : get? key members = none := by
  induction members with
  | nil => rfl
  | cons member rest inductionHypothesis =>
      obtain ⟨other, old⟩ := member
      rw [List.map_cons, List.mem_cons, not_or] at absent
      rw [get?_cons, if_neg absent.1, inductionHypothesis absent.2]

/-- Each of several members under different names is found under its own. -/
theorem get?_of_mem
    (distinct : (members.map Prod.fst).Nodup)
    (member : (key, value) ∈ members) :
    get? key members = some value := by
  induction members with
  | nil => cases member
  | cons first rest inductionHypothesis =>
      obtain ⟨other, old⟩ := first
      rw [List.map_cons, List.nodup_cons] at distinct
      rcases List.mem_cons.mp member with same | later
      · cases same
        exact if_pos rfl
      · have different : key ≠ other := by
          rintro rfl
          exact distinct.1 (mem_keys later)
        rw [get?_cons, if_neg different, inductionHypothesis distinct.2 later]

/-- In an object of members under different names, each is found as among these. -/
theorem get?_ofList
    (distinct : (pairs.map Prod.fst).Nodup)
    (key : String) :
    get? key (ofList pairs) = get? key pairs := by
  have perm := ofList_perm distinct
  by_cases present : key ∈ pairs.map Prod.fst
  · obtain ⟨⟨_, value⟩, member, rfl⟩ := List.mem_map.mp present
    rw [get?_of_mem distinct member,
      get?_of_mem ((perm.map Prod.fst).nodup_iff.mpr distinct) (perm.mem_iff.mpr member)]
  · rw [get?_of_not_mem present,
      get?_of_not_mem fun found => present ((perm.map Prod.fst).mem_iff.mp found)]

/-- Members that are put into an object stand under their keys, and the others stay. -/
theorem get?_foldl_insert
    (pairs members : List (String × α))
    (key : String) :
    get? key (pairs.foldl (fun members pair => insert pair.1 pair.2 members) members) =
      (get? key (ofList pairs)).or (get? key members) := by
  induction pairs generalizing members with
  | nil => rfl
  | cons pair rest inductionHypothesis =>
      obtain ⟨label, value⟩ := pair
      have alone := inductionHypothesis [(label, value)]
      rw [ofList, List.foldl_cons, List.foldl_cons, inductionHypothesis, get?_insert]
      change _ = (get? key (rest.foldl _ [(label, value)])).or _
      rw [alone, Option.or_assoc]
      by_cases same : key = label <;> simp [same]

/-- Of several values under one key the last stands. -/
theorem get?_ofList_cons
    (pair : String × α)
    (rest : List (String × α))
    (key : String) :
    get? key (ofList (pair :: rest)) =
      (get? key (ofList rest)).or (if key = pair.1 then some pair.2 else none) :=
  get?_foldl_insert rest [(pair.1, pair.2)] key

/-- Values that are changed alike are found under the keys that they had. -/
theorem get?_ofList_map
    {β : Type}
    (change : α → β)
    (pairs : List (String × α))
    (key : String) :
    get? key (ofList (pairs.map fun pair => (pair.1, change pair.2))) =
      (get? key (ofList pairs)).map change := by
  induction pairs with
  | nil => rfl
  | cons pair rest inductionHypothesis =>
      rw [List.map_cons, get?_ofList_cons, get?_ofList_cons, inductionHypothesis, Option.map_or]
      by_cases same : key = pair.1 <;> simp [same]

end Members

namespace Json

/-- The members of an object that have a value, under their names. -/
def stated (members : List (String × Option Json)) : List (String × Json) :=
  members.filterMap fun (key, value) => value.map fun value => (key, value)

theorem ofOptions_eq_object (members : List (String × Option Json)) :
    ofOptions members = .object (Members.ofList (stated members)) := rfl

theorem keys_stated_sublist (members : List (String × Option Json)) :
    ((stated members).map Prod.fst).Sublist (members.map Prod.fst) := by
  induction members with
  | nil => exact .refl _
  | cons member rest inductionHypothesis =>
      obtain ⟨key, value⟩ := member
      cases value with
      | none => exact inductionHypothesis.cons _
      | some value => exact inductionHypothesis.cons_cons _

/-- Each value is found under its name, or none where there is no value. -/
theorem map_get?_stated
    {names : List String}
    (distinct : names.Nodup)
    {values : List (Option Json)}
    (aligned : names.length = values.length) :
    names.map (fun name => Members.get? name (stated (names.zip values))) = values := by
  induction names generalizing values with
  | nil =>
      cases values with
      | nil => rfl
      | cons value values => cases aligned
  | cons name names inductionHypothesis =>
      cases values with
      | nil => cases aligned
      | cons value values =>
          rw [List.nodup_cons] at distinct
          have later := inductionHypothesis distinct.2 (Nat.succ.inj aligned)
          have absent : name ∉ (stated (names.zip values)).map Prod.fst := by
            intro present
            have among := (keys_stated_sublist (names.zip values)).subset present
            rw [List.map_fst_zip (Nat.le_of_eq (Nat.succ.inj aligned))] at among
            exact distinct.1 among
          rw [List.map_cons, List.zip_cons_cons]
          -- A name without a value has no member, and no later member goes by this name.
          cases value with
          | none =>
              have skipped : stated ((name, none) :: names.zip values) =
                  stated (names.zip values) := rfl
              rw [skipped, Members.get?_of_not_mem absent, later]
          | some value =>
              have others : names.map (fun other => Members.get? other
                  (stated ((name, some value) :: names.zip values))) = values := by
                refine Eq.trans (List.map_congr_left fun other member => ?_) later
                have different : other ≠ name := by
                  rintro rfl
                  exact distinct.1 member
                exact if_neg different
              rw [others]
              exact congrArg (· :: values) (if_pos rfl)

end Json

namespace Slot

/-- What an object says for a member that it states with a value, or does not state. -/
def stating : Option Json → Slot
  | some value => .given (.ofJson value)
  | none => .unnamed

/-- The slot of a name among members under different names. -/
theorem ofName?_ofMembers
    {members : List (String × Json)}
    (distinct : (members.map Prod.fst).Nodup)
    (name : String) :
    ofName? (Document.ofMembers members) name = some (stating (Members.get? name members)) := by
  induction members with
  | nil => rfl
  | cons member rest inductionHypothesis =>
      obtain ⟨key, value⟩ := member
      rw [List.map_cons, List.nodup_cons] at distinct
      rw [Document.ofMembers]
      by_cases same : name = key
      · subst same
        have nothing : (Document.ofMembers rest).filter (·.1 == some name) = [] := by
          rw [Document.ofMembers_eq_map]
          refine List.filter_eq_nil_iff.mpr fun member found => ?_
          obtain ⟨pair, later, rfl⟩ := List.mem_map.mp found
          have different : pair.1 ≠ name := by
            rintro rfl
            exact distinct.1 (Members.mem_keys later)
          simpa using different
        simp only [ofName?, List.filter_cons, BEq.rfl, if_true, nothing, Members.get?_cons, stating]
      · have other : ¬key = name := fun equal => same equal.symm
        have skipped := inductionHypothesis distinct.2
        unfold ofName? at skipped ⊢
        simp only [List.filter_cons, beq_iff_eq, Option.some.injEq, other, if_false,
          Members.get?_cons, same]
        exact skipped

/-- An object written from values under different names states each of them. -/
theorem ofDocument?_ofOptions
    {names : List String}
    (distinct : names.Nodup)
    {values : List (Option Json)}
    (aligned : names.length = values.length) :
    ofDocument? names (.ofJson (.ofOptions (names.zip values))) = some (values.map stating) := by
  have keys : ((Json.stated (names.zip values)).map Prod.fst).Nodup := by
    refine List.Nodup.sublist (Json.keys_stated_sublist _) ?_
    rwa [List.map_fst_zip (Nat.le_of_eq aligned)]
  have written : ((Members.ofList (Json.stated (names.zip values))).map Prod.fst).Nodup :=
    ((Members.ofList_perm keys).map Prod.fst).nodup_iff.mpr keys
  have named : (Document.ofMembers (Members.ofList (Json.stated (names.zip values)))).all
      (·.1.isSome) = true := by
    simp
  have slots : ofName? (Document.ofMembers (Members.ofList (Json.stated (names.zip values)))) =
      fun name => some (stating (Members.get? name (Json.stated (names.zip values)))) := by
    funext name
    rw [ofName?_ofMembers written, Members.get?_ofList keys]
  rw [Json.ofOptions_eq_object, Document.ofJson, ofDocument?, if_pos named, slots]
  have found := congrArg (List.map stating) (Json.map_get?_stated distinct aligned)
  rw [List.map_map] at found
  exact List.mapM_pure.trans (congrArg some found)

end Slot

namespace Form

/-- A structure whose member names differ is read back as it was written, if its members are. -/
theorem readJson?_write
    {ρ : Type}
    {form : Form ρ ρ}
    (distinct : form.names.Nodup)
    {record : ρ}
    (aligned : form.names.length = (form.write record).length)
    {rest : List Slot}
    (reads : form.read? ((form.write record).map Slot.stating) = some (record, rest)) :
    form.codec.readJson? (form.codec.write record) = some record := by
  simp only [Codec.readJson?, codec, Slot.ofDocument?_ofOptions distinct aligned,
    Option.bind_eq_bind, Option.bind_some, reads]
  rfl

end Form
end ThreatIntel
