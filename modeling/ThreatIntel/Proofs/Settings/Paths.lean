import ThreatIntel.Settings.Sources

/-!
# Settings under paths

What a value that is laid over others leaves of them: it is found at the end of its own path, and
what lies under a path that parts from it stays as it was. Of several entries laid one after the
other, the last one on a path holds, if all behind it part from this path.
-/

namespace ThreatIntel

namespace Json

/-- What lies under a row of keys, each leading from an object to one of its members. -/
def under? (json : Json) : List String → Option Json
  | [] => some json
  | key :: keys => (json.get? key).bind (under? · keys)

@[simp] theorem under?_nil (json : Json) : json.under? [] = some json := rfl

@[simp] theorem under?_cons (json : Json) (key : String) (keys : List String) :
    json.under? (key :: keys) = (json.get? key).bind (under? · keys) := rfl

theorem get?_eq_get?_members (json : Json) (key : String) :
    json.get? key = Members.get? key (json.members?.getD []) := by
  cases json <;> rfl

/-- Something lies under a key of nothing but an object. -/
theorem eq_object_of_get?
    {json value : Json}
    {key : String}
    (found : json.get? key = some value) :
    ∃ members, json = .object members ∧ Members.get? key members = some value := by
  cases json with
  | object members => exact ⟨members, rfl, found⟩
  | null | boolean _ | number _ | text _ | array _ => cases found

end Json

namespace Settings

namespace Path

/-- The path of a row of keys. -/
def ofKeys (keys : List String) : Path := keys.map .member

/-- The path parts from a row of keys: both lead to one object, and go on to different members. -/
inductive PartsFrom : Path → List String → Prop
  | here
      {key other : String}
      {path : Path}
      {keys : List String}
      (different : key ≠ other) :
      PartsFrom (.member key :: path) (other :: keys)
  | later
      {key : String}
      {path : Path}
      {keys : List String}
      (parts : PartsFrom path keys) :
      PartsFrom (.member key :: path) (key :: keys)

/-- What is no object replaces what it is laid over. -/
theorem overlay_of_not_object
    {value : Json}
    (single : value.members? = none)
    (lower : Json) :
    overlay lower value = value := by
  cases value with
  | object members => cases single
  | null | boolean _ | number _ | text _ | array _ => rw [overlay]; nofun

/-- A value is found at the end of the path on which it is laid. -/
theorem under?_set
    {value : Json}
    (single : value.members? = none)
    (lower : Json)
    (keys : List String) :
    (set lower (ofKeys keys) value).under? keys = some value := by
  induction keys generalizing lower with
  | nil => exact congrArg some (overlay_of_not_object single lower)
  | cons key keys inductionHypothesis =>
      rw [ofKeys, List.map_cons, set, Json.under?_cons, Json.get?, Members.get?_insert, if_pos rfl]
      exact inductionHypothesis _

/-- What lies under a path stays as it was when a value is laid on a path that parts from it. -/
theorem under?_set_of_partsFrom
    {path : Path}
    {keys : List String}
    (parts : PartsFrom path keys)
    (lower value : Json) :
    (set lower path value).under? keys = lower.under? keys := by
  induction parts generalizing lower with
  | here different =>
      rw [set, Json.under?_cons, Json.under?_cons, Json.get?, Members.get?_insert,
        if_neg (Ne.symm different), ← Json.get?_eq_get?_members]
  | @later key path keys parts inductionHypothesis =>
      rw [set, Json.under?_cons, Json.under?_cons, Json.get?, Members.get?_insert, if_pos rfl,
        Option.bind_some, inductionHypothesis, ← Json.get?_eq_get?_members]
      -- Where nothing lay under the key, nothing lies under the longer path either.
      cases lower.get? key with
      | some inner => rfl
      | none => cases parts <;> rfl

end Path

/-- Entries whose paths part from another leave what lies under it. -/
theorem under?_setAll
    {keys : List String}
    {entries : List (String × Json)}
    (part : ∀ entry ∈ entries, Path.PartsFrom (Path.ofKey entry.1) keys)
    (lower : Json) :
    (setAll lower entries).under? keys = lower.under? keys := by
  induction entries generalizing lower with
  | nil => rfl
  | cons entry entries inductionHypothesis =>
      rw [setAll, List.foldl_cons]
      refine (inductionHypothesis (fun other member => part other (List.mem_cons_of_mem _ member))
        _).trans ?_
      exact Path.under?_set_of_partsFrom (part entry List.mem_cons_self) lower entry.2

/-- Of the entries of an environment, the last one on a path holds. -/
theorem under?_setAll_append
    {keys : List String}
    {key : String}
    (leads : Path.ofKey key = Path.ofKeys keys)
    {value : Json}
    (single : value.members? = none)
    {later : List (String × Json)}
    (part : ∀ entry ∈ later, Path.PartsFrom (Path.ofKey entry.1) keys)
    (lower : Json)
    (earlier : List (String × Json)) :
    (setAll lower (earlier ++ (key, value) :: later)).under? keys = some value := by
  have split : setAll lower (earlier ++ (key, value) :: later) =
      setAll (Path.set (setAll lower earlier) (Path.ofKeys keys) value) later := by
    rw [← leads, setAll, List.foldl_append, List.foldl_cons]
    rfl
  rw [split, under?_setAll part, Path.under?_set single]

end Settings
end ThreatIntel
