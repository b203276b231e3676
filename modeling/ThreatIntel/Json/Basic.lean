import ThreatIntel.Binary64.Basic

/-!
# JSON values

Values of the data format in which records travel. The members of an object are kept in the order of
their keys, each key once; `Members.insert` keeps them so, and a later value replaces an earlier
one.
-/

namespace ThreatIntel

/-- A number: whole numbers of the 64-bit words are kept exactly, all others in binary. -/
inductive Number where
  /-- A whole number between the least signed and the greatest unsigned word of 64 bits. -/
  | whole (value : Int)
  /-- Any other number. -/
  | real (value : Binary64)
  deriving DecidableEq, Repr

/-- A value of the data format. -/
inductive Json where
  /-- No value. -/
  | null
  /-- A truth value. -/
  | boolean (value : Bool)
  /-- A number. -/
  | number (value : Number)
  /-- A text. -/
  | text (value : String)
  /-- A list of values. -/
  | array (items : List Json)
  /-- Values under keys. -/
  | object (members : List (String × Json))
  deriving Repr

namespace Json

mutual

/-- Equality of values is decidable. -/
def decEq : (left right : Json) → Decidable (left = right)
  | .null, .null => isTrue rfl
  | .boolean a, .boolean b =>
      if same : a = b then isTrue (by rw [same]) else isFalse (by simp [same])
  | .number a, .number b =>
      if same : a = b then isTrue (by rw [same]) else isFalse (by simp [same])
  | .text a, .text b =>
      if same : a = b then isTrue (by rw [same]) else isFalse (by simp [same])
  | .array a, .array b =>
      match decEqItems a b with
      | isTrue same => isTrue (by rw [same])
      | isFalse different => isFalse (by simp [different])
  | .object a, .object b =>
      match decEqMembers a b with
      | isTrue same => isTrue (by rw [same])
      | isFalse different => isFalse (by simp [different])
  | .null, .boolean _ | .null, .number _ | .null, .text _ | .null, .array _ | .null, .object _
  | .boolean _, .null | .boolean _, .number _ | .boolean _, .text _ | .boolean _, .array _
  | .boolean _, .object _
  | .number _, .null | .number _, .boolean _ | .number _, .text _ | .number _, .array _
  | .number _, .object _
  | .text _, .null | .text _, .boolean _ | .text _, .number _ | .text _, .array _
  | .text _, .object _
  | .array _, .null | .array _, .boolean _ | .array _, .number _ | .array _, .text _
  | .array _, .object _
  | .object _, .null | .object _, .boolean _ | .object _, .number _ | .object _, .text _
  | .object _, .array _ => isFalse nofun

/-- Equality of lists of values is decidable. -/
def decEqItems : (left right : List Json) → Decidable (left = right)
  | [], [] => isTrue rfl
  | [], _ :: _ => isFalse nofun
  | _ :: _, [] => isFalse nofun
  | a :: as, b :: bs =>
      match decEq a b, decEqItems as bs with
      | isTrue head, isTrue tail => isTrue (by rw [head, tail])
      | isFalse head, _ => isFalse (by simp [head])
      | _, isFalse tail => isFalse (by simp [tail])

/-- Equality of lists of members is decidable. -/
def decEqMembers : (left right : List (String × Json)) → Decidable (left = right)
  | [], [] => isTrue rfl
  | [], _ :: _ => isFalse nofun
  | _ :: _, [] => isFalse nofun
  | (key, a) :: as, (key', b) :: bs =>
      match decEq a b, decEqMembers as bs with
      | isTrue head, isTrue tail =>
          if keys : key = key' then isTrue (by rw [head, tail, keys])
          else isFalse (by simp [keys])
      | isFalse head, _ => isFalse (by simp [head])
      | _, isFalse tail => isFalse (by simp [tail])

end

instance : DecidableEq Json := decEq

instance : Inhabited Json := ⟨.null⟩

/-- A whole number. -/
def whole (n : Int) : Json := .number (.whole n)

/-- A list of texts. -/
def texts (items : List String) : Json := .array (items.map .text)

/-- The text, if the value is one. -/
def text? : Json → Option String
  | text value => some value
  | _ => none

/-- The items, if the value is a list. -/
def items? : Json → Option (List Json)
  | array items => some items
  | _ => none

/-- The members, if the value is an object. -/
def members? : Json → Option (List (String × Json))
  | object members => some members
  | _ => none

end Json

namespace Members

/-- The value under a key. -/
def get? (key : String) : List (String × α) → Option α
  | [] => none
  | (other, value) :: rest => if key = other then some value else get? key rest

/-- Put a value under a key: in its place by order, or over the value that stands there. -/
def insert (key : String) (value : α) : List (String × α) → List (String × α)
  | [] => [(key, value)]
  | (other, old) :: rest =>
      if key = other then (key, value) :: rest
      else if key < other then (key, value) :: (other, old) :: rest
      else (other, old) :: insert key value rest

/-- The members of a list of pairs, the later of two under one key replacing the earlier. -/
def ofList (pairs : List (String × α)) : List (String × α) :=
  pairs.foldl (fun members pair => insert pair.1 pair.2 members) []

@[simp] theorem get?_nil (key : String) : get? key ([] : List (String × α)) = none := rfl

@[simp] theorem get?_cons (key other : String) (value : α) (rest : List (String × α)) :
    get? key ((other, value) :: rest) = if key = other then some value else get? key rest := rfl

/-- The value under a key after an insertion. -/
theorem get?_insert (key other : String) (value : α) (members : List (String × α)) :
    get? other (insert key value members) =
      if other = key then some value else get? other members := by
  induction members with
  | nil => rfl
  | cons member rest inductionHypothesis =>
      obtain ⟨first, old⟩ := member
      grind [insert, get?]

end Members

namespace Json

/-- An object of the given members, whatever their order. -/
def ofList (members : List (String × Json)) : Json :=
  .object (Members.ofList members)

/-- An object of those of the given members that have a value. -/
def ofOptions (members : List (String × Option Json)) : Json :=
  ofList (members.filterMap fun (key, value) => value.map fun value => (key, value))

mutual

/-- The value with the members of every object in it, however deep, put in the order of their keys.
-/
def inKeyOrder : Json → Json
  | .array items => .array (itemsInKeyOrder items)
  | .object members => ofList (membersInKeyOrder members)
  | scalar => scalar

/-- The items of a list, each with its members in the order of their keys. -/
def itemsInKeyOrder : List Json → List Json
  | [] => []
  | item :: items => inKeyOrder item :: itemsInKeyOrder items

/-- The members of an object where they stand, each value with its members in the order of their
keys. -/
def membersInKeyOrder : List (String × Json) → List (String × Json)
  | [] => []
  | (key, value) :: members => (key, inKeyOrder value) :: membersInKeyOrder members

end

/-- The member under a key. -/
def get? (json : Json) (key : String) : Option Json :=
  match json with
  | object members => Members.get? key members
  | _ => none

/-- Put a member into an object; any other value is left alone. -/
def insert (json : Json) (key : String) (value : Json) : Json :=
  match json with
  | object members => object (Members.insert key value members)
  | other => other

/-- The member under a key after an insertion. -/
theorem get?_insert (members : List (String × Json)) (key other : String) (value : Json) :
    ((object members).insert key value).get? other =
      if other = key then some value else (object members).get? other :=
  Members.get?_insert key other value members

end Json
end ThreatIntel
