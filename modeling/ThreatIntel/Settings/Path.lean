import ThreatIntel.Json.Basic

/-!
# Paths to settings

The key of a setting may lead through several values: `auth.mode` is the member `mode` of the member
`auth`, and `auth[0]` is the first item of that member. What is missing on the way is made.
-/

namespace ThreatIntel
namespace Settings

mutual

/-- Lay a value over another: objects are laid over each other member by member. -/
def overlay (lower : Json) : (upper : Json) → Json
  | .object members => .object (overlayMembers (lower.members?.getD []) members)
  | upper => upper

/-- Lay members over others. -/
def overlayMembers (lower : List (String × Json)) :
    (upper : List (String × Json)) → List (String × Json)
  | [] => lower
  | (key, value) :: upper =>
      let value := overlay ((Members.get? key lower).getD .null) value
      overlayMembers (Members.insert key value lower) upper

end

/-- A step on the way to a setting. -/
inductive Step where
  /-- To the member of an object under a key. -/
  | member (key : String)
  /-- To an item of a list; a negative place counts from the end. -/
  | item (place : Int)
  deriving DecidableEq, Repr

/-- A way to a setting. -/
abbrev Path := List Step

namespace Path

/-- The items of a list, lengthened until a place stands in it, and where that place is: lists grow
at the end, or at the front if the place counts from the end. -/
def reach (items : List Json) (place : Int) : List Json × Nat :=
  let index := if place < 0 then items.length + place else place
  if index < 0 then (List.replicate index.natAbs .null ++ items, 0)
  else (items ++ List.replicate (index.toNat + 1 - items.length) .null, index.toNat)

/-- The place that has been reached stands in the list. -/
theorem reach_lt_length (items : List Json) (place : Int) :
    (reach items place).2 < (reach items place).1.length := by
  simp only [reach]
  generalize (if place < 0 then (items.length : Int) + place else place) = index
  split <;> simp only [List.length_append, List.length_replicate] <;> omega

/-- Lay a value over what stands at the end of a path; what is no object or no list on the way is
replaced by one. -/
def set (lower : Json) : Path → (value : Json) → Json
  | [], value => overlay lower value
  | .member key :: path, value =>
      let members := lower.members?.getD []
      let inner := set ((Members.get? key members).getD .null) path value
      .object (Members.insert key inner members)
  | .item place :: path, value =>
      let (items, index) := reach (lower.items?.getD []) place
      .array (items.set index (set (items.getD index .null) path value))

/-- Whether a character may stand in a name on a path. -/
def isNameChar (c : Char) : Bool :=
  c.isAlphanum || c == '_' || c == '-'

/-- The farthest place in a list to which a path leads. -/
def farthest : Nat := 10000000

/-- Read a name. -/
def readName? (cs : List Char) : Option (String × List Char) :=
  let name := cs.takeWhile isNameChar
  if name.isEmpty then none else some (String.ofList name, cs.drop name.length)

/-- Read a place behind its bracket. -/
def readPlace? (cs : List Char) : Option (Int × List Char) :=
  let skipBlanks := List.dropWhile fun c => c == ' ' || c == '\t'
  let cs := skipBlanks cs
  let negative := cs.head? == some '-'
  let cs := if negative then cs.drop 1 else cs
  let digits := cs.takeWhile Char.isDigit
  let n := Nat.ofDigitChars 10 digits 0
  match skipBlanks (cs.drop digits.length) with
  | ']' :: rest =>
      if digits.isEmpty ∨ farthest < n then none else some (if negative then -n else n, rest)
  | _ => none

/-- Read the steps behind the first one, of which there are at most `fuel`. -/
def readSteps? : (fuel : Nat) → List Char → Option Path
  | _, [] => some []
  | fuel + 1, '.' :: rest => do
      let (name, rest) ← readName? rest
      pure (.member name :: (← readSteps? fuel rest))
  | fuel + 1, '[' :: rest => do
      let (place, rest) ← readPlace? rest
      pure (.item place :: (← readSteps? fuel rest))
  | _, _ => none

/-- Read a whole path. -/
def ofKey? (key : String) : Option Path := do
  let (name, rest) ← readName? key.toList
  pure (.member name :: (← readSteps? rest.length rest))

/-- The path that a key names; a key that is no path names itself. -/
def ofKey (key : String) : Path :=
  (ofKey? key).getD [.member key]

end Path
end Settings
end ThreatIntel
