import ThreatIntel.Proofs.Url.Ends

/-!
# Kinds of addresses

What stands behind a scheme is of one of a few kinds: a machine and a path, a path alone, or a text
without steps. The scheme and the first characters tell which one, and a longer text with the same
slashes in front is of the same kind. So what a longer text comes to is seen kind by kind.
-/

namespace ThreatIntel
namespace Url

theorem routed_of_ok
    {machine : Except Fault Authority}
    {front path : List Char}
    {authority : Authority}
    (read : (do pure (← machine, front)) = Except.ok (authority, path)) :
    machine = .ok authority ∧ path = front := by
  cases machine with
  | error fault => cases read
  | ok machine =>
      cases read
      exact ⟨rfl, rfl⟩

theorem drop_append_of_prefix
    {name inner : List Char}
    (front : name <+: inner)
    (more : List Char) :
    (inner ++ more).drop name.length = inner.drop name.length ++ more :=
  List.drop_append_of_le_length front.length_le

/-! ## Slashes in front -/

/-- The slashes in front of a text end there, where something else is in it. -/
theorem takeWhile_slash_append
    {special : Bool}
    {cs : List Char}
    (visible : ∃ c ∈ cs, isSlash special c = false)
    (more : List Char) :
    (cs ++ more).takeWhile (isSlash special) = cs.takeWhile (isSlash special) := by
  rw [List.takeWhile_append, if_neg]
  intro same
  obtain ⟨c, member, other⟩ := visible
  have all := (List.takeWhile_prefix _).eq_of_length same
  exact Bool.noConfusion ((List.takeWhile_eq_self_iff.mp all c member).symm.trans other)

/-- The slashes in front of a text end where it goes on with something else. -/
theorem takeWhile_slash_append_of_head
    {special : Bool}
    {more : List Char}
    (begins : ∃ c ∈ more.head?, isSlash special c = false)
    (cs : List Char) :
    (cs ++ more).takeWhile (isSlash special) = cs.takeWhile (isSlash special) := by
  obtain ⟨c, head, plain⟩ := begins
  obtain ⟨rest, rfl⟩ := List.head?_eq_some_iff.mp head
  rw [List.takeWhile_append]
  split
  · next all =>
      rw [List.takeWhile_cons_of_neg (by simpa using plain), List.append_nil]
      exact ((List.takeWhile_prefix _).eq_of_length all).symm
  · rfl

/-- Two slashes stand in front where there are two. -/
theorem isSlash_of_mem_take
    {special : Bool}
    {cs : List Char}
    (marked : 2 ≤ (cs.takeWhile (isSlash special)).length) :
    ∀ c ∈ cs.take 2, isSlash special c = true := by
  intro c member
  have shorter : (cs.take 2).length ≤ (cs.takeWhile (isSlash special)).length := by
    rw [List.length_take]
    omega
  have front := List.prefix_of_prefix_length_le (List.take_prefix 2 cs)
    (List.takeWhile_prefix (isSlash special)) shorter
  exact List.mem_takeWhile_imp (front.subset member)

/-! ## The kinds -/

/-- The kinds of what stands behind a scheme. -/
inductive Kind where
  /-- The machine of a file, or a drive, and a path. -/
  | file
  /-- A machine and a path, behind a scheme that may be special. -/
  | named (special : Option (Option Nat))
  /-- A path. -/
  | path (special : Bool)
  /-- A text without steps. -/
  | plain
  deriving DecidableEq, Repr

namespace Kind

/-- Whether a backslash is a slash. -/
def isSpecial : Kind → Bool
  | file => true
  | named special => special.isSome
  | path special => special
  | plain => false

/-- The text less the slashes in front of a machine. -/
def inner : Kind → List Char → List Char
  | file, cs | named none, cs => cs.drop 2
  | named (some _), cs => cs.dropWhile (isSlash true)
  | path _, cs | plain, cs => cs

/-- Read a text without the slashes in front of a machine. -/
def read : Kind → List Char → Except Fault (Authority × List Char)
  | file, cs => do
      let name := cs.takeWhile (!isSlash true ·)
      if isDrive name then pure ({}, readPath true cs)
      else pure (← readFileHost name, readPath true (cs.drop name.length))
  | named special, cs => do
      let name := cs.takeWhile (!isSlash special.isSome ·)
      pure (← readAuthority special name, readPath special.isSome (cs.drop name.length))
  | path special, cs => .ok ({}, readPath special cs)
  | plain, cs => .ok ({}, encode inControls cs)

end Kind

/-- The kind of what stands behind a scheme. -/
def kindOf (scheme cs : List Char) : Kind :=
  if scheme = "file".toList then
    if 2 ≤ (cs.takeWhile (isSlash true)).length then .file else .path true
  else match special? scheme with
    | some usual => .named (some usual)
    | none =>
        if 2 ≤ (cs.takeWhile (isSlash false)).length then .named none
        else if cs.head? = some '/' then .path false
        else .plain

theorem isSome_special?_file : (special? "file".toList).isSome = true := by
  decide

section

variable (scheme cs : List Char)

theorem isSpecial_kindOf :
    (kindOf scheme cs).isSpecial = (special? scheme).isSome := by
  unfold kindOf
  split
  · next file =>
      rw [file, isSome_special?_file]
      split <;> rfl
  · cases special? scheme with
    | some usual => rfl
    | none =>
        dsimp only
        split
        · rfl
        · split <;> rfl

/-- What stands behind a scheme is read as its kind says. -/
theorem readHierarchy_eq :
    readHierarchy scheme cs = (kindOf scheme cs).read ((kindOf scheme cs).inner cs) := by
  unfold readHierarchy kindOf
  by_cases file : scheme = "file".toList
  · simp only [if_pos file]
    simp only [file, isSome_special?_file]
    by_cases marked : 2 ≤ (cs.takeWhile (isSlash true)).length
    · simp only [if_pos marked]
      rfl
    · simp only [if_neg marked]
      rfl
  · simp only [if_neg file]
    cases special? scheme with
    | some usual =>
        simp only [Option.isSome_some, true_or, if_true]
        rfl
    | none =>
        simp only [Option.isSome_none, Bool.false_eq_true, false_or, if_false]
        by_cases marked : 2 ≤ (cs.takeWhile (isSlash false)).length
        · simp only [if_pos marked]
          rfl
        · simp only [if_neg marked]
          split <;> rfl

/-- What is left out in front of a machine are slashes. -/
theorem exists_append_inner :
    ∃ front, cs = front ++ (kindOf scheme cs).inner cs ∧
      ∀ c ∈ front, isSlash (special? scheme).isSome c = true := by
  have twoOff : ∀ {special : Bool}, 2 ≤ (cs.takeWhile (isSlash special)).length →
      ∃ front, cs = front ++ cs.drop 2 ∧ ∀ c ∈ front, isSlash special c = true := fun marked =>
    ⟨cs.take 2, (List.take_append_drop 2 cs).symm, isSlash_of_mem_take marked⟩
  have whole : ∀ {special : Bool}, ∃ front, cs = front ++ cs ∧
      ∀ c ∈ front, isSlash special c = true := ⟨[], rfl, by simp⟩
  unfold kindOf
  split
  · next file =>
      rw [file, isSome_special?_file]
      split
      · next marked => exact twoOff marked
      · exact whole
  · cases special? scheme with
    | some usual =>
        exact ⟨_, List.takeWhile_append_dropWhile.symm, fun _ => List.mem_takeWhile_imp⟩
    | none =>
        dsimp only
        split
        · next marked => exact twoOff marked
        · split <;> exact whole

variable
  {scheme cs}
  {more : List Char}
  (same : (cs ++ more).takeWhile (isSlash (special? scheme).isSome) =
    cs.takeWhile (isSlash (special? scheme).isSome))

include same

/-- A longer text is of the same kind, if no more slashes stand in front of it. -/
theorem kindOf_append :
    kindOf scheme (cs ++ more) = kindOf scheme cs := by
  unfold kindOf
  by_cases file : scheme = "file".toList
  · rw [file, isSome_special?_file] at same
    rw [if_pos file, if_pos file, same]
  · rw [if_neg file, if_neg file]
    cases kind : special? scheme with
    | some usual => rfl
    | none =>
        simp only [kind, Option.isSome_none] at same
        have rooted : ∀ {text : List Char},
            text.head? = some '/' ↔ (text.takeWhile (isSlash false)) ≠ [] := by
          intro text
          cases text with
          | nil => simp
          | cons c text => by_cases slash : c = '/' <;> simp [isSlash, slash]
        dsimp only
        simp only [rooted, same]

/-- In a longer text, too, the slashes in front of a machine are left out. -/
theorem inner_append :
    (kindOf scheme cs).inner (cs ++ more) = (kindOf scheme cs).inner cs ++ more := by
  have twoOff : ∀ {special : Bool}, 2 ≤ (cs.takeWhile (isSlash special)).length →
      (cs ++ more).drop 2 = cs.drop 2 ++ more := fun marked =>
    List.drop_append_of_le_length (marked.trans (List.takeWhile_prefix _).length_le)
  unfold kindOf
  split
  · split
    · next marked => exact twoOff marked
    · rfl
  · cases kind : special? scheme with
    | some usual =>
        rw [kind, Option.isSome_some] at same
        show (cs ++ more).dropWhile (isSlash true) = cs.dropWhile (isSlash true) ++ more
        have whole := (List.takeWhile_append_dropWhile (p := isSlash true) (l := cs ++ more)).trans
          (congrArg (· ++ more) (List.takeWhile_append_dropWhile (p := isSlash true)).symm)
        rw [same, List.append_assoc] at whole
        exact List.append_cancel_left whole
    | none =>
        dsimp only
        split
        · next marked => exact twoOff marked
        · split <;> rfl

omit same in
/-- Where something else than slashes stands behind a scheme, it is not left out, and neither is
what it ends with. -/
theorem inner_of_visible
    (visible : ∃ c ∈ cs, isSlash (special? scheme).isSome c = false) :
    (kindOf scheme cs).inner cs ≠ [] ∧
      ((kindOf scheme cs).inner cs).getLast? = cs.getLast? := by
  obtain ⟨front, shape, slashes⟩ := exists_append_inner scheme cs
  obtain ⟨c, member, other⟩ := visible
  have some? : (kindOf scheme cs).inner cs ≠ [] := by
    intro empty
    rw [shape, empty, List.append_nil] at member
    exact Bool.noConfusion ((slashes c member).symm.trans other)
  refine ⟨some?, ?_⟩
  conv =>
    rhs
    rw [shape]
  rw [List.getLast?_append, List.getLast?_eq_some_getLast some?]
  rfl

end

end Url
end ThreatIntel
