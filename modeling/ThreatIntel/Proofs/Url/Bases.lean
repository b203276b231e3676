import ThreatIntel.Proofs.Url.Paths

/-!
# Addresses below a base address

A base address names a scheme, a machine and perhaps a path. Whether it is an address is decided by
its scheme and its machine alone; so where it is one, it is one with any plain path behind it, and
the path of the longer address is the plain path behind what the base address comes to.
-/

namespace ThreatIntel

namespace Text

/-- A text without the characters of a kind at its end. -/
def withoutEnd (dropped : Char → Bool) (cs : List Char) : List Char :=
  (cs.reverse.dropWhile dropped).reverse

/-- What stands in front of a character that is not dropped stays. -/
theorem withoutEnd_append
    {dropped : Char → Bool}
    {front : List Char}
    (ends : ∃ c ∈ front.getLast?, dropped c = false)
    (rest : List Char) :
    withoutEnd dropped (front ++ rest) = front ++ withoutEnd dropped rest := by
  obtain ⟨c, last, kept⟩ := ends
  obtain ⟨others, rfl⟩ := List.getLast?_eq_some_iff.mp last
  unfold withoutEnd
  rw [List.reverse_append, List.dropWhile_append]
  split
  · next empty =>
      have nothing := List.isEmpty_iff.mp empty
      simp [nothing, kept]
  · simp

theorem withoutEnd_of_last
    {dropped : Char → Bool}
    {cs : List Char}
    (ends : ∃ c ∈ cs.getLast?, dropped c = false) :
    withoutEnd dropped cs = cs := by
  have kept := withoutEnd_append ends []
  rw [List.append_nil] at kept
  exact kept.trans (List.append_nil cs)

theorem withoutEnd_prefix (dropped : Char → Bool) (cs : List Char) :
    (withoutEnd dropped cs).IsPrefix cs := by
  have back := List.dropWhile_suffix dropped (l := cs.reverse)
  rw [← List.reverse_prefix, List.reverse_reverse] at back
  exact back

end Text

namespace Url

/-- A character of a scheme is visible and marks nothing. -/
theorem isSchemeChar_spec
    {c : Char}
    (spelled : isSchemeChar c = true) :
    0x20 < c.toNat ∧ Text.isBlank c = false ∧ c ∉ ['?', '#'] := by
  have small : c.toNat < 128 := by
    simp only [isSchemeChar, Bool.or_eq_true, beq_iff_eq] at spelled
    rcases spelled with ((letter | rfl) | rfl) | rfl
    · exact Text.toNat_lt_of_isAlphanum letter
    all_goals decide
  revert spelled
  apply Text.holds_of_table small
  decide

/-- A base address in its parts: a scheme, a machine with perhaps a service number, and a path. -/
structure Base where
  /-- The scheme, as it is spelled. -/
  scheme : List Char
  /-- The machine, with what stands before and behind its name. -/
  authority : List Char
  /-- The path, which may be missing. -/
  path : List Char
  /-- A scheme begins with a letter. -/
  scheme_begins : ∃ c ∈ scheme.head?, c.isAlpha = true
  /-- A scheme has no other characters than those of schemes. -/
  scheme_spelled : ∀ c ∈ scheme, isSchemeChar c = true
  /-- A machine is named. -/
  authority_ne_nil : authority ≠ []
  /-- The name of the machine holds neither controls nor slashes. -/
  authority_spelled : ∀ c ∈ authority,
    0x20 < c.toNat ∧ isSlash (special? (scheme.map Char.toLower)).isSome c = false
  /-- The path begins with a slash. -/
  path_begins : ∀ c ∈ path.head?, isSlash (special? (scheme.map Char.toLower)).isSome c = true
  /-- There is neither a blank nor the beginning of a query or a fragment. -/
  visible : ∀ c ∈ authority ++ path, Text.isBlank c = false ∧ c ≠ '?' ∧ c ≠ '#'

namespace Base

/-- The characters of a base address with something behind it. -/
def charsBefore (base : Base) (rest : List Char) : List Char :=
  base.scheme ++ ':' :: '/' :: '/' :: (base.authority ++ rest)

/-- The text of a base address. -/
def text (base : Base) : String :=
  String.ofList (base.charsBefore base.path)

/-- The scheme in lower case. -/
def name (base : Base) : List Char :=
  base.scheme.map Char.toLower

/-- Whether the scheme is special. -/
def isSpecial (base : Base) : Bool :=
  (special? base.name).isSome

/-- Whether the machine is in truth the name of a drive. -/
def isDriven (base : Base) : Bool :=
  base.name == "file".toList && isDrive base.authority

/-- The machine of a base address, if it is one. -/
def machine (base : Base) : Except Fault Authority :=
  if base.name = "file".toList then
    if isDrive base.authority then .ok {} else readFileHost base.authority
  else readAuthority (special? base.name) base.authority

/-- What stands behind the machine, and is read as a path. -/
def routed (base : Base) (rest : List Char) : List Char :=
  if base.isDriven then base.authority ++ rest else rest

/-- What the path of the base address is kept as where a longer path goes on. -/
def keptPath (base : Base) : List Char :=
  keptFront base.isSpecial (base.routed base.path)

end Base

/-! ## Reading the parts -/

theorem readScheme?_append
    {scheme : List Char}
    (begins : ∃ c ∈ scheme.head?, c.isAlpha = true)
    (spelled : ∀ c ∈ scheme, isSchemeChar c = true)
    (rest : List Char) :
    readScheme? (scheme ++ ':' :: rest) = some (scheme.map Char.toLower, rest) := by
  obtain ⟨first, head, letter⟩ := begins
  have name : (scheme ++ ':' :: rest).takeWhile isSchemeChar = scheme := by
    have colon : isSchemeChar ':' = false := by decide
    rw [List.takeWhile_append_of_pos spelled]
    simp [colon]
  have first? : scheme.head? = some first := head
  simp [readScheme?, name, first?, letter]

namespace Base

variable (base : Base)

theorem isSlash_slash (special : Bool) : isSlash special '/' = true := rfl

theorem isSlash_of_mem_authority
    {c : Char}
    (member : c ∈ base.authority) :
    isSlash base.isSpecial c = false :=
  (base.authority_spelled c member).2

/-- The first character behind the machine ends its name. -/
theorem takeWhile_authority
    {rest : List Char}
    (begins : ∀ c ∈ rest.head?, isSlash base.isSpecial c = true) :
    (base.authority ++ rest).takeWhile (!isSlash base.isSpecial ·) = base.authority := by
  have front : ∀ c ∈ base.authority, (!isSlash base.isSpecial c) = true := by
    intro c member
    rw [base.isSlash_of_mem_authority member]
    rfl
  rw [List.takeWhile_append_of_pos front]
  cases rest with
  | nil => simp
  | cons c rest => simp [begins c rfl]

/-- Two slashes stand in front of the machine, and no more. -/
theorem slashes_authority (rest : List Char) :
    ('/' :: '/' :: (base.authority ++ rest)).takeWhile (isSlash base.isSpecial) = ['/', '/'] ∧
      ('/' :: '/' :: (base.authority ++ rest)).dropWhile (isSlash base.isSpecial) =
        base.authority ++ rest := by
  obtain ⟨c, others, shape⟩ := List.exists_cons_of_ne_nil base.authority_ne_nil
  have noSlash : isSlash base.isSpecial c = false :=
    base.isSlash_of_mem_authority (shape ▸ List.mem_cons_self)
  simp [shape, noSlash, isSlash_slash, List.takeWhile_cons, List.dropWhile_cons]

/-- The scheme and the machine decide whether an address is one, and what is behind them is read as
a path. -/
theorem readHierarchy_authority
    {rest : List Char}
    (begins : ∀ c ∈ rest.head?, isSlash base.isSpecial c = true) :
    readHierarchy base.name ('/' :: '/' :: (base.authority ++ rest)) =
      base.machine.map fun machine =>
        (machine, readPath base.isSpecial (base.routed rest)) := by
  obtain ⟨taken, dropped⟩ := base.slashes_authority rest
  have named := base.takeWhile_authority begins
  unfold isSpecial at taken dropped named ⊢
  have marked : 2 ≤ (['/', '/'] : List Char).length := by decide
  unfold readHierarchy
  simp only [taken, dropped, marked, if_true, List.drop_succ_cons, List.drop_zero, named,
    List.drop_left, or_true]
  -- Only an address of a file may name a drive, which is a part of its path, in place of a machine.
  by_cases file : base.name = "file".toList
  · have special : (special? "file".toList).isSome = true := by decide
    simp only [machine, routed, isDriven, file, if_true, special, BEq.rfl, Bool.true_and]
    cases isDrive base.authority with
    | true => rfl
    | false => cases readFileHost base.authority <;> rfl
  · have other : (base.name == "file".toList) = false := beq_eq_false_iff_ne.mpr file
    simp only [machine, routed, isDriven, file, if_false, ite_self, named, List.drop_left, other,
      Bool.false_and, Bool.false_eq_true]
    cases readAuthority (special? base.name) base.authority <;> rfl

/-! ## Reading a whole address -/

/-- The part of a base address that names the machine begins and ends with visible characters. -/
theorem spelled_front
    {c : Char}
    (member : c ∈ base.scheme ++ ':' :: '/' :: '/' :: base.authority) :
    0x20 < c.toNat ∧ Text.isBlank c = false ∧ c ∉ ['?', '#'] := by
  have colon : 0x20 < ':'.toNat ∧ Text.isBlank ':' = false ∧ ':' ∉ ['?', '#'] := by decide
  have slash : 0x20 < '/'.toNat ∧ Text.isBlank '/' = false ∧ '/' ∉ ['?', '#'] := by decide
  have named : ∀ c ∈ base.authority, 0x20 < c.toNat ∧ Text.isBlank c = false ∧ c ∉ ['?', '#'] := by
    intro c inside
    obtain ⟨blank, query, fragment⟩ := base.visible c (List.mem_append_left _ inside)
    exact ⟨(base.authority_spelled c inside).1, blank, by simp [query, fragment]⟩
  simp only [List.mem_append, List.mem_cons] at member
  rcases member with scheme | rfl | rfl | rfl | authority
  · exact isSchemeChar_spec (base.scheme_spelled c scheme)
  · exact colon
  · exact slash
  · exact slash
  · exact named c authority

/-- The first character of a scheme and the last one of a machine are no blanks or controls. -/
theorem ends_front :
    (∃ c ∈ (base.scheme ++ ':' :: '/' :: '/' :: base.authority).head?,
      decide (c.toNat ≤ 0x20) = false) ∧
    ∃ c ∈ (base.scheme ++ ':' :: '/' :: '/' :: base.authority).getLast?,
      decide (c.toNat ≤ 0x20) = false := by
  have nonempty : base.scheme ++ ':' :: '/' :: '/' :: base.authority ≠ [] := by simp
  have spelled : ∀ c ∈ base.scheme ++ ':' :: '/' :: '/' :: base.authority,
      decide (c.toNat ≤ 0x20) = false := by
    intro c member
    have visible := (base.spelled_front member).1
    exact decide_eq_false (by omega)
  exact ⟨⟨_, List.head?_eq_some_head nonempty, spelled _ (List.head_mem nonempty)⟩,
    ⟨_, List.getLast?_eq_some_getLast nonempty, spelled _ (List.getLast_mem nonempty)⟩⟩

/-- Only what stands behind the machine can lose blanks and controls at its end. -/
theorem cleaned_charsBefore
    {rest : List Char}
    (visible : ∀ c ∈ rest, Text.isBlank c = false) :
    cleaned (base.charsBefore rest) =
      base.charsBefore (Text.withoutEnd (fun c => decide (c.toNat ≤ 0x20)) rest) := by
  have shape : ∀ rest, base.charsBefore rest =
      (base.scheme ++ ':' :: '/' :: '/' :: base.authority) ++ rest := by
    intro rest
    simp [charsBefore]
  obtain ⟨⟨first, head, visibleHead⟩, last⟩ := base.ends_front
  have trimmed := Text.withoutEnd_append last rest
  have kept : ∀ c ∈ base.charsBefore (Text.withoutEnd (fun c => decide (c.toNat ≤ 0x20)) rest),
      decide (c ≠ '\t' ∧ c ≠ '\n' ∧ c ≠ '\x0d') = true := by
    intro c member
    have notBlank : Text.isBlank c = false := by
      rw [shape] at member
      rcases List.mem_append.mp member with front | back
      · exact (base.spelled_front front).2.1
      · exact visible c ((Text.withoutEnd_prefix _ rest).subset back)
    refine decide_eq_true ⟨?_, ?_, ?_⟩ <;>
    · rintro rfl
      exact absurd notBlank (by decide)
  have started : (base.charsBefore rest).dropWhile (fun c => decide (c.toNat ≤ 0x20)) =
      base.charsBefore rest := by
    obtain ⟨others, front⟩ := List.head?_eq_some_iff.mp head
    rw [shape, front, List.cons_append]
    exact List.dropWhile_cons_of_neg (by simpa using visibleHead)
  rw [← shape, ← shape] at trimmed
  unfold Text.withoutEnd at trimmed kept ⊢
  rw [cleaned]
  simp only [started, trimmed]
  exact List.filter_eq_self.mpr kept

theorem begins_of_prefix
    {front rest : List Char}
    (shorter : front.IsPrefix rest)
    (begins : ∀ c ∈ rest.head?, isSlash base.isSpecial c = true) :
    ∀ c ∈ front.head?, isSlash base.isSpecial c = true := by
  intro c head
  obtain ⟨back, rfl⟩ := shorter
  obtain ⟨others, shape⟩ := List.head?_eq_some_iff.mp head
  subst shape
  exact begins c rfl

/-- The scheme and the machine decide whether an address below a base address is one. -/
theorem ofText_charsBefore
    {rest : List Char}
    (begins : ∀ c ∈ rest.head?, isSlash base.isSpecial c = true)
    (visible : ∀ c ∈ rest, Text.isBlank c = false ∧ c ≠ '?' ∧ c ≠ '#') :
    ofText (String.ofList (base.charsBefore rest)) =
      base.machine.map fun machine =>
        { scheme := base.name
          user := machine.user
          host := machine.host
          service := machine.service
          path := readPath base.isSpecial (base.routed
            (Text.withoutEnd (fun c => decide (c.toNat ≤ 0x20)) rest))
          query := none
          fragment := none } := by
  have shorter := Text.withoutEnd_prefix (fun c => decide (c.toNat ≤ 0x20)) rest
  have unmarked : ∀ c ∈ base.charsBefore
      (Text.withoutEnd (fun c => decide (c.toNat ≤ 0x20)) rest), c ≠ '?' ∧ c ≠ '#' := by
    intro c member
    have split : c ∈ (base.scheme ++ ':' :: '/' :: '/' :: base.authority) ++
        Text.withoutEnd (fun c => decide (c.toNat ≤ 0x20)) rest := by
      simpa [charsBefore] using member
    rcases List.mem_append.mp split with front | back
    · simpa using (base.spelled_front front).2.2
    · exact (visible c (shorter.subset back)).2
  have noFragment := Text.cutAt_of_notMem fun member => (unmarked '#' member).2 rfl
  have noQuery := Text.cutAt_of_notMem fun member => (unmarked '?' member).1 rfl
  have named := readScheme?_append base.scheme_begins base.scheme_spelled
    ('/' :: '/' :: (base.authority ++ Text.withoutEnd (fun c => decide (c.toNat ≤ 0x20)) rest))
  have parts := base.readHierarchy_authority (base.begins_of_prefix shorter begins)
  unfold name at parts
  rw [ofText, String.toList_ofList, base.cleaned_charsBefore fun c member => (visible c member).1]
  unfold charsBefore at noFragment noQuery ⊢
  simp only [noFragment, noQuery, named, parts]
  cases base.machine <;> rfl

/-- Nothing but its scheme and its machine keeps a base address from being an address. -/
theorem exists_machine_of_ofText
    {url : Url}
    (reads : ofText base.text = .ok url) :
    ∃ machine, base.machine = .ok machine := by
  have parts := base.ofText_charsBefore base.path_begins
    fun c member => base.visible c (List.mem_append_right _ member)
  rw [text, parts] at reads
  cases accepted : base.machine with
  | error fault => simp [accepted, Except.map] at reads
  | ok machine => exact ⟨machine, rfl⟩

/-! ## Plain paths below a base address -/

theorem routed_append (front rest : List Char) :
    base.routed (front ++ rest) = base.routed front ++ rest := by
  unfold routed
  split
  · exact (List.append_assoc _ _ _).symm
  · rfl

section Plain

variable
  {path : List Char}
  (plain : IsPlainPath path)

include plain

theorem begins_append_plain :
    ∀ c ∈ (base.path ++ path).head?, isSlash base.isSpecial c = true := by
  intro c head
  cases shape : base.path with
  | nil =>
      rw [shape, List.nil_append, plain.slashed] at head
      cases head
      rfl
  | cons first rest =>
      rw [shape] at head
      refine base.path_begins c ?_
      rw [shape]
      exact head

theorem visible_append_plain :
    ∀ c ∈ base.path ++ path, Text.isBlank c = false ∧ c ≠ '?' ∧ c ≠ '#' := by
  intro c member
  rcases List.mem_append.mp member with front | back
  · exact base.visible c (List.mem_append_right _ front)
  · obtain ⟨-, blank, -, marks, -⟩ := isStepChar_spec (plain.spelled c back)
    simp only [List.mem_cons, List.not_mem_nil, or_false, not_or] at marks
    exact ⟨blank, marks.2.1, marks.2.2.1⟩

/-- A plain path does not end with a blank or a control. -/
theorem withoutEnd_append_plain (front : List Char) :
    Text.withoutEnd (fun c => decide (c.toNat ≤ 0x20)) (front ++ path) = front ++ path := by
  have nonempty : path ≠ [] := by
    rintro rfl
    cases plain.slashed
  have last := isStepChar_spec (plain.spelled _ (List.getLast_mem nonempty))
  refine Text.withoutEnd_of_last ⟨path.getLast nonempty, ?_, decide_eq_false (by omega)⟩
  rw [List.getLast?_append, List.getLast?_eq_some_getLast nonempty]
  rfl

end Plain

/-- A plain path below a base address is kept behind what the path of the base address comes to. -/
theorem ofText_append
    {machine : Authority}
    (accepted : base.machine = .ok machine)
    {path : String}
    (plain : IsPlainPath path.toList) :
    ofText (base.text ++ path) =
      .ok {
        scheme := base.name
        user := machine.user
        host := machine.host
        service := machine.service
        path := base.keptPath ++ path.toList
        query := none
        fragment := none } := by
  have joined : base.text ++ path =
      String.ofList (base.charsBefore (base.path ++ path.toList)) := by
    apply String.toList_inj.mp
    simp [text, charsBefore]
  have reads := base.ofText_charsBefore (base.begins_append_plain plain)
    (base.visible_append_plain plain)
  rw [withoutEnd_append_plain plain base.path, base.routed_append,
    readPath_append base.isSpecial _ plain, accepted] at reads
  rw [joined]
  exact reads

/-! ## Shorter paths -/

/-- The same base address with less of its path. -/
def upTo
    (path : List Char)
    (shorter : path.IsPrefix base.path) :
    Base where
  scheme := base.scheme
  authority := base.authority
  path := path
  scheme_begins := base.scheme_begins
  scheme_spelled := base.scheme_spelled
  authority_ne_nil := base.authority_ne_nil
  authority_spelled := base.authority_spelled
  path_begins := base.begins_of_prefix shorter base.path_begins
  visible := by
    intro c member
    refine base.visible c ?_
    rcases List.mem_append.mp member with front | back
    · exact List.mem_append_left _ front
    · exact List.mem_append_right _ (shorter.subset back)

/-- The slashes at the end of a base address are those of its path. -/
theorem withoutEnd_charsBefore (rest : List Char) :
    Text.withoutEnd (· == '/') (base.charsBefore rest) =
      base.charsBefore (Text.withoutEnd (· == '/') rest) := by
  have shape : ∀ rest, base.charsBefore rest =
      (base.scheme ++ [':', '/', '/'] ++ base.authority) ++ rest := by
    intro rest
    simp [charsBefore]
  have last := List.getLast_mem base.authority_ne_nil
  have noSlash : (base.authority.getLast base.authority_ne_nil == '/') = false := by
    have other := base.isSlash_of_mem_authority last
    unfold isSlash at other
    exact (Bool.or_eq_false_iff.mp other).1
  rw [shape, shape]
  refine Text.withoutEnd_append ⟨base.authority.getLast base.authority_ne_nil, ?_, noSlash⟩ rest
  rw [List.getLast?_append, List.getLast?_eq_some_getLast base.authority_ne_nil]
  rfl

end Base
end Url
end ThreatIntel
