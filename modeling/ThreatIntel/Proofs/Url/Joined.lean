import ThreatIntel.Proofs.Url.Blanks

/-!
# Paths behind any address

An address is read from text, and so is the address with a path behind it. The two readings agree
exactly where the text of the address ends with what can go on: with no query and no fragment, no
blank that would stand in the middle, and no slash. Then the longer address has the scheme and the
machine of the shorter one, and its path with the other path behind.
-/

namespace ThreatIntel
namespace Url

/-! ## Machines and paths that go on -/

/-- A name ends where a path begins. -/
theorem takeWhile_append_plain
    {below : List Char}
    (plain : IsPlainPath below)
    (special : Bool)
    (cs : List Char) :
    (cs ++ below).takeWhile (!isSlash special ·) = cs.takeWhile (!isSlash special ·) := by
  obtain ⟨rest, rfl⟩ := List.head?_eq_some_iff.mp plain.slashed
  have stops : ('/' :: rest).takeWhile (!isSlash special ·) = [] := rfl
  rw [List.takeWhile_append]
  split
  · next all =>
      rw [stops, List.append_nil]
      exact ((List.takeWhile_prefix _).eq_of_length all).symm
  · rfl

section Below

variable
  {path below : List Char}
  {authority : Authority}
  (plain : IsPlainPath below)

include plain

/-- Where the end of the text is read as a path, a path behind it goes on behind what that path is
kept as. -/
theorem readPath_below
    {special : Bool}
    {cs inner : List Char}
    (suffix : inner <:+ cs)
    (unslashed : inner = [] → ∀ c ∈ cs.getLast?, isSlash special c = false)
    (shape : path = readPath special inner) :
    readPath special (inner ++ below) = keptFront special inner ++ below ∧
      (Text.withoutEnd (· == '/') path = keptFront special inner ↔
        (∀ c ∈ cs.getLast?, isSlash special c = false) ∧ ¬['/', '/'] <:+ path) := by
  subst shape
  refine ⟨readPath_append _ inner plain, ?_⟩
  rw [withoutEnd_readPath_iff]
  by_cases nonempty : inner = []
  · exact and_congr_left' (iff_of_true (by simp [nonempty]) (unslashed nonempty))
  · obtain ⟨front, rfl⟩ := suffix
    rw [List.getLast?_append, List.getLast?_eq_some_getLast nonempty]
    rfl

omit plain in
/-- A name that no slash follows does not end with one. -/
theorem ends_of_unslashed
    {special : Bool}
    {cs : List Char}
    (unslashed : cs.drop (cs.takeWhile (!isSlash special ·)).length = []) :
    ∀ c ∈ cs.getLast?, isSlash special c = false := by
  have whole : cs.takeWhile (!isSlash special ·) = cs :=
    (List.takeWhile_prefix _).eq_of_length_le (List.drop_eq_nil_iff.mp unslashed)
  intro c last
  simpa using List.takeWhile_eq_self_iff.mp whole c (List.mem_of_getLast? last)

/-- Where a text has no steps, a path goes on behind the text as it is kept. -/
theorem encode_below (cs : List Char) :
    encode inControls (cs ++ below) = encode inControls cs ++ below ∧
      (Text.withoutEnd (· == '/') (encode inControls cs) = encode inControls cs ↔
        (∀ c ∈ cs.getLast?, isSlash false c = false) ∧
          ¬['/', '/'] <:+ encode inControls cs) := by
  refine ⟨by rw [encode_append, encode_inControls_of_plain plain], ?_⟩
  have encoded : '/' ∈ (encode inControls cs).getLast? ↔ '/' ∈ cs.getLast? :=
    slash_mem_getLast?_encode (by decide)
  have unslashed : ∀ cs : List Char,
      (∀ c ∈ cs.getLast?, isSlash false c = false) ↔ '/' ∉ cs.getLast? := by
    intro cs
    refine ⟨fun plain slash => Bool.noConfusion (plain '/' slash), fun other c last => ?_⟩
    have noSlash : c ≠ '/' := fun same => other (same ▸ last)
    simp [isSlash, noSlash]
  have whole : Text.withoutEnd (· == '/') (encode inControls cs) = encode inControls cs ↔
      '/' ∉ (encode inControls cs).getLast? := by
    rw [Text.withoutEnd_eq_self_iff, ← unslashed]
    simp [isSlash]
  rw [whole, unslashed, encoded]
  exact (and_iff_left_of_imp fun other double =>
    other (encoded.mp (getLast?_of_suffix double rfl))).symm

/-- A path behind a text of a kind goes on behind what its path is kept as, which is the path
without its slashes at the end exactly if the text does not end with a slash, and leaves no empty
step in front of a last point. -/
theorem Kind.read_append
    (kind : Kind)
    {cs : List Char}
    (read : kind.read cs = .ok (authority, path))
    (nonempty : cs ≠ []) :
    ∃ kept, kind.read (cs ++ below) = .ok (authority, kept ++ below) ∧
      (Text.withoutEnd (· == '/') path = kept ↔
        (∀ c ∈ cs.getLast?, isSlash kind.isSpecial c = false) ∧ ¬['/', '/'] <:+ path) := by
  cases kind with
  | file =>
      simp only [Kind.read, takeWhile_append_plain plain] at read ⊢
      split at read
      · next drive =>
          cases read
          obtain ⟨goes, kept⟩ :=
            readPath_below plain (List.suffix_refl cs) (absurd · nonempty) rfl
          rw [if_pos drive, goes]
          exact ⟨_, rfl, kept⟩
      · next noDrive =>
          obtain ⟨found, shape⟩ := routed_of_ok read
          obtain ⟨goes, kept⟩ :=
            readPath_below plain (List.drop_suffix _ cs) ends_of_unslashed shape
          rw [if_neg noDrive, found, drop_append_of_prefix (List.takeWhile_prefix _), goes]
          exact ⟨_, rfl, kept⟩
  | named special =>
      simp only [Kind.read, takeWhile_append_plain plain] at read ⊢
      obtain ⟨found, shape⟩ := routed_of_ok read
      obtain ⟨goes, kept⟩ :=
        readPath_below plain (List.drop_suffix _ cs) ends_of_unslashed shape
      rw [found, drop_append_of_prefix (List.takeWhile_prefix _), goes]
      exact ⟨_, rfl, kept⟩
  | path special =>
      cases read
      obtain ⟨goes, kept⟩ :=
        readPath_below plain (List.suffix_refl cs) (absurd · nonempty) rfl
      exact ⟨_, congrArg (fun path => Except.ok (_, path)) goes, kept⟩
  | plain =>
      cases read
      obtain ⟨goes, kept⟩ := encode_below plain cs
      exact ⟨_, congrArg (fun path => Except.ok (_, path)) goes, kept⟩

/-- The same for what stands behind a scheme, where this is more than slashes. -/
theorem readHierarchy_append
    {scheme rest : List Char}
    (read : readHierarchy scheme rest = .ok (authority, path))
    (visible : ∃ c ∈ rest, isSlash (special? scheme).isSome c = false) :
    ∃ kept, readHierarchy scheme (rest ++ below) = .ok (authority, kept ++ below) ∧
      (Text.withoutEnd (· == '/') path = kept ↔
        (∀ c ∈ rest.getLast?, isSlash (special? scheme).isSome c = false) ∧
          ¬['/', '/'] <:+ path) := by
  have same := takeWhile_slash_append visible below
  obtain ⟨nonempty, last⟩ := inner_of_visible visible
  rw [readHierarchy_eq] at read
  obtain ⟨kept, goes, whole⟩ := Kind.read_append plain _ read nonempty
  rw [last, isSpecial_kindOf] at whole
  rw [readHierarchy_eq, kindOf_append same, inner_append same]
  exact ⟨kept, goes, whole⟩

end Below

/-! ## Slashes alone -/

/-- Addresses may go without a machine if they are those of files, or have no special scheme. -/
def IsFree (scheme : List Char) : Prop :=
  scheme = "file".toList ∨ special? scheme = none

/-- An address with nothing but slashes behind its scheme goes without a machine. -/
theorem isFree_of_slashes
    {scheme slashes : List Char}
    {parts : Authority × List Char}
    (read : readHierarchy scheme slashes = .ok parts)
    (only : ∀ c ∈ slashes, isSlash (special? scheme).isSome c = true) :
    IsFree scheme := by
  by_contra other
  obtain ⟨noFile, special⟩ := not_or.mp other
  obtain ⟨usual, kind⟩ := Option.ne_none_iff_exists'.mp special
  have dropped := List.dropWhile_eq_nil_iff.mpr only
  unfold readHierarchy at read
  simp only [kind, Option.isSome_some, if_neg noFile, true_or, if_true] at read dropped
  rw [dropped] at read
  cases read

/-- Behind two slashes and no name there is only a path. -/
theorem readHierarchy_of_unnamed
    {scheme cs : List Char}
    (free : IsFree scheme)
    (marked : 2 ≤ (cs.takeWhile (isSlash (special? scheme).isSome)).length)
    (unnamed : (cs.drop 2).takeWhile (!isSlash (special? scheme).isSome ·) = []) :
    readHierarchy scheme cs = .ok ({}, readPath (special? scheme).isSome (cs.drop 2)) := by
  by_cases file : scheme = "file".toList
  · have special : (special? scheme).isSome = true := by rw [file]; decide
    rw [special] at marked unnamed ⊢
    unfold readHierarchy
    simp only [if_pos file, special, if_pos marked, unnamed]
    rfl
  · have ordinary := free.resolve_left file
    rw [ordinary] at marked unnamed ⊢
    unfold readHierarchy
    simp only [if_neg file, ordinary, Option.isSome_none, Bool.false_eq_true, false_or,
      if_false] at marked unnamed ⊢
    rw [if_pos marked, unnamed]
    rfl

/-- A path of plain steps, of which the first one says which version of the site is asked. -/
structure IsVersionedPath (path : List Char) : Prop extends IsPlainPath path where
  /-- The first step is the letter of versions with a number. -/
  versioned : ∃ digit ∈ ['2', '3'], ∃ rest, path = '/' :: 'v' :: digit :: '/' :: rest

/-- The first step of a path behind a single slash is taken for a machine. -/
theorem readHierarchy_of_single
    {scheme below : List Char}
    {c : Char}
    (free : IsFree scheme)
    (slash : isSlash (special? scheme).isSome c = true)
    (path : IsVersionedPath below) :
    ∃ host path, readHierarchy scheme (c :: below) = .ok ({ host := some host }, path) := by
  obtain ⟨digit, known, rest, rfl⟩ := path.versioned
  have digits : digit = '2' ∨ digit = '3' := by simpa using known
  have plain : ∀ special, isSlash special digit = false := by
    rcases digits with rfl | rfl <;> decide
  have letter : ∀ special, isSlash special 'v' = false := by decide
  have division : ∀ special, isSlash special '/' = true := fun _ => rfl
  by_cases file : scheme = "file".toList
  · have special : (special? scheme).isSome = true := by rw [file]; decide
    have noDrive : ¬isDrive ['v', digit] = true := by
      rcases digits with rfl | rfl <;> decide
    have host : readFileHost ['v', digit] = .ok { host := some (.domain ['v', digit]) } := by
      have domain : readHost true ['v', digit] = .ok (.domain ['v', digit]) := by
        rcases digits with rfl | rfl <;> decide +kernel
      rw [readFileHost, if_neg (by simp), domain]
      rcases digits with rfl | rfl <;> rfl
    rw [special] at slash
    refine ⟨.domain ['v', digit], readPath true ('/' :: rest), ?_⟩
    unfold readHierarchy
    rw [if_pos file]
    simp [special, slash, division, letter, plain, noDrive, host]
  · have ordinary := free.resolve_left file
    have host : readAuthority none ['v', digit] = .ok { host := some (.domain ['v', digit]) } := by
      rcases digits with rfl | rfl <;> rfl
    rw [ordinary] at slash
    unfold readHierarchy
    simp only [Option.isSome_none] at slash
    refine ⟨.domain ['v', digit], readPath false ('/' :: rest), ?_⟩
    rw [if_neg file]
    simp [ordinary, slash, division, letter, plain, host]

theorem readPath_plain
    {path : List Char}
    (plain : IsPlainPath path)
    (special : Bool) :
    readPath special path = path :=
  readPath_append special [] plain

/-- A path behind a scheme alone is the path of the address. -/
theorem readHierarchy_plain
    {scheme below : List Char}
    (free : IsFree scheme)
    (path : IsVersionedPath below) :
    readHierarchy scheme below = .ok ({}, below) := by
  have plain := path.toIsPlainPath
  have single : below.takeWhile (isSlash (special? scheme).isSome) = ['/'] := by
    obtain ⟨digit, -, rest, rfl⟩ := path.versioned
    cases (special? scheme).isSome <;> rfl
  have unmarked : ¬2 ≤ (['/'] : List Char).length := by decide
  by_cases file : scheme = "file".toList
  · unfold readHierarchy
    simp only [if_pos file, single, if_neg unmarked]
    exact congrArg (fun path => Except.ok (_, path)) (readPath_plain plain true)
  · have ordinary := free.resolve_left file
    unfold readHierarchy
    simp only [ordinary, Option.isSome_none] at single
    simp only [if_neg file, ordinary, Option.isSome_none, single, Bool.false_eq_true, false_or,
      if_neg unmarked, plain.slashed, if_true, readPath_plain plain]

theorem isPlainPath_of_slashes
    {slashes : List Char}
    (nonempty : slashes ≠ [])
    (only : ∀ c ∈ slashes, c = '/') :
    IsPlainPath slashes where
  slashed := by
    rw [List.head?_eq_some_head nonempty, only _ (List.head_mem nonempty)]
  spelled := by
    intro c member
    rw [only c member]
    rfl

theorem readPath_slashed (special : Bool) (cs : List Char) :
    readPath special (slashed special cs) = readPath special cs := by
  have twice : (slashed special cs).map (fun c => if isSlash special c then '/' else c) =
      slashed special cs := by
    rw [slashed, List.map_map]
    refine List.map_congr_left fun c _ => ?_
    have division : isSlash special '/' = true := rfl
    by_cases slash : isSlash special c = true <;>
    simp only [Function.comp_apply, slash, division, if_true, Bool.false_eq_true, if_false]
  unfold readPath
  rw [twice]
  simp [slashed]

/-- No name stands in front of slashes. -/
theorem name_of_slashes
    {special : Bool}
    {slashes : List Char}
    (only : ∀ c ∈ slashes, isSlash special c = true) :
    slashes.takeWhile (!isSlash special ·) = [] := by
  cases slashes with
  | nil => rfl
  | cons c rest => exact List.takeWhile_cons_of_neg (by simp [only c List.mem_cons_self])

/-- A row of slashes is read as one. -/
theorem readPath_slashes
    {special : Bool}
    {slashes : List Char}
    (only : ∀ c ∈ slashes, isSlash special c = true) :
    ∀ c ∈ readPath special slashes, c = '/' := by
  have row : ∀ c ∈ slashed special slashes, c = '/' := by
    intro c member
    obtain ⟨d, inside, rfl⟩ := List.mem_map.mp member
    exact if_pos (only d inside)
  by_cases empty : slashes = []
  · subst empty
    intro c member
    cases special with
    | false => cases member
    | true => exact List.mem_singleton.mp member
  · rw [← readPath_slashed, readPath_plain (isPlainPath_of_slashes (by simpa [slashed]) row)]
    exact row

/-- Fewer than two slashes behind a scheme, and nothing else, are a path. -/
theorem readHierarchy_of_few
    {scheme slashes : List Char}
    (free : IsFree scheme)
    (only : ∀ c ∈ slashes, isSlash (special? scheme).isSome c = true)
    (few : slashes.length < 2) :
    readHierarchy scheme slashes = .ok ({}, readPath (special? scheme).isSome slashes) := by
  have unmarked : ¬2 ≤ (slashes.takeWhile (isSlash (special? scheme).isSome)).length := by
    have shorter :=
      (List.takeWhile_prefix (isSlash (special? scheme).isSome) (l := slashes)).length_le
    omega
  by_cases file : scheme = "file".toList
  · have special : (special? scheme).isSome = true := by rw [file]; decide
    rw [special] at unmarked ⊢
    unfold readHierarchy
    simp only [if_pos file, special, if_neg unmarked]
    rfl
  · have ordinary := free.resolve_left file
    rw [ordinary] at unmarked only ⊢
    unfold readHierarchy
    simp only [if_neg file, ordinary, Option.isSome_none, Bool.false_eq_true, false_or]
      at unmarked only ⊢
    rw [if_neg unmarked]
    cases slashes with
    | nil => rfl
    | cons c rest =>
        have slash : c = '/' := by simpa [isSlash] using only c List.mem_cons_self
        rw [if_pos (by simp [slash])]

/-- Slashes behind a scheme, and nothing else, name no machine and come to no more than slashes. -/
theorem readHierarchy_slashes
    {scheme slashes : List Char}
    (free : IsFree scheme)
    (only : ∀ c ∈ slashes, isSlash (special? scheme).isSome c = true) :
    ∃ path, readHierarchy scheme slashes = .ok ({}, path) ∧ ∀ c ∈ path, c = '/' := by
  by_cases few : slashes.length < 2
  · exact ⟨_, readHierarchy_of_few free only few, readPath_slashes only⟩
  have fewer : ∀ c ∈ slashes.drop 2, isSlash (special? scheme).isSome c = true :=
    fun c member => only c (List.mem_of_mem_drop member)
  have marked : 2 ≤ (slashes.takeWhile (isSlash (special? scheme).isSome)).length := by
    rw [List.takeWhile_eq_self_iff.mpr only]
    omega
  exact ⟨_, readHierarchy_of_unnamed free marked (name_of_slashes fewer), readPath_slashes fewer⟩

/-! ## What can go on -/

/-- What stands behind a scheme can go on: it does not end with a slash, or is only the two slashes
in front of a machine that is not named. -/
def EndsOpen
    (special : Bool)
    (rest : List Char) : Prop :=
  (∀ c ∈ rest.getLast?, isSlash special c = false) ∨
    rest.length = 2 ∧ ∀ c ∈ rest, isSlash special c = true

section Versioned

variable
  {scheme rest path below : List Char}
  {authority : Authority}
  (read : readHierarchy scheme rest = .ok (authority, path))
  (versioned : IsVersionedPath below)

include read versioned

/-- Behind two slashes without a machine, or more slashes, a path goes on behind the slashes that
follow the first two. -/
theorem below_slashes
    (only : ∀ c ∈ rest, isSlash (special? scheme).isSome c = true)
    (marked : 2 ≤ rest.length) :
    ∃ kept, readHierarchy scheme (rest ++ below) = .ok (authority, kept ++ below) ∧
      (Text.withoutEnd (· == '/') path = kept ↔
        EndsOpen (special? scheme).isSome rest ∧ ¬['/', '/'] <:+ path) := by
  have free := isFree_of_slashes read only
  have fewer : ∀ c ∈ rest.drop 2, isSlash (special? scheme).isSome c = true :=
    fun c member => only c (List.mem_of_mem_drop member)
  have marks : 2 ≤ (rest.takeWhile (isSlash (special? scheme).isSome)).length := by
    rwa [List.takeWhile_eq_self_iff.mpr only]
  have longerMarks : 2 ≤ ((rest ++ below).takeWhile (isSlash (special? scheme).isSome)).length := by
    rw [List.takeWhile_append_of_pos only, List.length_append]
    omega
  have twoOff : (rest ++ below).drop 2 = rest.drop 2 ++ below :=
    List.drop_append_of_le_length marked
  have unnamed : ((rest ++ below).drop 2).takeWhile (!isSlash (special? scheme).isSome ·) = [] := by
    rw [twoOff, takeWhile_append_plain versioned.toIsPlainPath, name_of_slashes fewer]
  rw [readHierarchy_of_unnamed free marks (name_of_slashes fewer)] at read
  cases read
  rw [readHierarchy_of_unnamed free longerMarks unnamed, twoOff,
    readPath_append _ _ versioned.toIsPlainPath]
  refine ⟨_, rfl, ?_⟩
  rw [withoutEnd_readPath_iff]
  refine and_congr_left' ⟨fun ends => .inr ⟨?_, only⟩, ?_⟩
  · by_contra more
    have some? : rest.drop 2 ≠ [] := fun empty => by
      rw [List.drop_eq_nil_iff] at empty
      omega
    have last := ends _ (List.getLast?_eq_some_getLast some?)
    exact Bool.noConfusion ((fewer _ (List.getLast_mem some?)).symm.trans last)
  · rintro (ends | ⟨two, -⟩)
    · have some? : rest ≠ [] := List.ne_nil_of_length_pos (by omega)
      have last := ends _ (List.getLast?_eq_some_getLast some?)
      exact Bool.noConfusion ((only _ (List.getLast_mem some?)).symm.trans last)
    · rw [List.drop_eq_nil_iff.mpr (by omega)]
      simp

/-- A path goes on behind anything else than a scheme and a slash as it does behind the path of the
address, exactly if the text in front ends with what can go on. -/
theorem exists_kept
    (long : (∃ c ∈ rest, isSlash (special? scheme).isSome c = false) ∨ 2 ≤ rest.length) :
    ∃ kept, readHierarchy scheme (rest ++ below) = .ok (authority, kept ++ below) ∧
      (Text.withoutEnd (· == '/') path = kept ↔
        EndsOpen (special? scheme).isSome rest ∧ ¬['/', '/'] <:+ path) := by
  by_cases visible : ∃ c ∈ rest, isSlash (special? scheme).isSome c = false
  · obtain ⟨kept, goes, whole⟩ := readHierarchy_append versioned.toIsPlainPath read visible
    refine ⟨kept, goes, whole.trans (and_congr_left' (or_iff_left ?_).symm)⟩
    rintro ⟨-, only⟩
    obtain ⟨c, member, other⟩ := visible
    exact Bool.noConfusion ((only c member).symm.trans other)
  · refine below_slashes read versioned (fun c member => ?_) (long.resolve_left visible)
    by_contra other
    exact visible ⟨c, member, Bool.eq_false_iff.mpr other⟩

/-- Behind a scheme alone a path is the path of the address, and behind a scheme with a slash a part
of it is taken for a machine. -/
theorem below_short
    (short : ¬((∃ c ∈ rest, isSlash (special? scheme).isSome c = false) ∨ 2 ≤ rest.length)) :
    rest = [] ∧ ¬['/', '/'] <:+ path ∧
        readHierarchy scheme (rest ++ below) =
          .ok (authority, Text.withoutEnd (· == '/') path ++ below) ∨
      ¬EndsOpen (special? scheme).isSome rest ∧
        ∀ parts, readHierarchy scheme (rest ++ below) = .ok parts →
          parts.1.host ≠ authority.host := by
  obtain ⟨unseen, few⟩ := not_or.mp short
  have only : ∀ c ∈ rest, isSlash (special? scheme).isSome c = true := by
    intro c member
    by_contra other
    exact unseen ⟨c, member, Bool.eq_false_iff.mpr other⟩
  have free := isFree_of_slashes read only
  rw [readHierarchy_of_few free only (by omega)] at read
  cases read
  by_cases empty : rest = []
  · subst empty
    left
    have none? : Text.withoutEnd (· == '/') (readPath (special? scheme).isSome []) = [] := by
      cases (special? scheme).isSome <;> rfl
    refine ⟨rfl, ?_, ?_⟩
    · cases (special? scheme).isSome with
      | false => exact show ¬['/', '/'] <:+ [] by decide
      | true => exact show ¬['/', '/'] <:+ ['/'] by decide
    · rw [none?]
      exact readHierarchy_plain free versioned
  · right
    have positive := List.length_pos_iff.mpr empty
    obtain ⟨c, rfl⟩ := List.length_eq_one_iff.mp (show rest.length = 1 by omega)
    have slash := only c List.mem_cons_self
    constructor
    · rintro (ends | ⟨two, -⟩)
      · exact Bool.noConfusion (slash.symm.trans (ends c rfl))
      · cases two
    · intro parts longer
      obtain ⟨host, path, found⟩ := readHierarchy_of_single free slash versioned
      cases found.symm.trans longer
      rintro ⟨⟩

/-- The part of an address behind its scheme goes on with a path as the address does, if it ends
with what can go on. -/
theorem readHierarchy_append_of_endsOpen
    (ends : EndsOpen (special? scheme).isSome rest)
    (settled : ¬['/', '/'] <:+ path) :
    readHierarchy scheme (rest ++ below) =
      .ok (authority, Text.withoutEnd (· == '/') path ++ below) := by
  by_cases long : (∃ c ∈ rest, isSlash (special? scheme).isSome c = false) ∨ 2 ≤ rest.length
  · obtain ⟨kept, goes, whole⟩ := exists_kept read versioned long
    rw [goes, whole.mpr ⟨ends, settled⟩]
  · rcases below_short read versioned long with ⟨-, -, goes⟩ | ⟨closed, -⟩
    · exact goes
    · exact absurd ends closed

/-- Where the part of an address behind its scheme goes on with a path as the address does, it ends
with what can go on. -/
theorem endsOpen_of_below
    {machine : Authority}
    (longer : readHierarchy scheme (rest ++ below) =
      .ok (machine, Text.withoutEnd (· == '/') path ++ below))
    (sameHost : machine.host = authority.host) :
    EndsOpen (special? scheme).isSome rest ∧ ¬['/', '/'] <:+ path := by
  by_cases long : (∃ c ∈ rest, isSlash (special? scheme).isSome c = false) ∨ 2 ≤ rest.length
  · obtain ⟨kept, goes, whole⟩ := exists_kept read versioned long
    rw [goes] at longer
    obtain ⟨-, same⟩ := Prod.mk.inj (Except.ok.inj longer)
    exact whole.mp (List.append_cancel_right same).symm
  · rcases below_short read versioned long with ⟨rfl, settled, -⟩ | ⟨-, others⟩
    · exact ⟨.inl (by simp), settled⟩
    · exact absurd sameHost (others _ longer)

end Versioned

/-- Slashes behind the part of an address behind its scheme add nothing but slashes to the path. -/
theorem exists_readHierarchy_slashes
    {scheme rest path slashes : List Char}
    {authority : Authority}
    (read : readHierarchy scheme rest = .ok (authority, path))
    (ends : EndsOpen (special? scheme).isSome rest)
    (settled : ¬['/', '/'] <:+ path)
    (nonempty : slashes ≠ [])
    (row : ∀ c ∈ slashes, c = '/') :
    ∃ longer, readHierarchy scheme (rest ++ slashes) = .ok (authority, longer) ∧
      Text.withoutEnd (· == '/') longer = Text.withoutEnd (· == '/') path := by
  have dropped : ∀ {cs : List Char}, (∀ c ∈ cs, c = '/') → ∀ c ∈ cs, (c == '/') = true :=
    fun all c member => beq_iff_eq.mpr (all c member)
  by_cases visible : ∃ c ∈ rest, isSlash (special? scheme).isSome c = false
  · obtain ⟨kept, goes, whole⟩ := readHierarchy_append
      (isPlainPath_of_slashes nonempty row) read visible
    have last := ends.resolve_right fun ⟨_, only⟩ => by
      obtain ⟨c, member, other⟩ := visible
      exact Bool.noConfusion ((only c member).symm.trans other)
    refine ⟨_, goes, ?_⟩
    rw [Text.withoutEnd_append_of_forall (dropped row), ← whole.mpr ⟨last, settled⟩,
      Text.withoutEnd_withoutEnd]
  · have only : ∀ c ∈ rest, isSlash (special? scheme).isSome c = true := by
      intro c member
      by_contra other
      exact visible ⟨c, member, Bool.eq_false_iff.mpr other⟩
    have free := isFree_of_slashes read only
    obtain ⟨before, found, front⟩ := readHierarchy_slashes free only
    obtain ⟨after, longer, back⟩ := readHierarchy_slashes free fun c member => by
      rcases List.mem_append.mp member with inside | inside
      · exact only c inside
      · rw [row c inside]
        rfl
    cases found.symm.trans read
    refine ⟨after, longer, ?_⟩
    rw [← List.nil_append after, ← List.nil_append path,
      Text.withoutEnd_append_of_forall (dropped front),
      Text.withoutEnd_append_of_forall (dropped back)]

/-! ## Whole addresses -/

/-- A scheme ends at its colon, whatever is written behind the text. -/
theorem readScheme?_append_of_some
    {cs scheme rest : List Char}
    (read : readScheme? cs = some (scheme, rest)) :
    ∀ more, readScheme? (cs ++ more) = some (scheme, rest ++ more) := by
  obtain ⟨back, shape⟩ := List.takeWhile_prefix isSchemeChar (l := cs)
  have behind := congrArg (List.drop (cs.takeWhile isSchemeChar).length) shape
  rw [List.drop_left] at behind
  have spelled : ∀ c ∈ cs.takeWhile isSchemeChar, isSchemeChar c = true :=
    fun c member => List.mem_takeWhile_imp member
  unfold readScheme? at read
  simp only [← behind] at read
  split at read
  · next first rest head =>
      split at read
      · next letter =>
          cases read
          intro more
          have whole : cs ++ more = cs.takeWhile isSchemeChar ++ ':' :: (rest ++ more) := by
            rw [← List.cons_append, ← List.append_assoc, shape]
          rw [whole, readScheme?_append ⟨first, head, letter⟩ spelled]
      · cases read
  · cases read

/-- How an address is read: the texts of its parts, and what they come to. -/
inductive Reading (cs : List Char) : Url → Prop
  | mk
      {before front scheme rest path : List Char}
      {query fragment : Option (List Char)}
      {authority : Authority}
      (fragment_cut : Text.cutAt '#' cs = (before, fragment))
      (query_cut : Text.cutAt '?' before = (front, query))
      (scheme_read : readScheme? front = some (scheme, rest))
      (hierarchy_read : readHierarchy scheme rest = .ok (authority, path)) :
      Reading cs {
        scheme := scheme
        user := authority.user
        host := authority.host
        service := authority.service
        path := path
        query := query.map (encode (inQuery (special? scheme).isSome))
        fragment := fragment.map (encode inFragment) }

theorem ofText_eq_ok_iff
    {text : String}
    {url : Url} :
    ofText text = .ok url ↔ Reading (cleaned text.toList) url := by
  constructor
  · intro read
    rcases cut : Text.cutAt '#' (cleaned text.toList) with ⟨before, fragment⟩
    rcases cutFront : Text.cutAt '?' before with ⟨front, query⟩
    unfold ofText at read
    simp only [cut, cutFront] at read
    split at read
    · cases read
    · next scheme rest named =>
        obtain ⟨⟨authority, path⟩, routed⟩ : ∃ parts, readHierarchy scheme rest = .ok parts := by
          cases found : readHierarchy scheme rest with
          | error fault => simp [found, bind, Except.bind] at read
          | ok parts => exact ⟨parts, rfl⟩
        simp only [routed, bind, Except.bind, pure, Except.pure] at read
        cases read
        exact ⟨cut, cutFront, named, routed⟩
  · rintro ⟨fragment, query, named, routed⟩
    unfold ofText
    simp only [fragment, query, named, routed]
    rfl

/-! ## Whole addresses that go on -/

/-- The address of a scheme, a machine and a path. -/
def ofParts
    (scheme : List Char)
    (parts : Authority × List Char) : Url where
  scheme := scheme
  user := parts.1.user
  host := parts.1.host
  service := parts.1.service
  path := parts.2
  query := none
  fragment := none

/-- Characters that are visible, and begin neither a query nor a fragment. -/
def IsUnmarked (cs : List Char) : Prop :=
  ∀ c ∈ cs, isControl c = false ∧ c ≠ '?' ∧ c ≠ '#'

theorem isUnmarked_of_spelled
    {cs : List Char}
    (spelled : ∀ c ∈ cs, isStepChar c = true) :
    IsUnmarked cs := by
  intro c member
  obtain ⟨visible, -, -, marks, -⟩ := isStepChar_spec (spelled c member)
  simp only [List.mem_cons, List.not_mem_nil, or_false, not_or] at marks
  exact ⟨decide_eq_false (by omega), marks.2.1, marks.2.2.1⟩

theorem cleaned_ne_nil_of_reading
    {cs : List Char}
    {url : Url}
    (reading : Reading cs url) :
    cs ≠ [] := by
  rintro rfl
  obtain ⟨fragment, query, named, -⟩ := reading
  cases fragment
  cases query
  cases named

/-- Behind the text of an address, only what stands there together with the blanks and controls in
front of it is read. -/
theorem cleaned_append_of_ofText
    {text below : String}
    {url : Url}
    (read : ofText text = .ok url)
    (nonempty : below ≠ "")
    (unmarked : IsUnmarked below.toList) :
    cleaned (text ++ below).toList =
      cleaned text.toList ++ (keptEnd text.toList ++ below.toList) := by
  rw [String.toList_append]
  exact cleaned_append (cleaned_ne_nil_of_reading (ofText_eq_ok_iff.mp read))
    (fun c member => (unmarked c member).1) (by simpa using nonempty)

theorem notMem_keptEnd_append
    {mark : Char}
    (visible : isControl mark = false)
    {below : List Char}
    (absent : mark ∉ below)
    (cs : List Char) :
    mark ∉ keptEnd cs ++ below := by
  intro member
  rcases List.mem_append.mp member with control | behind
  · exact Bool.noConfusion ((isControl_of_mem_keptEnd control).symm.trans visible)
  · exact absent behind

/-- An address without a query and a fragment is what stands behind its scheme, and so is what it
goes on as. -/
theorem exists_rest
    {text : String}
    {url : Url}
    (read : ofText text = .ok url)
    (noQuery : url.query = none)
    (noFragment : url.fragment = none) :
    ∃ scheme rest authority path, url = ofParts scheme (authority, path) ∧
      readScheme? (cleaned text.toList) = some (scheme, rest) ∧
      readHierarchy scheme rest = .ok (authority, path) ∧
      ∀ below : String, below ≠ "" → IsUnmarked below.toList →
        ofText (text ++ below) =
          (readHierarchy scheme (rest ++ (keptEnd text.toList ++ below.toList))).map
            (ofParts scheme) := by
  have longer : ∀ below : String, below ≠ "" → IsUnmarked below.toList →
      cleaned (text ++ below).toList =
        cleaned text.toList ++ (keptEnd text.toList ++ below.toList) :=
    fun _ => cleaned_append_of_ofText read
  have reading := ofText_eq_ok_iff.mp read
  generalize cleaned text.toList = cs at reading longer
  obtain @⟨before, front, scheme, rest, path, query, fragment, authority, fragmentCut, queryCut,
    named, routed⟩ := reading
  obtain rfl := Option.map_eq_none_iff.mp noFragment
  obtain rfl := Option.map_eq_none_iff.mp noQuery
  obtain ⟨noNumberSign, rfl⟩ := Text.notMem_of_cutAt fragmentCut
  obtain ⟨noMark, rfl⟩ := Text.notMem_of_cutAt queryCut
  refine ⟨scheme, rest, authority, path, rfl, named, routed, fun below nonempty unmarked => ?_⟩
  have uncut : ∀ mark, isControl mark = false → mark ∉ front → mark ∉ below.toList →
      Text.cutAt mark (front ++ (keptEnd text.toList ++ below.toList)) =
        (front ++ (keptEnd text.toList ++ below.toList), none) := by
    intro mark visible before behind
    refine Text.cutAt_of_notMem fun member => ?_
    rcases List.mem_append.mp member with inside | inside
    · exact before inside
    · exact notMem_keptEnd_append visible behind _ inside
  unfold ofText
  simp only [longer below nonempty unmarked,
    uncut '#' rfl noNumberSign fun member => (unmarked _ member).2.2 rfl,
    uncut '?' rfl noMark fun member => (unmarked _ member).2.1 rfl,
    readScheme?_append_of_some named]
  cases readHierarchy scheme (rest ++ (keptEnd text.toList ++ below.toList)) <;> rfl

/-- Behind a query or a fragment there is no path, so that what stands there is lost. -/
theorem exists_ofText_append_of_marked
    {text below : String}
    {url : Url}
    (read : ofText text = .ok url)
    (marked : ¬(url.query = none ∧ url.fragment = none))
    (nonempty : below ≠ "")
    (unmarked : IsUnmarked below.toList) :
    ∃ query fragment,
      ofText (text ++ below) = .ok { url with query := query, fragment := fragment } := by
  have longer := cleaned_append_of_ofText read nonempty unmarked
  have noNumberSign : '#' ∉ keptEnd text.toList ++ below.toList :=
    notMem_keptEnd_append rfl (fun member => (unmarked _ member).2.2 rfl) _
  have reading := ofText_eq_ok_iff.mp read
  simp only [ofText_eq_ok_iff, longer]
  generalize cleaned text.toList = cs at reading
  generalize keptEnd text.toList ++ below.toList = more at noNumberSign
  obtain @⟨before, front, scheme, rest, path, query, fragment, authority, fragmentCut, queryCut,
    named, routed⟩ := reading
  cases fragment with
  | some fragment =>
      exact ⟨_, _, .mk (Text.cutAt_append_of_some fragmentCut more) queryCut named routed⟩
  | none =>
      obtain ⟨noCut, rfl⟩ := Text.notMem_of_cutAt fragmentCut
      cases query with
      | some query =>
          exact ⟨_, _, .mk (Text.cutAt_of_notMem (by simp [noCut, noNumberSign]))
            (Text.cutAt_append_of_some queryCut more) named routed⟩
      | none => exact absurd ⟨rfl, rfl⟩ marked

/-- A text that is read as an address, and behind which a path goes on as it does behind the
address. -/
structure IsOpen
    (text : String)
    (url : Url) : Prop where
  /-- The address has no query. -/
  query_none : url.query = none
  /-- The address has no fragment. -/
  fragment_none : url.fragment = none
  /-- No blank or control at the end of the text would be kept. -/
  keptEnd_nil : keptEnd text.toList = []
  /-- What stands behind the scheme can go on. -/
  ends : ∀ rest, readScheme? (cleaned text.toList) = some (url.scheme, rest) →
    EndsOpen (special? url.scheme).isSome rest
  /-- No empty step is left in front of a last point in the path. -/
  settled : ¬['/', '/'] <:+ url.path

section Open

variable
  {text : String}
  {url : Url}
  (read : ofText text = .ok url)

include read

/-- A path behind an open address goes on behind its path, less the slash that this may end with. -/
theorem IsOpen.ofText_append
    (isOpen : IsOpen text url)
    {below : String}
    (versioned : IsVersionedPath below.toList) :
    ofText (text ++ below) =
      .ok { url with path := Text.withoutEnd (· == '/') url.path ++ below.toList } := by
  obtain ⟨scheme, rest, authority, path, rfl, named, routed, longer⟩ :=
    exists_rest read isOpen.query_none isOpen.fragment_none
  have plain := versioned.toIsPlainPath
  have nonempty : below ≠ "" := by
    rintro rfl
    cases plain.slashed
  have goes := readHierarchy_append_of_endsOpen routed versioned (isOpen.ends rest named)
    isOpen.settled
  rw [longer below nonempty (isUnmarked_of_spelled plain.spelled), isOpen.keptEnd_nil,
    List.nil_append, goes]
  rfl

/-- Slashes behind an open address add nothing but slashes to its path. -/
theorem IsOpen.exists_ofText_slashes
    (isOpen : IsOpen text url)
    {slashes : String}
    (row : ∀ c ∈ slashes.toList, c = '/') :
    ∃ path, ofText (text ++ slashes) = .ok { url with path := path } ∧
      Text.withoutEnd (· == '/') path = Text.withoutEnd (· == '/') url.path := by
  by_cases nothing : slashes = ""
  · subst nothing
    exact ⟨url.path, by rw [String.append_empty]; exact read, rfl⟩
  obtain ⟨scheme, rest, authority, path, rfl, named, routed, longer⟩ :=
    exists_rest read isOpen.query_none isOpen.fragment_none
  have some? : slashes.toList ≠ [] := by simpa using nothing
  obtain ⟨further, goes, same⟩ :=
    exists_readHierarchy_slashes routed (isOpen.ends rest named) isOpen.settled some? row
  refine ⟨further, ?_, same⟩
  rw [longer slashes nothing (isUnmarked_of_spelled (isPlainPath_of_slashes some? row).spelled),
    isOpen.keptEnd_nil, List.nil_append, goes]
  rfl

/-- Where a path goes on behind an address as it does behind its path, the address is open. -/
theorem isOpen_of_below
    {below : String}
    (versioned : IsVersionedPath below.toList)
    {longer : Url}
    (found : ofText (text ++ below) = .ok longer)
    (sameHost : longer.host = url.host)
    (samePath : longer.path = Text.withoutEnd (· == '/') url.path ++ below.toList) :
    IsOpen text url := by
  have plain := versioned.toIsPlainPath
  have unmarked := isUnmarked_of_spelled plain.spelled
  have nonempty : below ≠ "" := by
    rintro rfl
    cases plain.slashed
  have bare : url.query = none ∧ url.fragment = none := by
    by_contra marked
    obtain ⟨query, fragment, stays⟩ :=
      exists_ofText_append_of_marked read marked nonempty unmarked
    cases stays.symm.trans found
    -- The path of the address would end with a path that is not made of slashes alone.
    have row := List.append_cancel_left
      ((Text.withoutEnd_append_takeWhile (· == '/') url.path).trans samePath)
    obtain ⟨digit, -, rest, shape⟩ := versioned.versioned
    have letter : 'v' ∈ (url.path.reverse.takeWhile (· == '/')).reverse := by simp [row, shape]
    exact absurd (List.mem_takeWhile_imp (List.mem_reverse.mp letter)) (by decide)
  obtain ⟨scheme, rest, authority, path, rfl, named, routed, goesOn⟩ :=
    exists_rest read bare.1 bare.2
  rw [goesOn below nonempty unmarked] at found
  obtain ⟨⟨machine, other⟩, goes, rfl⟩ : ∃ parts,
      readHierarchy scheme (rest ++ (keptEnd text.toList ++ below.toList)) = .ok parts ∧
        ofParts scheme parts = longer := by
    cases goes : readHierarchy scheme (rest ++ (keptEnd text.toList ++ below.toList)) with
    | error fault => simp [goes, Except.map] at found
    | ok parts => exact ⟨parts, rfl, by simpa [goes, Except.map] using found⟩
  have ended : keptEnd text.toList = [] := by
    by_contra blanks
    rcases not_below_of_blanks (fun c => isControl_of_mem_keptEnd) blanks plain routed goes with
      host | further
    · exact host sameHost
    · exact further samePath
  rw [ended, List.nil_append] at goes
  obtain rfl : other = Text.withoutEnd (· == '/') path ++ below.toList := samePath
  obtain ⟨ends, settled⟩ := endsOpen_of_below routed versioned goes sameHost
  refine ⟨rfl, rfl, ended, fun other again => ?_, settled⟩
  cases named.symm.trans again
  exact ends

end Open

end Url
end ThreatIntel
