import Mathlib.Data.List.TakeWhile
import ThreatIntel.Json.Printer
import ThreatIntel.Json.Reader

/-!
# Reading what was written over several lines

Each character of a written text stands there as one piece that stands for it, and blanks between
the parts of a value are passed over. Main statement: a value without numbers is read back from the
text that is written of it over several lines, if it does not lie too deep.
-/

namespace ThreatIntel

namespace Json

mutual

/-- A value without numbers, in which lists and objects lie within each other up to so many levels.
-/
def Plain : Nat → Json → Prop
  | _, .null | _, .boolean _ | _, .text _ => True
  | _, .number _ => False
  | 0, .array _ | 0, .object _ => False
  | levels + 1, .array items => PlainItems levels items
  | levels + 1, .object members => PlainMembers levels members

/-- Every item of the list is plain. -/
def PlainItems (levels : Nat) : List Json → Prop
  | [] => True
  | item :: items => Plain levels item ∧ PlainItems levels items

/-- Every value among the members is plain. -/
def PlainMembers (levels : Nat) : List (String × Json) → Prop
  | [] => True
  | (_, value) :: members => Plain levels value ∧ PlainMembers levels members

end

/-- A plain value begins with neither a blank nor a closing bracket. -/
theorem Plain.exists_cons
    {levels : Nat}
    {json : Json}
    (plain : Plain levels json)
    (level : Nat) :
    ∃ c cs, prettyChars level json = c :: cs ∧ Document.isSpace c = false ∧ c ≠ ']' := by
  cases json with
  | null => exact ⟨_, _, rfl, by decide, by decide⟩
  | boolean value => cases value <;> exact ⟨_, _, rfl, by decide, by decide⟩
  | number value => cases levels <;> exact plain.elim
  | text value => exact ⟨_, _, rfl, by decide, by decide⟩
  | array items =>
      unfold prettyChars block
      split <;> exact ⟨_, _, rfl, by decide, by decide⟩
  | object members =>
      unfold prettyChars block
      split <;> exact ⟨_, _, rfl, by decide, by decide⟩

end Json

namespace Document

open Json

/-! ## Texts -/

/-- The ways in which a character stands inside a text. -/
inductive Escapes : Char → List Char → Prop
  /-- By a letter behind a backslash. -/
  | letter
      {c letter : Char}
      (named : escaped? letter = some c)
      (other : letter ≠ 'u') :
      Escapes c ['\\', letter]
  /-- By its number, if it is a mark. -/
  | number
      {c : Char}
      (mark : c.toNat < 0x20) :
      Escapes c ['\\', 'u', '0', '0', Text.hexDigit (c.toNat / 16), Text.hexDigit (c.toNat % 16)]
  /-- By itself. -/
  | plain
      {c : Char}
      (notQuote : c ≠ '"')
      (notBackslash : c ≠ '\\')
      (visible : ¬c.toNat < 0x20) :
      Escapes c [c]

theorem escapes_escapeChar (c : Char) : Escapes c (escapeChar c) := by
  unfold escapeChar
  split
  · next quote => exact .letter (by rw [quote]; rfl) (by decide)
  split
  · next backslash => exact .letter (by rw [backslash]; rfl) (by decide)
  split
  · next backspace =>
      have mark : c = Char.ofNat 8 := Char.toNat_inj.mp backspace
      exact .letter (by rw [mark]; rfl) (by decide)
  split
  · next formFeed =>
      have mark : c = Char.ofNat 12 := Char.toNat_inj.mp formFeed
      exact .letter (by rw [mark]; rfl) (by decide)
  split
  · next newline => exact .letter (by rw [newline]; rfl) (by decide)
  split
  · next back => exact .letter (by rw [back]; rfl) (by decide)
  split
  · next tab => exact .letter (by rw [tab]; rfl) (by decide)
  split
  · next mark => exact .number mark
  · next notQuote notBackslash _ _ _ _ _ visible => exact .plain notQuote notBackslash visible

/-- The pieces that stand for a character. -/
inductive Piece.StandsFor : Piece → Char → Prop
  /-- The character itself. -/
  | char (c : Char) : Piece.StandsFor (.char c) c
  /-- The number of a mark. -/
  | unit
      {c : Char}
      (mark : c.toNat < 0x20) :
      Piece.StandsFor (.unit c.toNat) c

/-- A character that stands inside a text is read as a piece that stands for it. -/
theorem Escapes.exists_piece
    {c : Char}
    {written : List Char}
    (escapes : Escapes c written) :
    ∃ piece : Piece, piece.StandsFor c ∧
      ∀ {pieces : List Piece} {text rest : List Char}, readPieces text = some (pieces, rest) →
        readPieces (written ++ text) = some (piece :: pieces, rest) := by
  cases escapes with
  | letter named other =>
      refine ⟨.char c, .char c, fun reads => ?_⟩
      rw [List.cons_append, List.singleton_append, readPieces.eq_4]
      · simp [named, reads]
      · intro _ _ _ _ _ unit
        exact absurd unit other
  | number mark =>
      refine ⟨.unit c.toNat, .unit mark, fun reads => ?_⟩
      have high : c.toNat / 16 < 16 := by omega
      have low : c.toNat % 16 < 16 := Nat.mod_lt _ (by decide)
      have value : ((0 * 16 + 0) * 16 + c.toNat / 16) * 16 + c.toNat % 16 = c.toNat := by omega
      have zero : Text.hexValue? '0' = some 0 := by decide
      simp only [List.cons_append, List.nil_append, readPieces, zero, Text.hexValue?_hexDigit high,
        Text.hexValue?_hexDigit low, reads, Option.bind_eq_bind, Option.bind_some, value]
      rfl
  | plain notQuote notBackslash visible =>
      refine ⟨.char c, .char c, fun reads => ?_⟩
      rw [List.singleton_append, readPieces.eq_5]
      · simp [visible, reads]
      · exact notQuote
      · intro _ _ _ _ _ backslash
        exact absurd backslash notBackslash
      · intro _ _ backslash
        exact absurd backslash notBackslash

/-- A piece that stands for a character is joined to the others as this character. -/
theorem Piece.StandsFor.joinPieces_cons
    {piece : Piece}
    {c : Char}
    (stands : piece.StandsFor c)
    (pieces : List Piece) :
    joinPieces (piece :: pieces) = (joinPieces pieces).map (c :: ·) := by
  cases stands with
  | char => rfl
  | unit mark =>
      -- The number of a mark is no half of a pair, whatever piece follows.
      have notHigh : ¬(0xD800 ≤ c.toNat ∧ c.toNat < 0xDC00) := by omega
      have notLow : ¬(0xDC00 ≤ c.toNat ∧ c.toNat < 0xE000) := by omega
      have notHalf : ¬(0xD800 ≤ c.toNat ∧ c.toNat < 0xE000) := by omega
      cases pieces with
      | nil =>
          rw [joinPieces.eq_4, if_neg notHalf, Char.ofNat_toNat]
          nofun
      | cons next pieces =>
          cases next with
          | char d =>
              rw [joinPieces.eq_4, if_neg notHalf, Char.ofNat_toNat]
              nofun
          | unit low => rw [joinPieces, if_neg notHigh, if_neg notLow, Char.ofNat_toNat]

/-- The characters of a text are read back up to its closing quote. -/
theorem exists_pieces (cs rest : List Char) :
    ∃ pieces, readPieces (cs.flatMap escapeChar ++ '"' :: rest) = some (pieces, rest) ∧
      joinPieces pieces = some cs := by
  induction cs with
  | nil => exact ⟨[], rfl, rfl⟩
  | cons c cs inductionHypothesis =>
      obtain ⟨pieces, reads, joins⟩ := inductionHypothesis
      obtain ⟨piece, stands, readsFirst⟩ := (escapes_escapeChar c).exists_piece
      refine ⟨piece :: pieces, ?_, ?_⟩
      · rw [List.flatMap_cons, List.append_assoc]
        exact readsFirst reads
      · rw [stands.joinPieces_cons, joins, Option.map_some]

/-- A text is read back behind its opening quote. -/
theorem readText_flatMap_escapeChar
    (value : String)
    (rest : List Char) :
    readText (value.toList.flatMap escapeChar ++ '"' :: rest) = some (some value, rest) := by
  obtain ⟨pieces, reads, joins⟩ := exists_pieces value.toList rest
  simp [readText, reads, joins]

/-- A written text and what follows it: a quote, the characters as they stand there, another quote,
and then the rest. -/
theorem quoted_append
    (value : String)
    (rest : List Char) :
    quoted value ++ rest = '"' :: (value.toList.flatMap escapeChar ++ '"' :: rest) := by
  simp [quoted]

/-! ## Parts of a value -/

/-- Nothing but blanks. -/
def IsBlank (space : List Char) : Prop :=
  ∀ c ∈ space, isSpace c = true

theorem isBlank_newline (level : Nat) : IsBlank (newline level) := by
  intro c member
  rcases List.mem_cons.mp member with rfl | inside
  · rfl
  · rw [(List.mem_replicate.mp inside).2]
    rfl

theorem isBlank_space : IsBlank [' '] := by
  intro c member
  rw [List.mem_singleton.mp member]
  rfl

/-- Blanks at the front are passed over. -/
theorem skipSpace_append
    {space : List Char}
    (blank : IsBlank space)
    (cs : List Char) :
    skipSpace (space ++ cs) = skipSpace cs :=
  List.dropWhile_append_of_pos blank

theorem skipSpace_cons
    {c : Char}
    (visible : isSpace c = false)
    (cs : List Char) :
    skipSpace (c :: cs) = c :: cs := by
  simp [skipSpace, visible]

theorem readValue_append
    {space : List Char}
    (blank : IsBlank space)
    (fuel depth : Nat)
    (cs : List Char) :
    readValue fuel depth (space ++ cs) = readValue fuel depth cs := by
  cases fuel with
  | zero => rfl
  | succ fuel => simp only [readValue, skipSpace_append blank]

theorem readItems_append
    {space : List Char}
    (blank : IsBlank space)
    (fuel depth : Nat)
    (cs : List Char) :
    readItems fuel depth (space ++ cs) = readItems fuel depth cs := by
  cases fuel with
  | zero => rfl
  | succ fuel => simp only [readItems, readValue_append blank]

theorem readMembers_append
    {space : List Char}
    (blank : IsBlank space)
    (fuel depth : Nat)
    (cs : List Char) :
    readMembers fuel depth (space ++ cs) = readMembers fuel depth cs := by
  cases fuel with
  | zero => rfl
  | succ fuel => simp only [readMembers, skipSpace_append blank]

section Parts

variable
  {fuel depth : Nat}
  {space cs behind rest : List Char}

/-- The last item of a list stands before the closing bracket. -/
theorem readItems_last
    {item : Document}
    (blank : IsBlank space)
    (reads : readValue fuel depth cs = some (item, space ++ ']' :: rest)) :
    readItems (fuel + 1) depth cs = some ([item], rest) := by
  simp (disch := decide) only [readItems, reads, skipSpace_append blank, skipSpace_cons,
    Option.bind_eq_bind, Option.bind_some, Option.pure_def]

/-- Any other item stands before a comma. -/
theorem readItems_cons
    {item : Document}
    {items : List Document}
    (reads : readValue fuel depth cs = some (item, ',' :: behind))
    (readsOthers : readItems fuel depth behind = some (items, rest)) :
    readItems (fuel + 1) depth cs = some (item :: items, rest) := by
  simp (disch := decide) only [readItems, reads, readsOthers, skipSpace_cons, Option.bind_eq_bind,
    Option.bind_some, Option.pure_def]

/-- The last member of an object stands before the closing brace. -/
theorem readMembers_last
    {key : String}
    {value : Document}
    (blank : IsBlank space)
    (reads : readValue fuel depth cs = some (value, space ++ Char.ofNat 0x7D :: rest)) :
    readMembers (fuel + 1) depth (quoted key ++ ':' :: cs) = some ([(some key, value)], rest) := by
  simp (disch := decide) only [quoted_append, readMembers, readText_flatMap_escapeChar, reads,
    skipSpace_append blank, skipSpace_cons, Option.bind_eq_bind, Option.bind_some, Option.pure_def]
  rfl

/-- Any other member stands before a comma. -/
theorem readMembers_cons
    {key : String}
    {value : Document}
    {members : List (Option String × Document)}
    (reads : readValue fuel depth cs = some (value, ',' :: behind))
    (readsOthers : readMembers fuel depth behind = some (members, rest)) :
    readMembers (fuel + 1) depth (quoted key ++ ':' :: cs) =
      some ((some key, value) :: members, rest) := by
  simp (disch := decide) only [quoted_append, readMembers, readText_flatMap_escapeChar, reads,
    readsOthers, skipSpace_cons, Option.bind_eq_bind, Option.bind_some, Option.pure_def]

/-- A text is read at its quote. -/
theorem readValue_quoted (value : String) :
    readValue (fuel + 1) depth (quoted value ++ rest) = some (text value, rest) := by
  simp (disch := decide) only [quoted_append, readValue, readText_flatMap_escapeChar,
    skipSpace_cons, if_true, Option.bind_eq_bind, Option.bind_some, Option.pure_def]

/-- A word is read whole. -/
theorem dropWord_append (word rest : List Char) : dropWord word (word ++ rest) = some rest := by
  have front : word.isPrefixOf (word ++ rest) = true :=
    List.isPrefixOf_iff_prefix.mpr (List.prefix_append word rest)
  rw [dropWord, if_pos front, List.drop_left]

theorem readValue_null :
    readValue (fuel + 1) depth ("null".toList ++ rest) = some (null, rest) := by
  have word : "null".toList ++ rest = 'n' :: ("ull".toList ++ rest) := rfl
  simp (disch := decide) only [word, readValue, skipSpace_cons, if_neg, if_true, dropWord_append,
    Option.map_some]

theorem readValue_boolean (value : Bool) :
    readValue (fuel + 1) depth (booleanChars value ++ rest) = some (boolean value, rest) := by
  cases value with
  | true =>
      have word : booleanChars true ++ rest = 't' :: ("rue".toList ++ rest) := rfl
      simp (disch := decide) only [word, readValue, skipSpace_cons, if_neg, if_true,
        dropWord_append, Option.map_some]
  | false =>
      have word : booleanChars false ++ rest = 'f' :: ("alse".toList ++ rest) := rfl
      simp (disch := decide) only [word, readValue, skipSpace_cons, if_neg, if_true,
        dropWord_append, Option.map_some]

/-- A list without items is its two brackets. -/
theorem readValue_empty_array (shallow : depth < maxDepth) :
    readValue (fuel + 1) depth ('[' :: ']' :: rest) = some (array [], rest) := by
  simp (disch := decide) only [readValue, skipSpace_cons, if_neg, if_true, shallow]

/-- Any other list begins with its bracket, behind which the first item stands. -/
theorem readValue_array
    {c : Char}
    {items : List Document}
    (shallow : depth < maxDepth)
    (blank : IsBlank space)
    (visible : isSpace c = false)
    (other : c ≠ ']')
    (reads : readItems fuel (depth + 1) (c :: cs) = some (items, rest)) :
    readValue (fuel + 1) depth ('[' :: (space ++ c :: cs)) = some (array items, rest) := by
  simp (disch := decide) only [readValue, skipSpace_append blank, skipSpace_cons visible,
    skipSpace_cons, if_neg, if_true, shallow]
  split
  · next behind same => exact absurd (List.cons.inj same).1 other
  · simp [reads]

/-- An object without members is its two braces. -/
theorem readValue_empty_object (shallow : depth < maxDepth) :
    readValue (fuel + 1) depth (Char.ofNat 0x7B :: Char.ofNat 0x7D :: rest) =
      some (object [], rest) := by
  simp (disch := decide) only [readValue, skipSpace_cons, if_neg, if_pos, shallow]

/-- Any other object begins with its brace, behind which the first key stands. -/
theorem readValue_object
    {key : String}
    {members : List (Option String × Document)}
    (shallow : depth < maxDepth)
    (blank : IsBlank space)
    (reads : readMembers fuel (depth + 1) (quoted key ++ cs) = some (members, rest)) :
    readValue (fuel + 1) depth (Char.ofNat 0x7B :: (space ++ (quoted key ++ cs))) =
      some (object members, rest) := by
  rw [quoted_append] at reads ⊢
  simp (disch := decide) only [readValue, skipSpace_append blank, skipSpace_cons, if_neg, if_pos,
    shallow, readMembers_append blank, reads, Option.bind_eq_bind, Option.bind_some,
    Option.pure_def]

end Parts

/-! ## Whole values -/

/-- The items of a list as they stand between its brackets. -/
def itemLines (level : Nat) (items : List Json) : List Char :=
  List.intercalate (',' :: newline level) (prettyItems level items)

/-- The members of an object as they stand between its braces. -/
def memberLines (level : Nat) (members : List (String × Json)) : List Char :=
  List.intercalate (',' :: newline level) (prettyMembers level members)

theorem itemLines_singleton (level : Nat) (item : Json) :
    itemLines level [item] = item.prettyChars level := by
  simp [itemLines]

theorem itemLines_cons_cons (level : Nat) (item second : Json) (items : List Json) :
    itemLines level (item :: second :: items) =
      item.prettyChars level ++ ',' :: (newline level ++ itemLines level (second :: items)) := by
  simp [itemLines]

theorem memberLines_singleton (level : Nat) (key : String) (value : Json) :
    memberLines level [(key, value)] = quoted key ++ ':' :: ' ' :: value.prettyChars level := by
  simp [memberLines, prettyMembers]

theorem memberLines_cons_cons
    (level : Nat)
    (key : String)
    (value : Json)
    (second : String × Json)
    (members : List (String × Json)) :
    memberLines level ((key, value) :: second :: members) =
      quoted key ++ ':' :: ' ' :: (value.prettyChars level ++
        ',' :: (newline level ++ memberLines level (second :: members))) := by
  simp [memberLines, prettyMembers]

theorem exists_cons_itemLines
    {levels : Nat}
    {item : Json}
    (plain : item.Plain levels)
    (level : Nat)
    (items : List Json) :
    ∃ c cs, itemLines level (item :: items) = c :: cs ∧ isSpace c = false ∧ c ≠ ']' := by
  obtain ⟨c, cs, begins, visible, other⟩ := plain.exists_cons level
  cases items with
  | nil => exact ⟨c, cs, by rw [itemLines_singleton, begins], visible, other⟩
  | cons second items =>
      exact ⟨c, _, by rw [itemLines_cons_cons, begins, List.cons_append], visible, other⟩

theorem exists_memberLines
    (level : Nat)
    (key : String)
    (value : Json)
    (members : List (String × Json)) :
    ∃ cs, memberLines level ((key, value) :: members) = quoted key ++ cs := by
  cases members with
  | nil => exact ⟨_, memberLines_singleton ..⟩
  | cons second members => exact ⟨_, memberLines_cons_cons ..⟩

mutual

/-- A plain value is read back from its lines, and what follows is left over. -/
theorem readValue_prettyChars :
    ∀ {json : Json} {levels level depth fuel : Nat} {rest : List Char},
      json.Plain levels → depth + levels ≤ maxDepth → (json.prettyChars level).length ≤ fuel →
        readValue fuel depth (json.prettyChars level ++ rest) = some (ofJson json, rest)
  | .null, _, _, _, _ + 1, _, _, _, _ => readValue_null
  | .boolean true, _, _, _, _ + 1, _, _, _, _ => readValue_boolean true
  | .boolean false, _, _, _, _ + 1, _, _, _, _ => readValue_boolean false
  | .number _, 0, _, _, _, _, plain, _, _ | .number _, _ + 1, _, _, _, _, plain, _, _ => plain.elim
  | .text value, _, _, _, _ + 1, _, _, _, _ => readValue_quoted value
  | .array [], _ + 1, _, _, _ + 1, _, _, shallow, _ => readValue_empty_array (by omega)
  | .array (item :: items), levels + 1, level, depth, fuel + 1, rest, plain, shallow, enough => by
      have lines : (Json.array (item :: items)).prettyChars level =
          '[' :: (newline (level + 1) ++
            (itemLines (level + 1) (item :: items) ++ (newline level ++ [']']))) := rfl
      rw [lines] at enough ⊢
      simp only [List.length_cons, List.length_append] at enough
      obtain ⟨c, cs, begins, visible, other⟩ := exists_cons_itemLines plain.1 (level + 1) items
      have reads : readItems fuel (depth + 1)
          (itemLines (level + 1) (item :: items) ++ (newline level ++ ']' :: rest)) =
            some (ofItems (item :: items), rest) :=
        readItems_itemLines plain (by omega) (by omega)
      rw [begins] at reads ⊢
      simp only [List.cons_append, List.append_assoc, List.nil_append] at reads ⊢
      exact readValue_array (by omega) (isBlank_newline _) visible other reads
  | .object [], _ + 1, _, _, _ + 1, _, _, shallow, _ => readValue_empty_object (by omega)
  | .object ((key, value) :: members), levels + 1, level, depth, fuel + 1, rest, plain, shallow,
      enough => by
      have lines : (Json.object ((key, value) :: members)).prettyChars level =
          Char.ofNat 0x7B :: (newline (level + 1) ++
            (memberLines (level + 1) ((key, value) :: members) ++
              (newline level ++ [Char.ofNat 0x7D]))) := rfl
      rw [lines] at enough ⊢
      simp only [List.length_cons, List.length_append] at enough
      obtain ⟨cs, begins⟩ := exists_memberLines (level + 1) key value members
      have reads : readMembers fuel (depth + 1)
          (memberLines (level + 1) ((key, value) :: members) ++
            (newline level ++ Char.ofNat 0x7D :: rest)) =
              some (ofMembers ((key, value) :: members), rest) :=
        readMembers_memberLines plain (by omega) (by omega)
      rw [begins] at reads ⊢
      simp only [List.cons_append, List.append_assoc, List.nil_append] at reads ⊢
      exact readValue_object (by omega) (isBlank_newline _) reads
termination_by structural _ _ _ _ fuel => fuel

/-- The items of a list are read back from their lines, up to the closing bracket. -/
theorem readItems_itemLines :
    ∀ {item : Json} {items : List Json} {levels level outer depth fuel : Nat} {rest : List Char},
      PlainItems levels (item :: items) → depth + levels ≤ maxDepth →
      (itemLines level (item :: items)).length < fuel →
        readItems fuel depth (itemLines level (item :: items) ++ (newline outer ++ ']' :: rest)) =
          some (ofItems (item :: items), rest)
  | item, [], levels, level, outer, depth, fuel + 1, rest, plain, shallow, enough => by
      rw [itemLines_singleton] at enough ⊢
      exact readItems_last (isBlank_newline outer)
        (readValue_prettyChars plain.1 shallow (Nat.le_of_lt_succ enough))
  | item, second :: items, levels, level, outer, depth, fuel + 1, rest, plain, shallow, enough => by
      rw [itemLines_cons_cons] at enough ⊢
      simp only [List.length_append, List.length_cons] at enough
      have readsOthers : readItems fuel depth
          (itemLines level (second :: items) ++ (newline outer ++ ']' :: rest)) =
            some (ofItems (second :: items), rest) :=
        readItems_itemLines plain.2 shallow (by omega)
      rw [← readItems_append (isBlank_newline level)] at readsOthers
      rw [List.append_assoc, List.cons_append, List.append_assoc]
      exact readItems_cons (readValue_prettyChars plain.1 shallow (by omega)) readsOthers
termination_by structural _ _ _ _ _ _ fuel => fuel

/-- The members of an object are read back from their lines, up to the closing brace. -/
theorem readMembers_memberLines :
    ∀ {key : String} {value : Json} {members : List (String × Json)}
      {levels level outer depth fuel : Nat} {rest : List Char},
      PlainMembers levels ((key, value) :: members) → depth + levels ≤ maxDepth →
      (memberLines level ((key, value) :: members)).length < fuel →
        readMembers fuel depth (memberLines level ((key, value) :: members) ++
          (newline outer ++ Char.ofNat 0x7D :: rest)) =
            some (ofMembers ((key, value) :: members), rest)
  | key, value, [], levels, level, outer, depth, fuel + 1, rest, plain, shallow, enough => by
      rw [memberLines_singleton] at enough ⊢
      simp only [List.length_append, List.length_cons] at enough
      have reads : readValue fuel depth
          ([' '] ++ (value.prettyChars level ++ (newline outer ++ Char.ofNat 0x7D :: rest))) =
            some (ofJson value, newline outer ++ Char.ofNat 0x7D :: rest) := by
        rw [readValue_append isBlank_space]
        exact readValue_prettyChars plain.1 shallow (by omega)
      rw [List.append_assoc, List.cons_append]
      exact readMembers_last (isBlank_newline outer) reads
  | key, value, (otherKey, other) :: members, levels, level, outer, depth, fuel + 1, rest, plain,
      shallow, enough => by
      rw [memberLines_cons_cons] at enough ⊢
      simp only [List.length_append, List.length_cons] at enough
      have readsOthers : readMembers fuel depth (memberLines level ((otherKey, other) :: members) ++
          (newline outer ++ Char.ofNat 0x7D :: rest)) =
            some (ofMembers ((otherKey, other) :: members), rest) :=
        readMembers_memberLines plain.2 shallow (by omega)
      rw [← readMembers_append (isBlank_newline level)] at readsOthers
      have reads : ∀ behind, readValue fuel depth ([' '] ++ (value.prettyChars level ++ behind)) =
          some (ofJson value, behind) := by
        intro behind
        rw [readValue_append isBlank_space]
        exact readValue_prettyChars plain.1 shallow (by omega)
      simp only [List.append_assoc, List.cons_append]
      exact readMembers_cons (reads _) readsOthers
termination_by structural _ _ _ _ _ _ _ fuel => fuel

end

/-- A plain value is read back from the text that is written of it over several lines. -/
theorem ofText?_pretty
    {json : Json}
    {levels : Nat}
    (plain : json.Plain levels)
    (shallow : levels ≤ maxDepth) :
    ofText? (json.pretty ++ "\n") = some (ofJson json) := by
  have reads : readValue (2 * (json.prettyChars 0 ++ ['\n']).length + 2) 0
      (json.prettyChars 0 ++ ['\n']) = some (ofJson json, ['\n']) :=
    readValue_prettyChars plain (by omega) (by simp only [List.length_append]; omega)
  have text : (json.pretty ++ "\n").toList = json.prettyChars 0 ++ ['\n'] := by
    simp [pretty]
  rw [ofText?, text, ofChars?, reads]
  rfl

end Document
end ThreatIntel
