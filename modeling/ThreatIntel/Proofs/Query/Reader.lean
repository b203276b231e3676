import ThreatIntel.Proofs.Query.Built
import ThreatIntel.Proofs.Text.Reading
import ThreatIntel.Query.Printer
import ThreatIntel.Text.Cut

/-!
# Reading a query text

A reader for the text of queries. It gives back every clause of a query that can be built: keyword,
operator and literal, in order. Two things do not show in the text: a nested query is written as the
text of itself, and an empty list has no type. Main statement: two queries that can be built have
the same text exactly when their clauses agree in all that shows.
-/

namespace ThreatIntel
namespace Query

/-- What the text of a clause shows. -/
structure Comparison where
  /-- The name of the field or relation. -/
  keyword : String
  /-- The comparison. -/
  operator : Operator
  /-- What the field is compared with; never a nested query, and never an empty list of texts. -/
  literal : Operand
  deriving DecidableEq

/-- A literal as its text shows it. -/
def Operand.asWritten : Operand → Operand
  | .subQuery query => .text query.render
  | .texts [] => .integers []
  | operand => operand

/-- A clause as its text shows it. -/
def Clause.asWritten (clause : Clause) : Comparison :=
  ⟨clause.keyword, clause.operator, clause.operand.asWritten⟩

/-- A query as its text shows it. -/
def Expression.asWritten (query : Expression) : List Comparison :=
  query.clauses.map Clause.asWritten

namespace Reader

/-- Read a quoted text. -/
def readText (cs : List Char) : Option (String × List Char) :=
  (Text.unquote cs).map fun (value, rest) => (String.ofList value, rest)

/-- Read items up to the parenthesis that closes their list. -/
def readItems
    (item : List Char → Option (α × List Char))
    (cs : List Char) : Option (List α × List Char) :=
  match Text.readSeparated [','] item cs with
  | some (values, ')' :: rest) => some (values, rest)
  | _ => none

/-- Read a literal without quotes and parentheses. -/
def readBare (cs : List Char) : Option (Operand × List Char) :=
  let (word, rest) := Text.readWord cs
  if word = "true".toList then some (.boolean true, rest)
  else if word = "false".toList then some (.boolean false, rest)
  else (Text.readInteger cs).map fun (value, rest) => (.integer value, rest)

/-- Read a literal, whose first characters tell its form. -/
def readLiteral (cs : List Char) : Option (Operand × List Char) :=
  match cs with
  | '"' :: _ => (readText cs).map fun (value, rest) => (.text value, rest)
  | '(' :: ')' :: rest => some (.integers [], rest)
  | '(' :: '"' :: items =>
      (readItems readText ('"' :: items)).map fun (values, rest) => (.texts values, rest)
  | '(' :: items =>
      (readItems Text.readInteger items).map fun (values, rest) => (.integers values, rest)
  | _ => readBare cs

/-- Read an operator and the space behind it. -/
def readOperator (cs : List Char) : Option (Operator × List Char) :=
  Operator.all.findSome? fun operator =>
    ((operator.token.toList ++ [' ']).isPrefixOf? cs).map fun rest => (operator, rest)

/-- Read a clause: the keyword goes up to the first space. -/
def readComparison (cs : List Char) : Option (Comparison × List Char) := do
  let (keyword, rest) := Text.cutAt ' ' cs
  let (operator, rest) ← readOperator (← rest)
  let (literal, rest) ← readLiteral rest
  pure (⟨String.ofList keyword, operator, literal⟩, rest)

/-- Read the text of a query. -/
def read? (text : String) : Option (List Comparison) :=
  if text = "" then some []
  else
    match Text.readSeparated " and ".toList readComparison text.toList with
    | some (comparisons, []) => some comparisons
    | _ => none

/-! ## Literals are read back -/

theorem readText_append (value : String) (rest : List Char) :
    readText (Text.quote value.toList ++ rest) = some (value, rest) := by
  simp [readText]

/-- The items of a list that is not empty are read back from behind its opening parenthesis, where
the first of them stands. -/
theorem readItems_parenthesized
    {item : List Char → Option (α × List Char)}
    {write : α → List Char}
    {Ends : List Char → Prop}
    (comma : ∀ rest, Ends (',' :: rest))
    (closing : ∀ rest, Ends (')' :: rest))
    (reads : ∀ value rest, Ends rest → item (write value ++ rest) = some (value, rest))
    (first : α)
    (others : List α)
    (rest : List Char) :
    ∃ behind,
      parenthesized ((first :: others).map write) ++ rest = '(' :: (write first ++ behind) ∧
        readItems item (write first ++ behind) = some (first :: others, rest) := by
  let items := List.intercalate [','] ((first :: others).map write)
  have begins : ∃ behind, items = write first ++ behind := by
    cases others with
    | nil => exact ⟨[], by simp [items]⟩
    | cons second others => exact ⟨_, by simp [items, List.intercalate_cons_cons]; rfl⟩
  have separated : Text.readSeparated [','] item (items ++ ')' :: rest) =
      some ((first :: others).map id, ')' :: rest) :=
    Text.readSeparated_intercalate (by simp) comma (fun value _ => reads value) (closing rest) rfl
  have read : readItems item (items ++ ')' :: rest) = some (first :: others, rest) := by
    simp only [readItems, separated, List.map_id]
  obtain ⟨behind, split⟩ := begins
  refine ⟨behind ++ ')' :: rest, ?_, ?_⟩
  · rw [← List.append_assoc, ← split]
    simp [parenthesized, items]
  · rw [← List.append_assoc, ← split]
    exact read

/-- A literal that begins like a word is read as one. -/
theorem readLiteral_of_word
    {word : List Char}
    (nonempty : word ≠ [])
    (letters : ∀ c ∈ word, Text.isWordChar c = true)
    (rest : List Char) :
    readLiteral (word ++ rest) = readBare (word ++ rest) := by
  cases word with
  | nil => exact absurd rfl nonempty
  | cons c word =>
      have letter : Text.isWordChar c = true := letters c List.mem_cons_self
      have notQuote : c ≠ '"' := by
        rintro rfl
        exact absurd letter (by decide)
      have notOpening : c ≠ '(' := by
        rintro rfl
        exact absurd letter (by decide)
      simp [readLiteral, notQuote, notOpening]

theorem readLiteral_boolean
    {rest : List Char}
    (value : Bool)
    (ends : Text.EndsWord rest) :
    readLiteral (booleanChars value ++ rest) = some (.boolean value, rest) := by
  have letters : ∀ c ∈ booleanChars value, Text.isWordChar c = true := by
    rw [← List.all_eq_true]
    cases value <;> rfl
  have word : Text.readWord (booleanChars value ++ rest) = (booleanChars value, rest) :=
    Text.readWord_append letters ends
  rw [readLiteral_of_word (by cases value <;> decide) letters]
  simp only [readBare, word]
  cases value <;> rfl

theorem readLiteral_integer
    {rest : List Char}
    (value : Int64)
    (ends : Text.EndsWord rest) :
    readLiteral (Text.intDigits value.toInt ++ rest) = some (.integer value, rest) := by
  have letters : ∀ c ∈ Text.intDigits value.toInt, Text.isWordChar c = true :=
    fun _ member => Text.isWordChar_of_mem_intDigits member
  have word : Text.readWord (Text.intDigits value.toInt ++ rest) =
      (Text.intDigits value.toInt, rest) :=
    Text.readWord_append letters ends
  have notBoolean : ∀ other : Bool, Text.intDigits value.toInt ≠ booleanChars other := by
    intro other same
    have reads := Text.readInt64?_intDigits value
    have fails : Text.readInt64? (booleanChars other) = none := by cases other <;> decide
    rw [same, fails] at reads
    cases reads
  have notTrue : Text.intDigits value.toInt ≠ "true".toList := notBoolean true
  have notFalse : Text.intDigits value.toInt ≠ "false".toList := notBoolean false
  rw [readLiteral_of_word (Text.intDigits_ne_nil _) letters]
  simp only [readBare, word, notTrue, notFalse, if_false, Text.readInteger_append value ends,
    Option.map_some]

theorem readLiteral_integers
    (values : List Int64)
    (rest : List Char) :
    readLiteral (Operand.chars (.integers values) ++ rest) = some (.integers values, rest) := by
  cases values with
  | nil => rfl
  | cons first others =>
      obtain ⟨behind, written, items⟩ := readItems_parenthesized
        (by simp [Text.isWordChar]) (by simp [Text.isWordChar])
        (fun value _ ends => Text.readInteger_append value ends) first others rest
      obtain ⟨c, number, starts⟩ := List.exists_cons_of_ne_nil (Text.intDigits_ne_nil first.toInt)
      have letter : Text.isWordChar c = true :=
        Text.isWordChar_of_mem_intDigits (starts ▸ List.mem_cons_self)
      have notClosing : c ≠ ')' := by
        rintro rfl
        exact absurd letter (by decide)
      have notQuote : c ≠ '"' := by
        rintro rfl
        exact absurd letter (by decide)
      rw [Operand.chars, written]
      rw [starts, List.cons_append] at items ⊢
      simp [readLiteral, notClosing, notQuote, items]

theorem readLiteral_texts
    (values : List String)
    (rest : List Char) :
    readLiteral (Operand.chars (.texts values) ++ rest) =
      some (Operand.asWritten (.texts values), rest) := by
  cases values with
  | nil => rfl
  | cons first others =>
      have reads : ∀ value rest, True →
          readText (Text.quote (String.toList value) ++ rest) = some (value, rest) :=
        fun value rest _ => readText_append value rest
      obtain ⟨behind, written, items⟩ := readItems_parenthesized
        (fun _ => trivial) (fun _ => trivial) reads first others rest
      rw [Operand.chars, written]
      rw [Text.quote, List.cons_append] at items ⊢
      simp only [readLiteral, items, Option.map_some, Operand.asWritten]

/-- Every literal is read back as its text shows it. -/
theorem readLiteral_append
    {rest : List Char}
    (operand : Operand)
    (ends : Text.EndsWord rest) :
    readLiteral (operand.chars ++ rest) = some (operand.asWritten, rest) := by
  cases operand with
  | boolean value => exact readLiteral_boolean value ends
  | integer value => exact readLiteral_integer value ends
  | text value =>
      have reads := readText_append value rest
      simpa [readLiteral, Operand.chars, Operand.asWritten, Text.quote] using reads
  | integers values => exact readLiteral_integers values rest
  | texts values => exact readLiteral_texts values rest
  | subQuery query =>
      have reads := readText_append query.render rest
      simpa [readLiteral, Operand.chars, Operand.asWritten, Text.quote, Expression.render]
        using reads

/-! ## Clauses are read back -/

/-- An operator is read back with the space behind it: no token begins with another one and a
space. -/
theorem readOperator_append (operator : Operator) (rest : List Char) :
    readOperator (operator.token.toList ++ ' ' :: rest) = some (operator, rest) := by
  cases operator <;> rfl

theorem space_notMem_of_isKeyword
    {keyword : String}
    (allowed : isKeyword keyword = true) :
    ' ' ∉ keyword.toList := by
  intro member
  simp only [isKeyword, Bool.and_eq_true, List.all_eq_true] at allowed
  exact absurd (allowed.2 ' ' member) (by decide)

/-- A clause under a word that can stand as a keyword is read back as its text shows it. -/
theorem readComparison_append
    {rest : List Char}
    (clause : Clause)
    (allowed : isKeyword clause.keyword = true)
    (ends : Text.EndsWord rest) :
    readComparison (clause.chars ++ rest) = some (clause.asWritten, rest) := by
  obtain ⟨keyword, operator, operand, type⟩ := clause
  have cut : Text.cutAt ' ' (Clause.chars ⟨keyword, operator, operand, type⟩ ++ rest) =
      (keyword.toList, some (operator.token.toList ++ ' ' :: (operand.chars ++ rest))) := by
    simpa [Clause.chars] using Text.cutAt_append (space_notMem_of_isKeyword allowed)
      (operator.token.toList ++ ' ' :: (operand.chars ++ rest))
  simp [readComparison, cut, readOperator_append, readLiteral_append operand ends,
    Clause.asWritten]

/-- The text of a query that can be built is read back clause by clause. -/
theorem read?_render
    {query : Expression}
    (built : query.Built) :
    read? query.render = some query.asWritten := by
  obtain ⟨clauses, join⟩ := query
  obtain ⟨conjunction, fits⟩ := built.sound
  simp only at conjunction fits
  subst conjunction
  cases clauses with
  | nil => rfl
  | cons first others =>
      have written : (Expression.render ⟨first :: others, .and⟩).toList =
          List.intercalate " and ".toList ((first :: others).map Clause.chars) := by
        simp [Expression.render, Expression.chars, Join.separator]
      have separated : Text.readSeparated " and ".toList readComparison
          (List.intercalate " and ".toList ((first :: others).map Clause.chars) ++ []) =
            some ((first :: others).map Clause.asWritten, []) :=
        Text.readSeparated_intercalate (by simp) (fun rest => by simp [Text.isWordChar])
          (fun clause member rest ends => readComparison_append clause
            (Clause.isKeyword_of_refusal?_eq_none (fits clause member)) ends)
          Text.endsWord_nil rfl
      have nonempty : Expression.render ⟨first :: others, .and⟩ ≠ "" := by
        intro blank
        have fails : Text.readSeparated " and ".toList readComparison [] = none := by
          rw [Text.readSeparated]
          rfl
        rw [← written, blank] at separated
        have impossible := fails.symm.trans separated
        cases impossible
      rw [List.append_nil] at separated
      simp only [read?, nonempty, if_false, written, separated, Expression.asWritten]

end Reader

/-! ## The text determines the clauses -/

/-- What shows of a literal is written as the literal is. -/
theorem Operand.chars_asWritten (operand : Operand) :
    operand.asWritten.chars = operand.chars := by
  cases operand with
  | boolean value => rfl
  | integer value => rfl
  | text value => rfl
  | integers values => rfl
  | texts values => cases values <;> rfl
  | subQuery query => simp [asWritten, chars, Expression.render]

/-- The text of a clause of which this shows. -/
def Comparison.chars (comparison : Comparison) : List Char :=
  comparison.keyword.toList ++
    ' ' :: (comparison.operator.token.toList ++ ' ' :: comparison.literal.chars)

theorem Clause.chars_asWritten (clause : Clause) :
    clause.asWritten.chars = clause.chars := by
  obtain ⟨keyword, operator, operand, type⟩ := clause
  simp only [asWritten, Comparison.chars, Operand.chars_asWritten, chars]

namespace Expression

/-- Queries with the same text agree in all that shows. -/
theorem asWritten_eq_of_render_eq
    {left right : Expression}
    (leftBuilt : left.Built)
    (rightBuilt : right.Built)
    (same : left.render = right.render) :
    left.asWritten = right.asWritten := by
  have read : some left.asWritten = some right.asWritten := by
    rw [← Reader.read?_render leftBuilt, same, Reader.read?_render rightBuilt]
  exact Option.some.inj read

/-- Queries that agree in all that shows have the same text. -/
theorem render_eq_of_asWritten_eq
    {left right : Expression}
    (joins : left.join = right.join)
    (same : left.asWritten = right.asWritten) :
    left.render = right.render := by
  have written : ∀ query : Expression,
      query.render = String.ofList
        (List.intercalate query.join.separator.toList (query.asWritten.map Comparison.chars)) := by
    rintro ⟨clauses, join⟩
    simp [render, chars, asWritten, Function.comp_def, Clause.chars_asWritten]
  rw [written left, written right, joins, same]

/-- Two queries have as many clauses, and the clauses agree one by one in keyword, operator and what
shows of the literal. -/
def Agrees (left right : Expression) : Prop :=
  left.clauses.length = right.clauses.length ∧
    ∀ (index : Nat)
      (_ : index < left.clauses.length)
      (_ : index < right.clauses.length),
      left.clauses[index].keyword = right.clauses[index].keyword ∧
        left.clauses[index].operator = right.clauses[index].operator ∧
        left.clauses[index].operand.asWritten = right.clauses[index].operand.asWritten

theorem asWritten_eq_iff_agrees (left right : Expression) :
    left.asWritten = right.asWritten ↔ left.Agrees right := by
  rw [List.ext_getElem_iff]
  simp [Agrees, asWritten, Clause.asWritten]

/-- The text of a query that can be built determines its clauses in their order: it is read back to
the keyword, operator and literal of each. Two such queries have the same text exactly when they
agree clause by clause, where a nested query counts as the text of itself and all empty lists count
as one literal. -/
theorem render_determines_clauses
    (left right : Expression)
    (leftBuilt : left.Built)
    (rightBuilt : right.Built) :
    Reader.read? left.render = some left.asWritten ∧
      (left.render = right.render ↔ left.Agrees right) := by
  rw [← asWritten_eq_iff_agrees]
  refine ⟨Reader.read?_render leftBuilt, asWritten_eq_of_render_eq leftBuilt rightBuilt, ?_⟩
  intro same
  have joins : left.join = right.join := leftBuilt.sound.join.trans rightBuilt.sound.join.symm
  exact render_eq_of_asWritten_eq joins same

/-- A nested query and its text, an empty list of texts and one of numbers: two queries that differ
and yet have the same text, in which a quoted conjunction hides no clause. -/
theorem render_determines_clauses_of_hidden :
    let phrase : Clause := ⟨"summary", .equal, .text "a\" and id = 1", .text⟩
    let noNames : Clause := ⟨"name", .among, .texts [], .text⟩
    let nested : Clause := ⟨"hasTag", .equal, .subQuery ⟨[noNames], .and⟩, .subQuery⟩
    let quoted : Clause := ⟨"hasTag", .equal, .text "name in ()", .text⟩
    let noNumbers : Clause := ⟨"name", .among, .integers [], .integer⟩
    let left : Expression := ⟨[phrase, nested, noNames], .and⟩
    let right : Expression := ⟨[phrase, quoted, noNumbers], .and⟩
    (left.Built ∧ right.Built) ∧ left ≠ right ∧
      Reader.read? left.render = some left.asWritten ∧
      left.asWritten.length = 3 ∧ left.render = right.render := by
  intro phrase noNames nested quoted noNumbers left right
  have child : Built ⟨[noNames], .and⟩ :=
    Built.empty.push noNames (by decide) nofun
  have leftBuilt : left.Built :=
    ((Built.empty.push phrase (by decide) nofun).push nested (by decide)
      (by rintro _ ⟨⟩; exact child)).push noNames (by decide) nofun
  have rightBuilt : right.Built :=
    ((Built.empty.push phrase (by decide) nofun).push quoted (by decide) nofun).push
      noNumbers (by decide) nofun
  have agrees : left.Agrees right := (asWritten_eq_iff_agrees left right).mp (by rfl)
  obtain ⟨reads, sameText⟩ := render_determines_clauses left right leftBuilt rightBuilt
  exact ⟨⟨leftBuilt, rightBuilt⟩, by simp [left, right, nested, quoted], reads, by rfl,
    sameText.mpr agrees⟩

end Expression

end Query
end ThreatIntel
