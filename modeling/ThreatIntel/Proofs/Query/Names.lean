import Mathlib.Data.List.Nodup
import ThreatIntel.Proofs.Lists
import ThreatIntel.Proofs.Text.Marks
import ThreatIntel.Query.Schema

/-!
# Names in the schema

Each field and each relation of a kind of record goes by two names, its keyword and the same word
written with underscores. Either name leads back to the keyword, and no keyword occurs twice in the
tables of a kind, so a name stands for at most one field and for at most one relation. Main
statements: the look-up of a name finds exactly the field, or the relation, that goes by it.
-/

namespace ThreatIntel
namespace Query

/-- A word written with underscores, spelled in mixed case again. -/
def camelCase : List Char → List Char
  | '_' :: c :: rest => c.toUpper :: camelCase rest
  | c :: rest => c :: camelCase rest
  | [] => []

theorem camelCase_cons
    {c : Char}
    (letter : c ≠ '_')
    (rest : List Char) :
    camelCase (c :: rest) = c :: camelCase rest := by
  rw [camelCase]
  intro next more same
  exact absurd same letter

theorem camelCase_of_notMem
    {cs : List Char}
    (plain : '_' ∉ cs) :
    camelCase cs = cs := by
  induction cs with
  | nil => rfl
  | cons c cs inductionHypothesis =>
      rw [List.mem_cons, not_or] at plain
      rw [camelCase_cons (Ne.symm plain.1), inductionHypothesis plain.2]

theorem toUpper_toLower
    {c : Char}
    (upper : c.isUpper = true) :
    c.toLower.toUpper = c := by
  have below : c.toNat < 91 := Nat.lt_succ_of_le (of_decide_eq_true upper).2
  revert upper
  apply Text.holds_of_table below
  decide

/-- A keyword without underscores is spelled back from its second form. -/
theorem camelCase_snakeCase
    {word : String}
    (plain : '_' ∉ word.toList) :
    camelCase (snakeCase word).toList = word.toList := by
  rw [snakeCase, String.toList_ofList]
  revert plain
  induction word.toList with
  | nil => intro; rfl
  | cons c cs inductionHypothesis =>
      intro plain
      rw [List.mem_cons, not_or] at plain
      have rest := inductionHypothesis plain.2
      cases upper : c.isUpper with
      | true => simp [upper, camelCase, toUpper_toLower upper, rest]
      | false => simp [upper, camelCase_cons (Ne.symm plain.1), rest]

/-- The name is the keyword or its second form. -/
def IsNameOf (name keyword : String) : Prop :=
  name = keyword ∨ name = snakeCase keyword

theorem IsNameOf.camelCase_eq
    {name keyword : String}
    (named : IsNameOf name keyword)
    (plain : '_' ∉ keyword.toList) :
    camelCase name.toList = keyword.toList := by
  rcases named with rfl | rfl
  · exact camelCase_of_notMem plain
  · exact camelCase_snakeCase plain

/-- A word in its second form has no other marks than underscores. -/
theorem isAlphanum_of_mem_snakeCase
    {word : String}
    (plain : ∀ c ∈ word.toList, c.isAlphanum = true)
    {c : Char}
    (member : c ∈ (snakeCase word).toList) :
    c.isAlphanum = true ∨ c = '_' := by
  rw [snakeCase, String.toList_ofList, List.mem_flatMap] at member
  obtain ⟨d, inside, written⟩ := member
  cases upper : d.isUpper with
  | false =>
      simp only [upper, Bool.false_eq_true, if_false, List.mem_singleton] at written
      exact .inl (written ▸ plain d inside)
  | true =>
      simp only [upper, if_true, List.mem_cons, List.not_mem_nil, or_false] at written
      rcases written with underscore | lower
      · exact .inr underscore
      · left
        rw [lower, Text.isAlphanum_toLower]
        exact plain d inside

theorem IsNameOf.isAlphanum
    {name keyword : String}
    (named : IsNameOf name keyword)
    (plain : ∀ c ∈ keyword.toList, c.isAlphanum = true)
    {c : Char}
    (member : c ∈ name.toList) :
    c.isAlphanum = true ∨ c = '_' := by
  rcases named with rfl | rfl
  · exact .inl (plain c member)
  · exact isAlphanum_of_mem_snakeCase plain member

theorem Field.answersTo_iff
    (field : Field)
    (name : String) :
    field.answersTo name = true ↔ IsNameOf name field.keyword := by
  rw [answersTo, snakeName, Bool.or_eq_true, beq_iff_eq, beq_iff_eq, IsNameOf]
  exact or_congr eq_comm eq_comm

theorem Relation.answersTo_iff
    (relation : Relation)
    (name : String) :
    relation.answersTo name = true ↔ IsNameOf name relation.keyword := by
  rw [answersTo, snakeName, Bool.or_eq_true, beq_iff_eq, beq_iff_eq, IsNameOf]
  exact or_congr eq_comm eq_comm

/-- In a table whose keywords are all different and have no underscores, the first entry that goes
by a name is the only one. -/
theorem find?_eq_some_iff
    {α : Type}
    {entries : List α}
    {keyword : α → String}
    {answersTo : α → Bool}
    {name : String}
    (answers : ∀ entry, answersTo entry = true ↔ IsNameOf name (keyword entry))
    (plain : ∀ entry ∈ entries, '_' ∉ (keyword entry).toList)
    (different : (entries.map keyword).Nodup)
    (entry : α) :
    entries.find? answersTo = some entry ↔ entry ∈ entries ∧ IsNameOf name (keyword entry) := by
  rw [find?_eq_some_iff_of_unique, answers]
  intro one known other otherKnown named otherNamed
  have same : keyword one = keyword other := by
    apply String.toList_injective
    rw [← ((answers one).mp named).camelCase_eq (plain one known),
      ((answers other).mp otherNamed).camelCase_eq (plain other otherKnown)]
  exact List.inj_on_of_nodup_map different known otherKnown same

end Query

namespace Resource

open Query

/-- The keywords of a kind's fields and relations. -/
def keywords (resource : Resource) : List String :=
  resource.fields.map (·.keyword) ++ resource.relations.map (·.keyword)

theorem keywords_nodup (resource : Resource) : resource.keywords.Nodup := by
  cases resource <;> decide +kernel

/-- Every keyword is made of letters and digits. -/
theorem isAlphanum_of_mem_keyword
    {resource : Resource}
    {keyword : String}
    (member : keyword ∈ resource.keywords) :
    ∀ c ∈ keyword.toList, c.isAlphanum = true := by
  have table : ∀ keyword ∈ resource.keywords, keyword.toList.all Char.isAlphanum = true := by
    cases resource <;> decide +kernel
  exact List.all_eq_true.mp (table keyword member)

/-- Every keyword can stand in a query, and has no underscore. -/
theorem isKeyword_of_mem_keywords
    {resource : Resource}
    {keyword : String}
    (member : keyword ∈ resource.keywords) :
    isKeyword keyword = true ∧ '_' ∉ keyword.toList := by
  have filled : ∀ keyword ∈ resource.keywords, keyword ≠ "" := by
    cases resource <;> decide +kernel
  have plain : ∀ c ∈ keyword.toList, Text.isBlank c = false ∧ c ≠ '"' ∧ c ≠ '_' := by
    intro c inside
    have alphanumeric := isAlphanum_of_mem_keyword member c inside
    have ascii := Text.toNat_lt_of_isAlphanum alphanumeric
    revert alphanumeric
    apply Text.holds_of_table ascii
    decide +kernel
  constructor
  · have filled : keyword.toList.isEmpty = false := by
      simpa using filled keyword member
    simp only [isKeyword, filled, Bool.not_false, Bool.true_and, List.all_eq_true, Bool.and_eq_true,
      Bool.not_eq_true', bne_iff_ne]
    exact fun c inside => ⟨(plain c inside).1, (plain c inside).2.1⟩
  · intro underscore
    exact (plain '_' underscore).2.2 rfl

variable
  {resource : Resource}
  {field : Field}
  {relation : Relation}

theorem keyword_mem_of_field (known : field ∈ resource.fields) :
    field.keyword ∈ resource.keywords :=
  List.mem_append_left _ (List.mem_map_of_mem known)

theorem keyword_mem_of_relation (known : relation ∈ resource.relations) :
    relation.keyword ∈ resource.keywords :=
  List.mem_append_right _ (List.mem_map_of_mem known)

/-- A field and a relation of a kind have different keywords. -/
theorem field_keyword_ne_relation_keyword
    (knownField : field ∈ resource.fields)
    (knownRelation : relation ∈ resource.relations) :
    field.keyword ≠ relation.keyword := by
  have disjoint := (List.nodup_append.mp resource.keywords_nodup).2.2
  exact disjoint _ (List.mem_map_of_mem knownField) _ (List.mem_map_of_mem knownRelation)

/-- A keyword stands for one field. -/
theorem field_eq_of_keyword_eq
    {other : Field}
    (known : field ∈ resource.fields)
    (otherKnown : other ∈ resource.fields)
    (same : field.keyword = other.keyword) :
    field = other :=
  List.inj_on_of_nodup_map (List.nodup_append.mp resource.keywords_nodup).1 known otherKnown same

/-- A keyword stands for one relation. -/
theorem relation_eq_of_keyword_eq
    {other : Relation}
    (known : relation ∈ resource.relations)
    (otherKnown : other ∈ resource.relations)
    (same : relation.keyword = other.keyword) :
    relation = other :=
  List.inj_on_of_nodup_map (List.nodup_append.mp resource.keywords_nodup).2.1 known otherKnown same

/-- A name finds exactly the field that goes by it. -/
theorem field?_eq_some_iff (name : String) :
    resource.field? name = some field ↔
      field ∈ resource.fields ∧ IsNameOf name field.keyword := by
  apply find?_eq_some_iff (fun entry => entry.answersTo_iff name)
  · intro entry known
    exact (isKeyword_of_mem_keywords (keyword_mem_of_field known)).2
  · exact (List.nodup_append.mp resource.keywords_nodup).1

/-- A name finds exactly the relation that goes by it. -/
theorem relation?_eq_some_iff (name : String) :
    resource.relation? name = some relation ↔
      relation ∈ resource.relations ∧ IsNameOf name relation.keyword := by
  apply find?_eq_some_iff (fun entry => entry.answersTo_iff name)
  · intro entry known
    exact (isKeyword_of_mem_keywords (keyword_mem_of_relation known)).2
  · exact (List.nodup_append.mp resource.keywords_nodup).2.1

end Resource
end ThreatIntel
