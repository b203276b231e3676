import ThreatIntel.Proofs.Lists
import ThreatIntel.Proofs.Text.Marks
import ThreatIntel.Query.Operator

/-!
# Spellings of operators

A spelling is squashed before it is compared: blanks at its ends, separators and case are lost, and
nothing else. A mark that stands in no squashed spelling therefore stands in no spelling that is
accepted. Main statement: an operator is read from a spelling exactly if this is squashed to one of
the operator's forms, and no two operators have a form in common, so that they may be tried one
after another in any order.
-/

namespace ThreatIntel

namespace Query.Operator

/-- Squashing keeps a visible mark of ASCII that has no case and separates no words. -/
theorem mem_squash
    {c : Char}
    {spelling : String}
    (visible : Text.isBlank c = false)
    (ascii : c.toNat < 0x80)
    (caseless : c.toLower = c)
    (kept : isSeparator c = false)
    (member : c ∈ spelling.toList) :
    c ∈ squash spelling := by
  apply Text.mem_lowerAfter ascii caseless
  rw [List.mem_filter]
  exact ⟨Text.mem_trim visible member, by simp [kept]⟩

/-! ## Forms -/

/-- The name of an operator in one word. -/
def plainName (operator : Operator) : List Char :=
  operator.name.toList.filter (· ≠ '_')

/-- The token of an operator in one word and in lower case. -/
def plainToken (operator : Operator) : List Char :=
  Text.lower (operator.token.toList.filter (· ≠ ' '))

/-- What the spellings of an operator are squashed to: its name, its token, or a short name. -/
def forms (operator : Operator) : List (List Char) :=
  operator.plainName :: operator.plainToken :: operator.aliases.map String.toList

theorem spellings_eq_forms (operator : Operator) : operator.spellings = operator.forms := by
  cases operator <;> decide +kernel

/-- No two operators have a form in common. -/
theorem eq_of_mem_forms
    {first second : Operator}
    {form : List Char}
    (ofFirst : form ∈ first.forms)
    (ofSecond : form ∈ second.forms) :
    first = second := by
  have apart : ∀ first ∈ all, ∀ second ∈ all, first ≠ second →
      ∀ form ∈ first.forms, form ∉ second.forms := by
    decide +kernel
  by_contra different
  exact apart first (mem_all first) second (mem_all second) different form ofFirst ofSecond

/-- Just the operator with the squashed form of a spelling is read from it. -/
theorem ofSpelling?_eq_some_iff
    {spelling : String}
    {operator : Operator} :
    ofSpelling? spelling = some operator ↔ squash spelling ∈ operator.forms := by
  unfold ofSpelling?
  simp only [spellings_eq_forms]
  rw [find?_eq_some_iff_of_unique, List.contains_iff_mem]
  · exact and_iff_right (mem_all operator)
  · intro one _ other _ ofOne ofOther
    exact eq_of_mem_forms (List.contains_iff_mem.mp ofOne) (List.contains_iff_mem.mp ofOther)

theorem ofSpelling_eq_ok_iff
    {spelling : String}
    {operator : Operator} :
    ofSpelling spelling = .ok operator ↔ squash spelling ∈ operator.forms := by
  rw [← ofSpelling?_eq_some_iff, ofSpelling]
  cases ofSpelling? spelling <;> simp

/-- A spelling without the form of any operator is refused. -/
theorem ofSpelling_of_formless
    {spelling : String}
    (formless : ∀ operator : Operator, squash spelling ∉ operator.forms) :
    ofSpelling spelling = .error (.validation s!"Invalid TQL operator: '{spelling}'") := by
  have unread : ofSpelling? spelling = none := by
    apply Option.eq_none_iff_forall_ne_some.mpr
    intro operator found
    exact formless operator (ofSpelling?_eq_some_iff.mp found)
  rw [ofSpelling, unread]

/-- Spellings with one squashed form are read alike. -/
theorem ofSpelling?_eq_of_squash_eq
    {spelling other : String}
    (same : squash other = squash spelling) :
    ofSpelling? other = ofSpelling? spelling := by
  ext operator
  rw [ofSpelling?_eq_some_iff, ofSpelling?_eq_some_iff, same]

/-- There is no colon in an accepted spelling. -/
theorem colon_notMem_of_ofSpelling?
    {spelling : String}
    {operator : Operator}
    (accepted : ofSpelling? spelling = some operator) :
    ':' ∉ spelling.toList := by
  have plain : ∀ form ∈ operator.forms, ':' ∉ form := by
    cases operator <;> decide +kernel
  intro member
  have inside : ':' ∈ squash spelling :=
    mem_squash (by decide) (by decide) (by decide) (by decide) member
  exact plain _ (ofSpelling?_eq_some_iff.mp accepted) inside

/-! ## Operators tried in turn -/

/-- The spelling is the token as it is written, or is squashed to the name or the token. -/
def answersTo (operator : Operator) (spelling : String) : Bool :=
  operator.token.toList == Text.trim spelling.toList ||
    operator.plainName == squash spelling || operator.plainToken == squash spelling

/-- The operator of a short name. -/
def ofShortName? : String → Option Operator
  | "ne" => some notEqual
  | "ge" | "gte" => some atLeast
  | "le" | "lte" => some atMost
  | _ => none

/-- Operators are tried in turn by their tokens and their names, and only then the short names. -/
def firstInTurn (order : List Operator) (spelling : String) : Option Operator :=
  (order.find? (·.answersTo spelling)).or (ofShortName? (String.ofList (squash spelling)))

/-- A token as it is written is squashed to itself in one word and in lower case. -/
theorem squash_of_trim_eq
    {spelling : String}
    {operator : Operator}
    (written : operator.token.toList = Text.trim spelling.toList) :
    squash spelling = operator.plainToken := by
  have separators : operator.token.toList.filter (fun c => !isSeparator c) =
      operator.token.toList.filter (· ≠ ' ') := by
    cases operator <;> decide +kernel
  rw [squash, ← written, separators, plainToken]

theorem answersTo_iff
    {spelling : String}
    {operator : Operator} :
    operator.answersTo spelling = true ↔
      squash spelling = operator.plainName ∨ squash spelling = operator.plainToken := by
  simp only [answersTo, Bool.or_eq_true, beq_iff_eq]
  constructor
  · rintro ((written | named) | token)
    · exact .inr (squash_of_trim_eq written)
    · exact .inl named.symm
    · exact .inr token.symm
  · rintro (named | token)
    · exact .inl (.inr named.symm)
    · exact .inr token.symm

theorem ofShortName?_eq_some_iff
    {name : String}
    {operator : Operator} :
    ofShortName? name = some operator ↔ name ∈ operator.aliases := by
  unfold ofShortName?
  split <;> cases operator <;> simp_all [aliases]

theorem mem_forms_iff
    {form : List Char}
    {operator : Operator} :
    form ∈ operator.forms ↔ (form = operator.plainName ∨ form = operator.plainToken) ∨
      String.ofList form ∈ operator.aliases := by
  have short : form ∈ operator.aliases.map String.toList ↔
      String.ofList form ∈ operator.aliases := by
    rw [List.mem_map]
    constructor
    · rintro ⟨name, known, rfl⟩
      rwa [String.ofList_toList]
    · intro known
      exact ⟨_, known, String.toList_ofList⟩
  rw [forms, List.mem_cons, List.mem_cons, short, or_assoc]

/-- In whatever order the operators are tried, the one with the squashed form is found. -/
theorem firstInTurn_eq_some_iff
    {order : List Operator}
    (complete : ∀ operator, operator ∈ order)
    {spelling : String}
    {operator : Operator} :
    firstInTurn order spelling = some operator ↔ squash spelling ∈ operator.forms := by
  unfold firstInTurn
  cases found : order.find? (·.answersTo spelling) with
  | some first =>
      have answers := List.find?_some found
      have ofFirst : squash spelling ∈ first.forms :=
        mem_forms_iff.mpr (.inl (answersTo_iff.mp answers))
      rw [Option.some_or, Option.some.injEq]
      constructor
      · rintro rfl
        exact ofFirst
      · exact eq_of_mem_forms ofFirst
  | none =>
      have silent : ¬operator.answersTo spelling = true :=
        List.find?_eq_none.mp found operator (complete operator)
      rw [answersTo_iff] at silent
      rw [Option.none_or, ofShortName?_eq_some_iff, mem_forms_iff, or_iff_right silent]

/-- An operator is read from a spelling exactly if one of its forms is what the spelling is squashed
to, so that spellings with one squashed form are read alike. As no two operators have a form in
common, they may also be tried in turn, each by what is written and by what is squashed: the order
makes no difference. -/
theorem read_by_squashed_form (spelling : String) :
    (∀ operator : Operator, ofSpelling spelling = .ok operator ↔ squash spelling ∈ operator.forms) ∧
    ((∀ operator : Operator, squash spelling ∉ operator.forms) →
      ofSpelling spelling = .error (.validation s!"Invalid TQL operator: '{spelling}'")) ∧
    (∀ other, squash other = squash spelling → ofSpelling? other = ofSpelling? spelling) ∧
    (∀ (form : List Char) (first second : Operator),
      form ∈ first.forms → form ∈ second.forms → first = second) ∧
    ∀ order : List Operator, (∀ operator, operator ∈ order) →
      firstInTurn order spelling = ofSpelling? spelling := by
  refine ⟨fun operator => ofSpelling_eq_ok_iff, ofSpelling_of_formless,
    fun other => ofSpelling?_eq_of_squash_eq, fun _ _ _ => eq_of_mem_forms,
    fun order complete => ?_⟩
  ext operator
  rw [firstInTurn_eq_some_iff complete, ofSpelling?_eq_some_iff]

/-- The sign of the unit kelvin is a capital letter of its own, with the small letter of ASCII. -/
theorem read_by_squashed_form_of_kelvin :
    ofSpelling " LI_\u212aE " = .ok like ∧
      firstInTurn all.reverse " LI_\u212aE " = ofSpelling? " LI_\u212aE " := by
  obtain ⟨reads, -, -, -, inTurn⟩ := read_by_squashed_form " LI_\u212aE "
  constructor
  · apply (reads like).mpr
    decide +kernel
  · apply inTurn
    simp

end Query.Operator
end ThreatIntel
