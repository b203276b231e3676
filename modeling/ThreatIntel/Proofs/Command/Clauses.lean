import ThreatIntel.Command.Clause
import ThreatIntel.Proofs.Query.Calls
import ThreatIntel.Proofs.Query.Names
import ThreatIntel.Proofs.Query.Spellings
import ThreatIntel.Proofs.Text.Items
import ThreatIntel.Proofs.Text.Reading

/-!
# Clauses as calls

A clause on a command line spells a call on a filter: the name of a field, an operator and the text
of a value, between colons. What stands behind the second colon is the value whatever its marks;
only lists are cut further, at their commas. Main statement: rows of clauses come to the same as the
calls that they spell, made one after the other up to the first one that fails.
-/

namespace ThreatIntel
namespace Command

open Query

/-! ## The text of a value -/

/-- The word for a truth value. -/
def truthWord : Bool → List Char
  | true => "true".toList
  | false => "false".toList

/-- A letter of a word, in either case. -/
def IsLetter (c letter : Char) : Prop :=
  c = letter ∨ c = letter.toUpper

/-- The text of a value of a field, for an operator that takes a list or a single value. -/
inductive SpellsValue : FieldType → (list : Bool) → List Char → Operand → Prop
  | text (cs : List Char) : SpellsValue .text false cs (.text (String.ofList cs))
  | date (cs : List Char) : SpellsValue .date false cs (.text (String.ofList cs))
  | integer (value : Int64) :
      SpellsValue .integer false (Text.intDigits value.toInt) (.integer value)
  | boolean
      {value : Bool}
      {cs : List Char}
      (word : List.Forall₂ IsLetter cs (truthWord value)) :
      SpellsValue .boolean false cs (.boolean value)
  | texts
      {items : List (List Char)}
      {cs : List Char}
      (row : Text.IsRow items cs) :
      SpellsValue .text true cs (.texts (items.map String.ofList))
  | dates
      {items : List (List Char)}
      {cs : List Char}
      (row : Text.IsRow items cs) :
      SpellsValue .date true cs (.texts (items.map String.ofList))
  | integers
      {values : List Int64}
      {cs : List Char}
      (row : Text.IsRow (values.map fun value => Text.intDigits value.toInt) cs) :
      SpellsValue .integer true cs (.integers values)

theorem map_toLower_of_isLetter
    {cs word : List Char}
    (lower : ∀ letter ∈ word, letter.toLower = letter ∧ letter.toUpper.toLower = letter)
    (letters : List.Forall₂ IsLetter cs word) :
    cs.map Char.toLower = word := by
  induction letters with
  | nil => rfl
  | @cons c letter cs word isLetter letters inductionHypothesis =>
      have here : c.toLower = letter := by
        obtain ⟨small, capital⟩ := lower letter List.mem_cons_self
        rcases isLetter with rfl | rfl
        · exact small
        · exact capital
      rw [List.map_cons, here,
        inductionHypothesis fun letter member => lower letter (List.mem_cons_of_mem _ member)]

/-- A word for a truth value is read in any case. -/
theorem readBoolean_of_word
    {value : Bool}
    {cs : List Char}
    (word : List.Forall₂ IsLetter cs (truthWord value)) :
    readBoolean cs = .ok value := by
  have lower : cs.map Char.toLower = truthWord value := by
    refine map_toLower_of_isLetter (fun letter => ?_) word
    cases value <;> simp +contextual [truthWord, or_imp]
  cases value <;> simp [readBoolean, lower, truthWord]

theorem mapM_readInteger (values : List Int64) :
    (values.map fun value => Text.intDigits value.toInt).mapM readInteger = .ok values := by
  induction values with
  | nil => rfl
  | cons value values inductionHypothesis =>
      have here : readInteger (Text.intDigits value.toInt) = .ok value := by simp [readInteger]
      rw [List.map_cons, List.mapM_cons, here, inductionHypothesis]
      rfl

/-- The text of a value is read as the value. -/
theorem readOperand_of_spellsValue
    {type : FieldType}
    {operator : Operator}
    {cs : List Char}
    {operand : Operand}
    (spells : SpellsValue type operator.takesList cs operand) :
    readOperand type operator cs = .ok operand := by
  unfold readOperand
  generalize operator.takesList = list at spells
  cases spells with
  | text | date => rfl
  | integer value => simp [readInteger, Except.map]
  | boolean word => simp [readBoolean_of_word word, Except.map]
  | texts row | dates row => simp only [listItems, row.map_trim_splitOn, if_true]
  | integers row =>
      simp only [listItems, row.map_trim_splitOn, mapM_readInteger, if_true]
      rfl

/-! ## One clause -/

/-- A call that appends a clause on a field. -/
structure FieldCall where
  /-- The name of the field. -/
  name : String
  /-- The comparison. -/
  operator : Operator
  /-- What the field is compared with. -/
  operand : Operand

/-- A call that opens a nested query, and in it makes a call of its own. -/
structure NestedCall where
  /-- The name of the relation. -/
  name : String
  /-- The call on the nested query. -/
  inner : FieldCall

/-- What a call does: it ends well or in an error, and leaves a filter. -/
abbrev Effect := Filter → Except Error Unit × Filter

namespace FieldCall

/-- Make the call at an instant. -/
def make (now : Time.Instant) (call : FieldCall) : Effect := fun filter =>
  match filter.add now call.name call.operator call.operand with
  | .ok filter => (.ok (), filter)
  | .error refusal => (.error refusal.error, filter)

end FieldCall

namespace NestedCall

/-- Make the call at an instant. -/
def make (now : Time.Instant) (call : NestedCall) : Effect := fun filter =>
  match filter.within call.name (call.inner.make now) with
  | .ok (result, filter) => (result, filter)
  | .error refusal => (.error refusal.error, filter)

end NestedCall

/-- The clause spells the call on filters of a kind: it names the field in one of its two ways, the
operator in any accepted spelling, and the value in its usual text. The call may name the field in
the other way. -/
inductive Spells (resource : Resource) (clause : String) (call : FieldCall) : Prop
  | intro
      (field : Field)
      (name spelling : String)
      (value : List Char)
      (written : clause.toList = name.toList ++ ':' :: (spelling.toList ++ ':' :: value))
      (known : field ∈ resource.fields)
      (named : IsNameOf name field.keyword)
      (called : IsNameOf call.name field.keyword)
      (accepted : Operator.ofSpelling? spelling = some call.operator)
      (spellsValue : SpellsValue field.type call.operator.takesList value call.operand)

/-- The clause spells the call on a nested query: it names the relation in one of its two ways
before the clause proper. -/
inductive SpellsNested (resource : Resource) (clause : String) (call : NestedCall) : Prop
  | intro
      (relation : Relation)
      (name inner : String)
      (written : clause.toList = name.toList ++ '.' :: inner.toList)
      (known : relation ∈ resource.relations)
      (named : IsNameOf name relation.keyword)
      (called : IsNameOf call.name relation.keyword)
      (spells : Spells relation.target inner call.inner)

variable
  {resource : Resource}
  {now : Time.Instant}
  {filter : Filter}

/-- The parts of a clause are found between its first two colons. -/
theorem clauseParts?_append
    {name spelling : List Char}
    (nameless : ':' ∉ name)
    (plain : ':' ∉ spelling)
    (value : List Char) :
    clauseParts? (name ++ ':' :: (spelling ++ ':' :: value)) = some (name, spelling, value) := by
  simp [clauseParts?, Text.cutAt_append nameless, Text.cutAt_append plain]

/-- No mark but the underscore stands in the name of a field. -/
theorem notMem_of_isNameOf
    {name keyword : String}
    (member : keyword ∈ resource.keywords)
    (named : IsNameOf name keyword)
    {c : Char}
    (mark : c.isAlphanum = false)
    (other : c ≠ '_') :
    c ∉ name.toList := by
  intro inside
  rcases named.isAlphanum (Resource.isAlphanum_of_mem_keyword member) inside with
    letter | underscore
  · rw [mark] at letter
    cases letter
  · exact other underscore

/-- A clause does what the call that it spells does. -/
theorem addClause_of_spells
    {clause : String}
    {call : FieldCall}
    (spells : Spells filter.resource clause call) :
    addClause now clause.toList filter = call.make now filter := by
  obtain ⟨field, name, spelling, value, written, known, named, called, accepted, spellsValue⟩ :=
    spells
  have nameless : ':' ∉ name.toList :=
    notMem_of_isNameOf (Resource.keyword_mem_of_field known) named (by decide) (by decide)
  have parts : clauseParts? clause.toList = some (name.toList, spelling.toList, value) := by
    rw [written]
    exact clauseParts?_append nameless (Operator.colon_notMem_of_ofSpelling? accepted) value
  have found : filter.resource.field? name = some field :=
    (Resource.field?_eq_some_iff name).mpr ⟨known, named⟩
  have foundAgain : filter.resource.field? call.name = some field :=
    (Resource.field?_eq_some_iff call.name).mpr ⟨known, called⟩
  have spelled : Operator.ofSpelling spelling = .ok call.operator := by
    simp only [Operator.ofSpelling, accepted]
  have read : readClause filter.resource clause.toList =
      .ok (name, call.operator, call.operand) := by
    simp only [readClause, parts, String.ofList_toList, spelled, found]
    simp only [bind, Except.bind, Option.map_some, Option.getD_some,
      readOperand_of_spellsValue spellsValue]
    rfl
  have same : filter.add now name call.operator call.operand =
      filter.add now call.name call.operator call.operand := by
    rw [Filter.add, Filter.add, found, foundAgain]
  unfold addClause FieldCall.make
  rw [read]
  exact congrArg (fun added : Except Filter.Refusal Filter => match added with
    | .ok filter => ((.ok (), filter) : Except Error Unit × Filter)
    | .error refusal => (.error refusal.error, filter)) same

/-- A clause behind a relation does what the calls that it spells do. -/
theorem addNested_of_spellsNested
    {clause : String}
    {call : NestedCall}
    (spells : SpellsNested filter.resource clause call) :
    addNested now clause.toList filter = call.make now filter := by
  obtain ⟨relation, name, inner, written, known, named, called, spellsInner⟩ := spells
  have nameless : '.' ∉ name.toList :=
    notMem_of_isNameOf (Resource.keyword_mem_of_relation known) named (by decide) (by decide)
  have parts : Text.cutAt '.' clause.toList = (name.toList, some inner.toList) := by
    rw [written]
    exact Text.cutAt_append nameless inner.toList
  have found : filter.resource.relation? name = some relation :=
    (Resource.relation?_eq_some_iff name).mpr ⟨known, named⟩
  have foundAgain : filter.resource.relation? call.name = some relation :=
    (Resource.relation?_eq_some_iff call.name).mpr ⟨known, called⟩
  have opened : addClause now inner.toList (.empty relation.target) =
      call.inner.make now (.empty relation.target) :=
    addClause_of_spells spellsInner
  simp only [addNested, parts, String.ofList_toList, NestedCall.make, Filter.within, found,
    foundAgain, Filter.into, opened]

/-! ## Rows of clauses -/

/-- Make calls one after the other, up to the first one that fails. -/
def makeAll : List Effect → Filter → Except Error Unit × Filter
  | [], filter => (.ok (), filter)
  | call :: calls, filter =>
      match call filter with
      | (.ok (), filter) => makeAll calls filter
      | (.error error, filter) => (.error error, filter)

/-- Two rows of calls go on where the first one ends well. -/
theorem makeAll_append
    (first second : List Effect)
    (filter : Filter) :
    makeAll (first ++ second) filter =
      match makeAll first filter with
      | (.ok (), filter) => makeAll second filter
      | (.error error, filter) => (.error error, filter) := by
  induction first generalizing filter with
  | nil => rfl
  | cons call calls inductionHypothesis =>
      rw [List.cons_append, makeAll, makeAll]
      obtain ⟨result, filter⟩ := call filter
      cases result with
      | ok => exact inductionHypothesis filter
      | error error => rfl

/-- A row of clauses makes its calls up to the first one that fails. -/
theorem run_forM
    (call : String → Effect)
    (clauses : List String)
    (filter : Filter) :
    (clauses.forM (m := Building) call).run.run filter = makeAll (clauses.map call) filter := by
  induction clauses generalizing filter with
  | nil => rfl
  | cons clause clauses inductionHypothesis =>
      change ((call clause : Building Unit) >>= fun _ => clauses.forM (m := Building) call).run.run
        filter = _
      have first : StateT.run (ExceptT.run (m := StateM Filter) (call clause)) filter =
          call clause filter := rfl
      rw [ExceptT.run_bind, StateT.run_bind, List.map_cons, makeAll, first]
      obtain ⟨result, filter⟩ := call clause filter
      cases result with
      | ok => exact inductionHypothesis filter
      | error error => rfl

/-- Appending a clause leaves the kind of record. -/
theorem FieldCall.resource_make
    (now : Time.Instant)
    (call : FieldCall)
    (filter : Filter) :
    (call.make now filter).2.resource = filter.resource := by
  unfold make
  cases called : filter.add now call.name call.operator call.operand with
  | error refusal => rfl
  | ok next =>
      obtain ⟨field, -, accepted⟩ := (Filter.add_eq_ok_iff now filter next _ _ _).mp called
      obtain ⟨result, -, -, rfl⟩ := (Filter.set_eq_ok_iff now filter next field _ _).mp accepted
      rfl

/-- A nested query leaves the kind of record around it. -/
theorem NestedCall.resource_make
    (now : Time.Instant)
    (call : NestedCall)
    (filter : Filter) :
    (call.make now filter).2.resource = filter.resource := by
  unfold make Filter.within
  cases filter.resource.relation? call.name <;> rfl

section Rows

variable
  {α : Type}
  {ofCall : α → Effect}

theorem resource_makeAll
    (keeps : ∀ call filter, (ofCall call filter).2.resource = filter.resource)
    (calls : List α)
    (filter : Filter) :
    (makeAll (calls.map ofCall) filter).2.resource = filter.resource := by
  induction calls generalizing filter with
  | nil => rfl
  | cons call calls inductionHypothesis =>
      have kept := keeps call filter
      rw [List.map_cons, makeAll]
      generalize ofCall call filter = outcome at kept
      obtain ⟨result, next⟩ := outcome
      cases result with
      | ok => exact (inductionHypothesis next).trans kept
      | error error => exact kept

/-- Clauses that each do what a call does come to the same as the calls: every call leaves the kind
of record, so the next clause is read against the same fields. -/
theorem makeAll_map_eq
    {Related : String → α → Prop}
    {ofClause : String → Effect}
    (same : ∀ {clause call filter}, filter.resource = resource → Related clause call →
      ofClause clause filter = ofCall call filter)
    (keeps : ∀ call filter, (ofCall call filter).2.resource = filter.resource)
    {clauses : List String}
    {calls : List α}
    (related : List.Forall₂ Related clauses calls)
    (kind : filter.resource = resource) :
    makeAll (clauses.map ofClause) filter = makeAll (calls.map ofCall) filter := by
  induction related generalizing filter with
  | nil => rfl
  | @cons clause call clauses calls first rest inductionHypothesis =>
      have kept := (keeps call filter).trans kind
      rw [List.map_cons, List.map_cons, makeAll, makeAll, same kind first]
      generalize ofCall call filter = outcome at kept
      obtain ⟨result, next⟩ := outcome
      cases result with
      | ok => exact inductionHypothesis kept
      | error error => rfl

end Rows

/-- Rows of clauses end as the calls do that they spell: first one call for each clause on a field,
then, for each clause behind a relation, the opening of a nested query and one call on it. The calls
are made in order up to the first one that fails, whose error is the outcome, and the filter is left
as the calls leave it. -/
theorem addClauses_eq_calls
    {clauses nested : List String}
    {calls : List FieldCall}
    {nestedCalls : List NestedCall}
    (spells : List.Forall₂ (Spells resource) clauses calls)
    (spellsNested : List.Forall₂ (SpellsNested resource) nested nestedCalls)
    (now : Time.Instant)
    (query : Expression) :
    (addClauses now clauses nested).run.run ⟨resource, query⟩ =
      makeAll (calls.map (FieldCall.make now) ++ nestedCalls.map (NestedCall.make now))
        ⟨resource, query⟩ := by
  let start : Filter := ⟨resource, query⟩
  have first : makeAll (clauses.map fun clause => addClause now clause.toList) start =
      makeAll (calls.map (FieldCall.make now)) start := by
    apply makeAll_map_eq _ (FieldCall.resource_make now) spells rfl
    rintro clause call filter rfl spells
    exact addClause_of_spells spells
  have second : ∀ filter : Filter, filter.resource = resource →
      makeAll (nested.map fun clause => addNested now clause.toList) filter =
        makeAll (nestedCalls.map (NestedCall.make now)) filter := by
    intro filter kind
    apply makeAll_map_eq _ (NestedCall.resource_make now) spellsNested kind
    rintro clause call filter rfl spells
    exact addNested_of_spellsNested spells
  have kept := resource_makeAll (FieldCall.resource_make now) calls start
  rw [addClauses, ExceptT.run_bind, StateT.run_bind, run_forM, first, makeAll_append]
  generalize makeAll (calls.map (FieldCall.make now)) start = outcome at kept
  obtain ⟨result, filter⟩ := outcome
  cases result with
  | ok => exact (run_forM _ nested filter).trans (second filter kept)
  | error error => rfl

/-- Clauses on artifacts: a list of texts that hold a colon, a point and a quote, a truth value and
a list of numbers with blanks, and behind relations a text that begins with blanks, a date that is
none, and a clause that is not reached. -/
theorem addClauses_eq_calls_of_failing :
    let clauses := ["summary: Not-In :a.b:c , \"x\"", "indicator_active:EQ:TrUe",
      "caseId:in:\t-7,0 , 50"]
    let calls : List FieldCall := [
      ⟨"summary", .notAmong, .texts ["a.b:c", "\"x\""]⟩,
      ⟨"indicatorActive", .equal, .boolean true⟩,
      ⟨"caseId", .among, .integers [-7, 0, 50]⟩]
    let nested := ["has_note.author:STARTS_WITH:  a.b:c,d", "hasNote.date_added:>:never",
      "hasNote.author:=:late"]
    let nestedCalls : List NestedCall := [
      ⟨"hasNote", "author", .startsWith, .text "  a.b:c,d"⟩,
      ⟨"hasNote", "dateAdded", .above, .text "never"⟩,
      ⟨"hasNote", "author", .equal, .text "late"⟩]
    let now := Time.Instant.epoch
    let start : Filter := ⟨.artifact, .empty⟩
    let made :=
      makeAll (calls.map (FieldCall.make now) ++ nestedCalls.map (NestedCall.make now)) start
    List.Forall₂ (Spells .artifact) clauses calls ∧
      List.Forall₂ (SpellsNested .artifact) nested nestedCalls ∧
      (addClauses now clauses nested).run.run start = made ∧
      made.1.isOk = false ∧ made.2.query.size = 5 := by
  intro clauses calls nested nestedCalls now start made
  have space : ∀ c ∈ [' '], Text.isBlank c = true := List.all_eq_true.mp rfl
  have tab : ∀ c ∈ ['\t'], Text.isBlank c = true := List.all_eq_true.mp rfl
  have texts : Text.IsRow ["a.b:c".toList, "\"x\"".toList]
      ([] ++ ("a.b:c".toList ++ [' ']) ++ ',' :: ([' '] ++ ("\"x\"".toList ++ []))) :=
    .more [] _ [' '] nofun (.of_checked (by decide) rfl rfl) space
      (.last [' '] _ [] space (.of_checked (by decide) rfl rfl) nofun)
  have numbers : Text.IsRow (([-7, 0, 50] : List Int64).map fun value => Text.intDigits value.toInt)
      (['\t'] ++ (['-', '7'] ++ []) ++ ',' :: ([] ++ (['0'] ++ [' ']) ++
        ',' :: ([' '] ++ (['5', '0'] ++ [])))) :=
    .more ['\t'] _ [] tab (.of_checked (by decide) rfl rfl) nofun
      (.more [] _ [' '] nofun (.of_checked (by decide) rfl rfl) space
        (.last [' '] _ [] space (.of_checked (by decide) rfl rfl) nofun))
  have word : List.Forall₂ IsLetter "TrUe".toList (truthWord true) :=
    .cons (.inr rfl) (.cons (.inl rfl) (.cons (.inr rfl) (.cons (.inl rfl) .nil)))
  have spells : List.Forall₂ (Spells .artifact) clauses calls :=
    .cons (.intro ⟨"summary", .text⟩ "summary" " Not-In " _ (by decide) (by decide) (.inl rfl)
        (.inl rfl) (by decide +kernel) (.texts texts))
      (.cons (.intro ⟨"indicatorActive", .boolean⟩ "indicator_active" "EQ" _ (by decide)
        (by decide) (.inr (by decide)) (.inl rfl) (by decide +kernel) (.boolean word))
      (.cons (.intro ⟨"caseId", .integer⟩ "caseId" "in" _ (by decide) (by decide)
        (.inl rfl) (.inl rfl) (by decide +kernel) (.integers numbers)) .nil))
  have spellsNested : List.Forall₂ (SpellsNested .artifact) nested nestedCalls :=
    .cons (.intro ⟨"hasNote", .note⟩ "has_note" "author:STARTS_WITH:  a.b:c,d" (by decide)
        (by decide) (.inr (by decide)) (.inl rfl)
        (.intro ⟨"author", .text⟩ "author" "STARTS_WITH" "  a.b:c,d".toList (by decide) (by decide)
          (.inl rfl) (.inl rfl) (by decide +kernel) (.text _)))
      (.cons (.intro ⟨"hasNote", .note⟩ "hasNote" "date_added:>:never" (by decide) (by decide)
        (.inl rfl) (.inl rfl)
        (.intro ⟨"dateAdded", .date⟩ "date_added" ">" "never".toList (by decide) (by decide)
          (.inr (by decide)) (.inl rfl) (by decide +kernel) (.date _)))
      (.cons (.intro ⟨"hasNote", .note⟩ "hasNote" "author:=:late" (by decide) (by decide) (.inl rfl)
        (.inl rfl)
        (.intro ⟨"author", .text⟩ "author" "=" "late".toList (by decide) (by decide) (.inl rfl)
          (.inl rfl) (by decide +kernel) (.text _))) .nil))
  exact ⟨spells, spellsNested, addClauses_eq_calls spells spellsNested now .empty,
    by decide +kernel, by decide +kernel⟩

end Command
end ThreatIntel
