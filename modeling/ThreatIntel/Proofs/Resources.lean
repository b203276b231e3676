import Mathlib.Data.String.Basic
import ThreatIntel.Proofs.Lists
import ThreatIntel.Proofs.Text.Marks
import ThreatIntel.Resource

/-!
# Spellings of resources

Of a spelling nothing counts but its ASCII letters and digits, and not their case. Main statement: a
kind of record is read from a spelling exactly if these make up its title, in singular or plural, or
a bare attribute for that of an indicator. No two kinds share such a form, so that the name and the
title of a kind lead back to it in whatever case and with whatever separators they are written.
-/

namespace ThreatIntel
namespace Resource

/-! ## Forms -/

/-- What the spellings of a kind are squashed to: its title, in singular or plural; those of a bare
attribute belong to indicators. -/
def forms (resource : Resource) : List (List Char) :=
  let singular := squash resource.title
  singular :: (singular ++ ['s']) ::
    if resource = indicatorAttribute then ["attribute".toList, "attributes".toList] else []

/-- No two kinds have a form in common. -/
theorem eq_of_mem_forms
    {first second : Resource}
    {form : List Char}
    (ofFirst : form ∈ first.forms)
    (ofSecond : form ∈ second.forms) :
    first = second := by
  have apart : ∀ first ∈ all, ∀ second ∈ all, first ≠ second →
      ∀ form ∈ first.forms, form ∉ second.forms := by
    decide +kernel
  by_contra different
  exact apart first (mem_all first) second (mem_all second) different form ofFirst ofSecond

/-! ## Singular and plural -/

theorem dropPlural_concat (word : List Char) : dropPlural (word ++ ['s']) = word := by
  simp [dropPlural]

/-- Without its plural, a squashed spelling is what it was or lacks one letter. -/
theorem eq_dropPlural_or (squashed : List Char) :
    squashed = dropPlural squashed ∨ squashed = dropPlural squashed ++ ['s'] := by
  unfold dropPlural
  split
  · next plural => exact .inr (List.dropLast_append_getLast? 's' plural).symm
  · exact .inl rfl

/-- The title of a kind is compared with a squashed spelling as it is and without its plural. -/
theorem eq_or_eq_dropPlural_iff
    {word squashed : List Char} :
    word = squashed ∨ word = dropPlural squashed ↔ squashed = word ∨ squashed = word ++ ['s'] := by
  constructor
  · rintro (same | singular)
    · exact .inl same.symm
    · rw [singular]
      exact eq_dropPlural_or squashed
  · rintro (same | plural)
    · exact .inl same.symm
    · right
      rw [plural, dropPlural_concat]

theorem dropPlural_eq_attribute_iff
    {squashed : List Char} :
    dropPlural squashed = "attribute".toList ↔
      squashed = "attribute".toList ∨ squashed = "attributes".toList := by
  constructor
  · intro bare
    have spelled := eq_dropPlural_or squashed
    rwa [bare] at spelled
  · rintro (rfl | rfl) <;> decide

/-- A squashed spelling is a form of a kind if it passes one of the two comparisons of the reader.
-/
theorem mem_forms_iff
    {form : List Char}
    {resource : Resource} :
    form ∈ resource.forms ↔
      (squash resource.title = form ∨ squash resource.title = dropPlural form) ∨
        resource = indicatorAttribute ∧ dropPlural form = "attribute".toList := by
  rw [eq_or_eq_dropPlural_iff, dropPlural_eq_attribute_iff, forms, List.mem_cons, List.mem_cons,
    ← or_assoc]
  apply or_congr_right
  by_cases ofIndicator : resource = indicatorAttribute <;> simp [ofIndicator]

/-- Just the kind with the squashed form of a spelling is read from it. -/
theorem ofSpelling?_eq_some_iff
    {spelling : String}
    {resource : Resource} :
    ofSpelling? spelling = some resource ↔ squash spelling ∈ resource.forms := by
  unfold ofSpelling?
  by_cases bare : dropPlural (squash spelling) = "attribute".toList
  · have ofAttribute : squash spelling ∈ indicatorAttribute.forms :=
      mem_forms_iff.mpr (.inr ⟨rfl, bare⟩)
    rw [if_pos bare, Option.some.injEq]
    constructor
    · rintro rfl
      exact ofAttribute
    · exact eq_of_mem_forms ofAttribute
  · have titled (kind : Resource) : squash spelling ∈ kind.forms ↔
        squash kind.title = squash spelling ∨
          squash kind.title = dropPlural (squash spelling) := by
      rw [mem_forms_iff]
      exact or_iff_left fun alone => bare alone.2
    rw [if_neg bare, find?_eq_some_iff_of_unique]
    · simp only [Bool.or_eq_true, beq_iff_eq, titled, mem_all, true_and]
    · intro one _ other _ ofOne ofOther
      simp only [Bool.or_eq_true, beq_iff_eq, ← titled] at ofOne ofOther
      exact eq_of_mem_forms ofOne ofOther

theorem ofSpelling_eq_ok_iff
    {spelling : String}
    {resource : Resource} :
    ofSpelling spelling = .ok resource ↔ squash spelling ∈ resource.forms := by
  rw [← ofSpelling?_eq_some_iff, ofSpelling]
  cases ofSpelling? spelling <;> simp

/-- A spelling without the form of any kind is refused. -/
theorem ofSpelling_of_formless
    {spelling : String}
    (formless : ∀ resource : Resource, squash spelling ∉ resource.forms) :
    ofSpelling spelling = .error (.validation s!"Unknown resource type: '{spelling}'") := by
  have unread : ofSpelling? spelling = none := by
    apply Option.eq_none_iff_forall_ne_some.mpr
    intro resource found
    exact formless resource (ofSpelling?_eq_some_iff.mp found)
  rw [ofSpelling, unread]

/-- Spellings with the same letters and digits are read alike. -/
theorem ofSpelling?_eq_of_squash_eq
    {spelling other : String}
    (same : squash other = squash spelling) :
    ofSpelling? other = ofSpelling? spelling := by
  ext resource
  rw [ofSpelling?_eq_some_iff, ofSpelling?_eq_some_iff, same]

/-! ## Respelled words -/

/-- A word is spelled with its letters in any case and with separators anywhere among them. -/
inductive Respelled : List Char → List Char → Prop
  | done : Respelled [] []
  | kept
      {c d : Char}
      {word spelling : List Char}
      (sameLetter : d.toLower = c.toLower)
      (rest : Respelled word spelling) :
      Respelled (c :: word) (d :: spelling)
  | inserted
      {d : Char}
      {word spelling : List Char}
      (separator : d.isAlphanum = false)
      (rest : Respelled word spelling) :
      Respelled word (d :: spelling)

/-- What a word is squashed to does not change when it is respelled. -/
theorem squash_eq_of_respelled
    {word spelling : String}
    (respelled : Respelled word.toList spelling.toList) :
    squash spelling = squash word := by
  unfold squash
  generalize spelling.toList = written at respelled
  generalize word.toList = letters at respelled
  induction respelled with
  | done => rfl
  | @kept c d _ _ sameLetter _ inductionHypothesis =>
      have alike : d.isAlphanum = c.isAlphanum := by
        rw [← Text.isAlphanum_toLower, sameLetter, Text.isAlphanum_toLower]
      simp only [List.filter_cons, alike]
      split
      · rw [List.map_cons, List.map_cons, sameLetter, inductionHypothesis]
      · exact inductionHypothesis
  | inserted separator _ inductionHypothesis =>
      rw [List.filter_cons_of_neg (by simp [separator])]
      exact inductionHypothesis

/-- The names of a kind lead back to it. -/
theorem squash_name_mem_forms (resource : Resource) :
    squash resource.name ∈ resource.forms ∧ squash resource.title ∈ resource.forms := by
  cases resource <;> decide +kernel

/-- A kind is read from a spelling exactly if the letters and digits of this make up one of its
forms, so that spellings with the same letters and digits are read alike, and all others are
refused. No two kinds have a form in common, and both names of a kind lead back to it, in whatever
case and with whatever separators they are written. -/
theorem read_by_letters_and_digits (spelling : String) :
    (∀ resource : Resource, ofSpelling spelling = .ok resource ↔
      squash spelling ∈ resource.forms) ∧
    ((∀ resource : Resource, squash spelling ∉ resource.forms) →
      ofSpelling spelling = .error (.validation s!"Unknown resource type: '{spelling}'")) ∧
    (∀ other, squash other = squash spelling → ofSpelling? other = ofSpelling? spelling) ∧
    (∀ (form : List Char) (first second : Resource),
      form ∈ first.forms → form ∈ second.forms → first = second) ∧
    ∀ resource : Resource, Respelled resource.name.toList spelling.toList ∨
      Respelled resource.title.toList spelling.toList → ofSpelling spelling = .ok resource := by
  refine ⟨fun resource => ofSpelling_eq_ok_iff, ofSpelling_of_formless,
    fun other => ofSpelling?_eq_of_squash_eq, fun _ _ _ => eq_of_mem_forms,
    fun resource respelled => ?_⟩
  obtain ⟨ofName, ofTitle⟩ := resource.squash_name_mem_forms
  apply ofSpelling_eq_ok_iff.mpr
  rcases respelled with respelledName | respelledTitle
  · rwa [squash_eq_of_respelled respelledName]
  · rwa [squash_eq_of_respelled respelledTitle]

/-- A task is read from its title in mixed case and with a separator in it. -/
theorem read_by_letters_and_digits_of_task : ofSpelling "tA-sK" = .ok task := by
  obtain ⟨-, -, -, -, respelled⟩ := read_by_letters_and_digits "tA-sK"
  apply respelled task
  right
  exact .kept rfl (.kept rfl (.inserted rfl (.kept rfl (.kept rfl .done))))

end Resource
end ThreatIntel
