import ThreatIntel.Proofs.Text.Marks
import ThreatIntel.Url.Reader

/-!
# Paths below a path

A path of plain steps that is written behind another path is kept as it is, behind what the other
path is kept as: plain steps are neither dropped nor encoded, and what they come to stand behind
depends on the other path alone.
-/

namespace ThreatIntel
namespace Url

/-- Characters of plain steps, and the slash between them. -/
def isStepChar (c : Char) : Bool :=
  c.isAlphanum || c == '-' || c == '/'

/-- A path of plain steps behind a slash. -/
structure IsPlainPath (path : List Char) : Prop where
  /-- The path begins with a slash. -/
  slashed : path.head? = some '/'
  /-- There is nothing else in it than plain steps and slashes. -/
  spelled : ∀ c ∈ path, isStepChar c = true

theorem toNat_lt_of_isStepChar
    {c : Char}
    (spelled : isStepChar c = true) :
    c.toNat < 128 := by
  simp only [isStepChar, Bool.or_eq_true, beq_iff_eq] at spelled
  rcases spelled with (letter | rfl) | rfl
  · exact Text.toNat_lt_of_isAlphanum letter
  · decide
  · decide

/-- A character of a plain step is visible, stands for itself in a path and marks nothing there. -/
theorem isStepChar_spec
    {c : Char}
    (spelled : isStepChar c = true) :
    0x20 < c.toNat ∧ Text.isBlank c = false ∧ inPath c = false ∧
      c ∉ ['\\', '?', '#', ':'] ∧ c.toLower ∉ ['.', '%'] := by
  have ascii := toNat_lt_of_isStepChar spelled
  revert spelled
  apply Text.holds_of_table ascii
  decide

/-! ## Plain steps -/

/-- A step that is kept as it is. -/
structure IsPlainStep (step : List Char) : Prop where
  not_single : isSingleDot step = false
  not_double : isDoubleDot step = false
  encode_eq : encode inPath step = step

/-- A step of plain characters is none of the words that begin with a point or a percent sign. -/
theorem contains_eq_false_of_spelled
    {step : List Char}
    (spelled : ∀ c ∈ step, isStepChar c = true)
    {words : List String}
    (dotted : ∀ word ∈ words, word.toList.head? = some '.' ∨ word.toList.head? = some '%') :
    words.contains (String.ofList (step.map Char.toLower)) = false := by
  rw [List.contains_eq_mem, decide_eq_false_iff_not]
  intro member
  have head := dotted _ member
  rw [String.toList_ofList] at head
  cases step with
  | nil => simp at head
  | cons c rest =>
      have other := (isStepChar_spec (spelled c List.mem_cons_self)).2.2.2.2
      simp only [List.mem_cons, List.not_mem_nil, or_false, not_or] at other
      simp [other.1, other.2] at head

theorem isPlainStep_of_spelled
    {step : List Char}
    (spelled : ∀ c ∈ step, isStepChar c = true) :
    IsPlainStep step where
  not_single := contains_eq_false_of_spelled spelled (by decide)
  not_double := contains_eq_false_of_spelled spelled (by decide)
  encode_eq := encode_of_forall fun c member => (isStepChar_spec (spelled c member)).2.2.1

/-! ## Steps behind steps -/

/-- The steps, in reverse, that are kept of a path that goes on. -/
def enter (taken : List (List Char)) : List (List Char) → List (List Char)
  | [] => taken
  | step :: rest =>
      if isDoubleDot step then enter taken.tail rest
      else if isSingleDot step then enter taken rest
      else enter (encode inPath step :: taken) rest

/-- Plain steps are kept as they are. -/
theorem resolve_plain
    {steps : List (List Char)}
    (plain : ∀ step ∈ steps, IsPlainStep step)
    (taken : List (List Char)) :
    resolve taken steps = taken.reverse ++ steps := by
  induction steps generalizing taken with
  | nil => simp [resolve]
  | cons step rest inductionHypothesis =>
      have kept := plain step List.mem_cons_self
      simp only [resolve, kept.not_double, kept.not_single, kept.encode_eq, Bool.false_eq_true,
        if_false]
      rw [inductionHypothesis fun step member => plain step (List.mem_cons_of_mem _ member)]
      simp

/-- Plain steps behind others are kept as they are. -/
theorem resolve_append
    (front : List (List Char))
    {steps : List (List Char)}
    (plain : ∀ step ∈ steps, IsPlainStep step)
    (nonempty : steps ≠ [])
    (taken : List (List Char)) :
    resolve taken (front ++ steps) = (enter taken front).reverse ++ steps := by
  induction front generalizing taken with
  | nil => exact resolve_plain plain taken
  | cons step rest inductionHypothesis =>
      -- A point at the end of a path leaves an empty step behind, but this step is not the last.
      have goesOn : (rest ++ steps).isEmpty = false := by simp [nonempty]
      rw [List.cons_append, resolve, enter]
      simp only [goesOn, Bool.false_eq_true, if_false, inductionHypothesis]
      split
      · rfl
      · split <;> rfl

/-! ## Paths behind paths -/

/-- A path with slashes in place of all that ends a step. -/
def slashed (special : Bool) (cs : List Char) : List Char :=
  cs.map fun c => if isSlash special c then '/' else c

/-- The steps of a path that goes on. -/
def frontSteps (special : Bool) (cs : List Char) : List (List Char) :=
  if cs.isEmpty then []
  else
    (if (slashed special cs).head? = some '/' then (slashed special cs).drop 1
      else slashed special cs).splitOn '/'

/-- What a path that goes on is kept as. -/
def keptFront (special : Bool) (cs : List Char) : List Char :=
  (enter [] (frontSteps special cs)).reverse.flatMap fun step => '/' :: step

theorem slashed_of_spelled
    {cs : List Char}
    (spelled : ∀ c ∈ cs, isStepChar c = true)
    (special : Bool) :
    slashed special cs = cs := by
  refine (List.map_congr_left fun c member => ?_).trans (List.map_id _)
  have noBackslash : c ≠ '\\' := by
    rintro rfl
    exact absurd (spelled _ member) (by decide)
  simp only [isSlash, noBackslash, beq_iff_eq, Bool.or_eq_true, Bool.and_eq_true, and_false,
    or_false, id_eq]
  split
  · next slash => exact slash.symm
  · rfl

/-- The text of steps, each behind a slash. -/
theorem flatMap_slash
    {steps : List (List Char)}
    (nonempty : steps ≠ []) :
    (steps.flatMap fun step => '/' :: step) = '/' :: ['/'].intercalate steps := by
  induction steps with
  | nil => exact absurd rfl nonempty
  | cons step rest inductionHypothesis =>
      cases rest with
      | nil => simp
      | cons next rest =>
          rw [List.flatMap_cons, inductionHypothesis (by simp), List.intercalate_cons_cons]
          simp

/-- The steps of a path behind another path stand behind the steps of that. -/
theorem splitOn_slashed_append
    (special : Bool)
    (front : List Char)
    {rest : List Char}
    (spelled : ∀ c ∈ '/' :: rest, isStepChar c = true) :
    (if (slashed special (front ++ '/' :: rest)).head? = some '/' then
      (slashed special (front ++ '/' :: rest)).drop 1
        else slashed special (front ++ '/' :: rest)).splitOn '/' =
      frontSteps special front ++ rest.splitOn '/' := by
  have same : slashed special (front ++ '/' :: rest) = slashed special front ++ '/' :: rest := by
    rw [slashed, List.map_append]
    exact congrArg (_ ++ ·) (slashed_of_spelled spelled special)
  rw [same]
  cases front with
  | nil => rfl
  | cons c front =>
      have shape : slashed special (c :: front) =
          (if isSlash special c then '/' else c) :: slashed special front := rfl
      generalize (if isSlash special c then '/' else c) = first at shape
      simp only [frontSteps, shape, List.isEmpty_cons, Bool.false_eq_true, if_false,
        List.cons_append, List.head?_cons, List.drop_succ_cons, List.drop_zero]
      split
      · exact List.splitOn_append_cons_self (slashed special front) rest
      · exact List.splitOn_append_cons_self (first :: slashed special front) rest

/-- A path of plain steps behind another path is kept behind what this is kept as. -/
theorem readPath_append
    (special : Bool)
    (front : List Char)
    {path : List Char}
    (plain : IsPlainPath path) :
    readPath special (front ++ path) = keptFront special front ++ path := by
  obtain ⟨rest, rfl⟩ : ∃ rest, path = '/' :: rest :=
    List.head?_eq_some_iff.mp plain.slashed
  have whole : ((rest.splitOn '/').flatMap fun step => '/' :: step) = '/' :: rest := by
    rw [flatMap_slash (List.splitOn_ne_nil _ _), List.intercalate_splitOn]
  have plainSteps : ∀ step ∈ rest.splitOn '/', IsPlainStep step := by
    intro step member
    refine isPlainStep_of_spelled fun c inside => plain.spelled c ?_
    rw [← whole]
    exact List.mem_flatMap.mpr ⟨step, member, List.mem_cons_of_mem _ inside⟩
  have visible : ¬((front ++ '/' :: rest).isEmpty = true ∧ special = false) := by simp
  have steps := splitOn_slashed_append special front plain.spelled
  have resolved := resolve_append (frontSteps special front) plainSteps
    (List.splitOn_ne_nil _ _) []
  unfold slashed at steps
  rw [readPath, if_neg visible, steps, resolved, List.flatMap_append, whole, keptFront]

end Url
end ThreatIntel
