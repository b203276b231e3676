import ThreatIntel.App.Layout
import ThreatIntel.Proofs.Lists

/-!
# Sections in order

The sections of a layout are shown in the order of their places, and those with one place in the
order of the file. No section is lost, and there is only one such order. Main statement: the names
of the parameters are those of the sections in this order, each section's in the order of the file,
and the search for a name succeeds on just these names.
-/

namespace ThreatIntel
namespace App

/-- Sections in the order of their places; those with one place stand as they stood before. -/
structure Arranged (sections arranged : List Section) : Prop where
  perm : arranged.Perm sections
  ordered : arranged.Pairwise fun left right => left.sequence ≤ right.sequence
  stable : ∀ place, arranged.filter (·.sequence = place) = sections.filter (·.sequence = place)

/-- The sections of a layout are arranged. -/
theorem Layout.arranged_inSequence (layout : Layout) :
    Arranged layout.sections layout.inSequence := by
  let below (left right : Section) : Prop := left.sequence ≤ right.sequence
  have trans (first second third : Section) :
      below first second → below second third → below first third := UInt32.le_trans
  have total (first second : Section) : below first second ∨ below second first :=
    UInt32.le_total _ _
  refine ⟨List.mergeSort_perm _ _, pairwise_mergeSort_decide below trans total _, fun place => ?_⟩
  refine filter_mergeSort_decide below trans total (fun left right isLeft isRight => ?_) _
  change left.sequence ≤ right.sequence
  rw [of_decide_eq_true isLeft, of_decide_eq_true isRight]
  exact UInt32.le_refl _

/-- The section in front of ordered ones has the least place. -/
theorem sequence_le_of_mem
    {first part : Section}
    {others : List Section}
    (ordered : (first :: others).Pairwise fun left right => left.sequence ≤ right.sequence)
    (member : part ∈ first :: others) :
    first.sequence ≤ part.sequence := by
  rcases List.mem_cons.mp member with rfl | later
  · exact UInt32.le_refl _
  · exact List.rel_of_pairwise_cons ordered later

namespace Arranged

variable {sections arranged : List Section}

/-- Behind a section that stays in front, the others are arranged. -/
theorem tail
    {part : Section}
    (arranges : Arranged (part :: sections) (part :: arranged)) :
    Arranged sections arranged where
  perm := arranges.perm.cons_inv
  ordered := arranges.ordered.of_cons
  stable place := by
    have alike := arranges.stable place
    by_cases here : part.sequence = place
    · simpa [here] using alike
    · simpa [here] using alike

/-- Sections that stand in order stay where they are. -/
theorem eq_of_ordered
    (arranges : Arranged sections arranged)
    (ordered : sections.Pairwise fun left right => left.sequence ≤ right.sequence) :
    arranged = sections := by
  induction sections generalizing arranged with
  | nil => exact arranges.perm.eq_nil
  | cons part rest inductionHypothesis =>
      cases arranged with
      | nil => exact absurd arranges.perm.symm.eq_nil (List.cons_ne_nil part rest)
      | cons first others =>
          have least : first.sequence ≤ part.sequence :=
            sequence_le_of_mem arranges.ordered (arranges.perm.mem_iff.mpr List.mem_cons_self)
          have atMost : part.sequence ≤ first.sequence :=
            sequence_le_of_mem ordered (arranges.perm.mem_iff.mp List.mem_cons_self)
          -- Of one place are both, and the first of that place is the same before and after.
          have place : first.sequence = part.sequence := UInt32.le_antisymm least atMost
          have alike := arranges.stable part.sequence
          rw [List.filter_cons_of_pos (by simpa using place), List.filter_cons_of_pos (by simp)]
            at alike
          obtain rfl := (List.cons.inj alike).1
          rw [inductionHypothesis arranges.tail ordered.of_cons]

/-- Sections can be arranged in one way only. -/
theorem unique
    {other : List Section}
    (arranges : Arranged sections arranged)
    (arrangesOther : Arranged sections other) :
    arranged = other := by
  have again : Arranged other arranged := {
    perm := arranges.perm.trans arrangesOther.perm.symm
    ordered := arranges.ordered
    stable := fun place => (arranges.stable place).trans (arrangesOther.stable place).symm }
  exact again.eq_of_ordered arrangesOther.ordered

end Arranged

/-- The names of the parameters of a section, in the order of the file. -/
def Section.parameterNames (part : Section) : List String :=
  part.parameters.map (·.name)

/-- The search for a name succeeds if a section has a parameter of this name. -/
theorem Layout.exists_parameter?_iff
    (layout : Layout)
    (name : String) :
    (∃ item, layout.parameter? name = some item) ↔
      name ∈ layout.sections.flatMap Section.parameterNames := by
  rw [← Option.isSome_iff_exists, parameter?, List.find?_isSome]
  simp only [List.mem_flatMap, Section.parameterNames, List.mem_map, beq_iff_eq]
  constructor
  · rintro ⟨item, ⟨part, member, inside⟩, named⟩
    exact ⟨part, member, item, inside, named⟩
  · rintro ⟨part, member, item, inside, named⟩
    exact ⟨item, ⟨part, member, inside⟩, named⟩

/-- The names of the shown parameters are those of the sections in the one order in which these can
be arranged, each section's together and in the order of the file. Every name stands there as often
as in the sections, and those that do are the names that are found. -/
theorem parameter_names_by_section (layout : Layout) :
    (∃ arranged, Arranged layout.sections arranged ∧
      (∀ other, Arranged layout.sections other → other = arranged) ∧
        layout.parameterNames = arranged.flatMap Section.parameterNames) ∧
    layout.parameterNames.Perm (layout.sections.flatMap Section.parameterNames) ∧
    ∀ name, name ∈ layout.parameterNames ↔ ∃ item, layout.parameter? name = some item := by
  have arranges := layout.arranged_inSequence
  have names : layout.parameterNames = layout.inSequence.flatMap Section.parameterNames := rfl
  have perm : layout.parameterNames.Perm (layout.sections.flatMap Section.parameterNames) := by
    rw [names]
    exact arranges.perm.flatMap_right _
  refine ⟨⟨layout.inSequence, arranges, fun other arrangesOther => ?_, names⟩, perm, fun name => ?_⟩
  · exact arrangesOther.unique arranges
  · rw [layout.exists_parameter?_iff, perm.mem_iff]

end App
end ThreatIntel
