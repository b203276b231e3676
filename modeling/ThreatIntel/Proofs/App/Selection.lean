import Mathlib.Data.List.Nodup
import ThreatIntel.Proofs.App.Views
import ThreatIntel.Proofs.Lists

/-!
# Selected parameters

A selection keeps the parameters that meet all criteria that are set, and of several with one name
the first that meets them; one that does not meet them stands in no other's way. Main statement: a
selection shows the parameters at just those places at which a name is met for the first time, in
their order, and further criteria add no name to it.
-/

namespace ThreatIntel
namespace App

namespace Criteria

/-- The parameter is as each criterion that is set wants it. -/
structure Met (criteria : Criteria) (parameter : Parameter) : Prop where
  name : ∀ wanted ∈ criteria.name, parameter.name = wanted
  hidden : ∀ wanted ∈ criteria.hidden, parameter.hidden = wanted
  required : ∀ wanted ∈ criteria.required, parameter.required = wanted
  serviceConfig : ∀ wanted ∈ criteria.serviceConfig, parameter.serviceConfig = wanted
  type : ∀ wanted ∈ criteria.type, parameter.type = wanted
  names : ∀ wanted ∈ criteria.names, parameter.name ∈ wanted

/-- Whatever is set in the criteria is set alike in the stricter ones, which may set more. -/
structure Extends (stricter criteria : Criteria) : Prop where
  name : ∀ wanted ∈ criteria.name, wanted ∈ stricter.name
  hidden : ∀ wanted ∈ criteria.hidden, wanted ∈ stricter.hidden
  required : ∀ wanted ∈ criteria.required, wanted ∈ stricter.required
  serviceConfig : ∀ wanted ∈ criteria.serviceConfig, wanted ∈ stricter.serviceConfig
  type : ∀ wanted ∈ criteria.type, wanted ∈ stricter.type
  names : ∀ wanted ∈ criteria.names, wanted ∈ stricter.names

theorem agrees_iff
    [BEq α]
    [LawfulBEq α]
    (wanted : Option α)
    (value : α) :
    agrees wanted value = true ↔ ∀ one ∈ wanted, value = one := by
  cases wanted with
  | none => simp [agrees]
  | some one => simpa [agrees] using eq_comm

/-- The check of a parameter decides whether it meets the criteria. -/
theorem admits_iff
    (criteria : Criteria)
    (parameter : Parameter) :
    criteria.admits parameter = true ↔ criteria.Met parameter := by
  have listed : criteria.names.all (·.contains parameter.name) = true ↔
      ∀ wanted ∈ criteria.names, parameter.name ∈ wanted := by
    cases criteria.names <;> simp
  simp only [admits, Bool.and_eq_true, agrees_iff, listed]
  constructor
  · rintro ⟨⟨⟨⟨⟨name, hidden⟩, required⟩, serviceConfig⟩, type⟩, names⟩
    exact ⟨name, hidden, required, serviceConfig, type, names⟩
  · intro met
    exact ⟨⟨⟨⟨⟨met.name, met.hidden⟩, met.required⟩, met.serviceConfig⟩, met.type⟩, met.names⟩

/-- What meets stricter criteria meets the criteria. -/
theorem Extends.met
    {stricter criteria : Criteria}
    (more : stricter.Extends criteria)
    {parameter : Parameter}
    (met : stricter.Met parameter) :
    criteria.Met parameter where
  name wanted isSet := met.name wanted (more.name wanted isSet)
  hidden wanted isSet := met.hidden wanted (more.hidden wanted isSet)
  required wanted isSet := met.required wanted (more.required wanted isSet)
  serviceConfig wanted isSet := met.serviceConfig wanted (more.serviceConfig wanted isSet)
  type wanted isSet := met.type wanted (more.type wanted isSet)
  names wanted isSet := met.names wanted (more.names wanted isSet)

/-! ## Places at which a name is met first -/

/-- At the place stands a parameter that meets the criteria, and no parameter of its name before it
does. -/
def FirstMet
    (criteria : Criteria)
    (parameters : List Parameter)
    (place : Fin parameters.length) : Prop :=
  criteria.Met parameters[place] ∧
    ∀ earlier < place, parameters[earlier].name = parameters[place].name →
      ¬criteria.Met parameters[earlier]

section Places

variable
  {criteria : Criteria}
  {parameters : List Parameter}

theorem firstMet_zero_iff
    {parameter : Parameter}
    {rest : List Parameter} :
    criteria.FirstMet (parameter :: rest) (0 : Fin (rest.length + 1)) ↔
      criteria.Met parameter :=
  and_iff_left fun earlier before => absurd before (Fin.not_lt_zero earlier)

/-- Behind a parameter that meets the criteria, its name is not met for the first time. -/
theorem firstMet_succ_iff
    {parameter : Parameter}
    {rest : List Parameter}
    (place : Fin rest.length) :
    criteria.FirstMet (parameter :: rest) (Fin.succ place : Fin (rest.length + 1)) ↔
      criteria.FirstMet rest place ∧
        (parameter.name = rest[place].name → ¬criteria.Met parameter) := by
  unfold FirstMet
  constructor
  · rintro ⟨met, first⟩
    refine ⟨⟨met, fun earlier before => ?_⟩, ?_⟩
    · exact first (Fin.succ earlier : Fin (rest.length + 1)) (Fin.succ_lt_succ_iff.mpr before)
    · exact first (0 : Fin (rest.length + 1)) (Fin.succ_pos place)
  · rintro ⟨⟨met, first⟩, notHere⟩
    refine ⟨met, fun earlier before => ?_⟩
    cases earlier using Fin.cases with
    | zero => exact notHere
    | succ earlier => exact first earlier (Fin.succ_lt_succ_iff.mp before)

/-- A name that is met at a place is met for the first time there or before. -/
theorem exists_firstMet
    (place : Fin parameters.length)
    (met : criteria.Met parameters[place]) :
    ∃ first, criteria.FirstMet parameters first ∧
      parameters[first].name = parameters[place].name := by
  obtain ⟨place, inside⟩ := place
  induction place using Nat.strongRecOn with
  | _ place inductionHypothesis =>
      by_cases metBefore : ∃ earlier < (⟨place, inside⟩ : Fin parameters.length),
          parameters[earlier].name = parameters[place].name ∧ criteria.Met parameters[earlier]
      · obtain ⟨earlier, before, same, metEarlier⟩ := metBefore
        obtain ⟨first, isFirst, alike⟩ :=
          inductionHypothesis earlier before earlier.isLt metEarlier
        exact ⟨first, isFirst, alike.trans same⟩
      · refine ⟨⟨place, inside⟩, ⟨met, fun earlier before same metEarlier => ?_⟩, rfl⟩
        exact metBefore ⟨earlier, before, same, metEarlier⟩

/-- A name that is not met in front of a parameter is met first by it. -/
theorem exists_firstMet_of_append
    {before after : List Parameter}
    {parameter : Parameter}
    (split : parameters = before ++ parameter :: after)
    (met : criteria.Met parameter)
    (unmet : ∀ other ∈ before, other.name = parameter.name → ¬criteria.Met other) :
    ∃ place, criteria.FirstMet parameters place ∧ parameters[place] = parameter := by
  subst split
  have inside : before.length < (before ++ parameter :: after).length := by simp
  have stands : (before ++ parameter :: after)[before.length] = parameter := by simp
  refine ⟨⟨before.length, inside⟩, ⟨?_, fun earlier inFront => ?_⟩, stands⟩
  · simpa using met
  · have front : (before ++ parameter :: after)[earlier] = before[earlier.val] :=
      List.getElem_append_left inFront
    rw [front]
    simpa using unmet before[earlier.val] (List.getElem_mem inFront)

end Places

end Criteria

/-- The places, in their order, at which a name that has not been seen is met for the first time. -/
structure FirstPlaces
    (criteria : Criteria)
    (seen : List String)
    (parameters : List Parameter)
    (places : List (Fin parameters.length)) : Prop where
  ascending : places.Pairwise (· < ·)
  mem_iff : ∀ place, place ∈ places ↔
    parameters[place].name ∉ seen ∧ criteria.FirstMet parameters place

section Steps

variable
  {criteria : Criteria}
  {seen : List String}
  {parameter : Parameter}
  {rest : List Parameter}
  {places : List (Fin rest.length)}

/-- A parameter of a new name that meets the criteria is kept, and its name has been seen from then
on. -/
theorem FirstPlaces.kept
    (met : criteria.Met parameter)
    (unseen : parameter.name ∉ seen)
    (firsts : FirstPlaces criteria (parameter.name :: seen) rest places) :
    FirstPlaces criteria seen (parameter :: rest)
      ((0 : Fin (rest.length + 1)) :: places.map Fin.succ) where
  ascending := by
    rw [List.pairwise_cons, List.pairwise_map]
    exact ⟨by simp, firsts.ascending.imp Fin.succ_lt_succ_iff.mpr⟩
  mem_iff place := by
    cases place using Fin.cases with
    | zero => exact iff_of_true List.mem_cons_self ⟨unseen, Criteria.firstMet_zero_iff.mpr met⟩
    | succ place =>
        rw [List.mem_cons, or_iff_right (Fin.succ_ne_zero place), succ_mem_map_succ,
          firsts.mem_iff, Criteria.firstMet_succ_iff, List.mem_cons, not_or]
        constructor
        · rintro ⟨⟨other, unseenThere⟩, first⟩
          exact ⟨unseenThere, first, fun same => absurd same.symm other⟩
        · rintro ⟨unseenThere, first, unmet⟩
          exact ⟨⟨fun same => unmet same.symm met, unseenThere⟩, first⟩

/-- A parameter that does not meet the criteria, or has a name that has been seen, is passed over.
-/
theorem FirstPlaces.passed
    (passed : criteria.Met parameter → parameter.name ∈ seen)
    (firsts : FirstPlaces criteria seen rest places) :
    FirstPlaces criteria seen (parameter :: rest)
      (places.map Fin.succ : List (Fin (rest.length + 1))) where
  ascending := List.pairwise_map.mpr (firsts.ascending.imp Fin.succ_lt_succ_iff.mpr)
  mem_iff place := by
    cases place using Fin.cases with
    | zero =>
        refine iff_of_false zero_notMem_map_succ fun first => ?_
        exact first.1 (passed (Criteria.firstMet_zero_iff.mp first.2))
    | succ place =>
        rw [succ_mem_map_succ, firsts.mem_iff, Criteria.firstMet_succ_iff]
        constructor
        · rintro ⟨unseenThere, first⟩
          exact ⟨unseenThere, first, fun same met => unseenThere (same ▸ passed met)⟩
        · rintro ⟨unseenThere, first, -⟩
          exact ⟨unseenThere, first⟩

theorem Manifest.firstByName_of_kept
    (met : criteria.Met parameter)
    (unseen : parameter.name ∉ seen) :
    firstByName seen ((parameter :: rest).filter criteria.admits) =
      parameter :: firstByName (parameter.name :: seen) (rest.filter criteria.admits) := by
  rw [List.filter_cons_of_pos ((criteria.admits_iff parameter).mpr met), firstByName]
  exact if_neg (by simpa using unseen)

theorem Manifest.firstByName_of_passed (passed : criteria.Met parameter → parameter.name ∈ seen) :
    firstByName seen ((parameter :: rest).filter criteria.admits) =
      firstByName seen (rest.filter criteria.admits) := by
  by_cases met : criteria.Met parameter
  · rw [List.filter_cons_of_pos ((criteria.admits_iff parameter).mpr met), firstByName]
    exact if_pos (by simpa using passed met)
  · rw [List.filter_cons_of_neg (mt (criteria.admits_iff parameter).mp met)]

end Steps

namespace Manifest

/-- Of the parameters whose names have not been seen, those are kept that are first to meet the
criteria under their names. -/
theorem exists_firstPlaces
    (criteria : Criteria)
    (seen : List String)
    (parameters : List Parameter) :
    ∃ places, FirstPlaces criteria seen parameters places ∧
      firstByName seen (parameters.filter criteria.admits) = places.map (parameters[·]) := by
  -- Every parameter that is kept adds a name to those that have been seen.
  induction parameters generalizing seen with
  | nil => exact ⟨[], ⟨.nil, fun place => place.elim0⟩, rfl⟩
  | cons parameter rest inductionHypothesis =>
      by_cases kept : criteria.Met parameter ∧ parameter.name ∉ seen
      · obtain ⟨met, unseen⟩ := kept
        obtain ⟨places, firsts, shown⟩ := inductionHypothesis (parameter.name :: seen)
        refine ⟨_, firsts.kept met unseen, ?_⟩
        rw [firstByName_of_kept met unseen, shown, List.map_cons, List.map_map]
        rfl
      · have passed : criteria.Met parameter → parameter.name ∈ seen := fun met =>
          not_not.mp fun unseen => kept ⟨met, unseen⟩
        obtain ⟨places, firsts, shown⟩ := inductionHypothesis seen
        refine ⟨_, firsts.passed passed, ?_⟩
        rw [firstByName_of_passed passed, shown, List.map_map]
        rfl

/-- A list shows the parameters of a file that criteria select. -/
structure Selects
    (manifest : Manifest)
    (criteria : Criteria)
    (selected : List Parameter) : Prop where
  /-- In the order of the file, it shows the places at which a name is met for the first time. -/
  inOrder : ∃ places : List (Fin manifest.parameters.length), places.Pairwise (· < ·) ∧
    (∀ place, place ∈ places ↔ criteria.FirstMet manifest.parameters place) ∧
    selected = places.map (manifest.parameters[·])
  /-- It shows no name twice. -/
  distinct : (selected.map (·.name)).Nodup
  /-- It shows the name of every parameter that meets the criteria. -/
  represented : ∀ parameter ∈ manifest.parameters, criteria.Met parameter →
    parameter.name ∈ selected.map (·.name)
  /-- Parameters that do not meet the criteria hide none of their name that does. -/
  unhidden : ∀ before parameter after, manifest.parameters = before ++ parameter :: after →
    criteria.Met parameter →
      (∀ other ∈ before, other.name = parameter.name → ¬criteria.Met other) →
        parameter ∈ selected

theorem selects_select
    (manifest : Manifest)
    (criteria : Criteria) :
    manifest.Selects criteria (manifest.select criteria) := by
  obtain ⟨places, ⟨ascending, firsts⟩, shown⟩ :=
    exists_firstPlaces criteria [] manifest.parameters
  simp only [List.not_mem_nil, not_false_eq_true, true_and] at firsts
  rw [select, shown]
  refine ⟨⟨places, ascending, firsts, rfl⟩, ?_, ?_, ?_⟩
  · rw [List.map_map]
    apply List.pairwise_map.mpr
    apply ascending.imp_of_mem
    intro earlier later isPlace isLater before same
    exact ((firsts later).mp isLater).2 earlier before same ((firsts earlier).mp isPlace).1
  · intro parameter member met
    obtain ⟨place, inside, rfl⟩ := List.getElem_of_mem member
    obtain ⟨first, isFirst, same⟩ := Criteria.exists_firstMet ⟨place, inside⟩ met
    rw [List.map_map]
    exact List.mem_map.mpr ⟨first, (firsts first).mpr isFirst, same⟩
  · intro before parameter after split met unmet
    obtain ⟨place, isFirst, stands⟩ := Criteria.exists_firstMet_of_append split met unmet
    exact List.mem_map.mpr ⟨place, (firsts place).mpr isFirst, stands⟩

/-- A selection shows, in the order of the file, the first parameter of each name that meets all
criteria that are set, and no other; further criteria add no name to it. -/
theorem selected_at_first_match
    (manifest : Manifest)
    (criteria : Criteria) :
    manifest.Selects criteria (manifest.select criteria) ∧
      ∀ stricter : Criteria, stricter.Extends criteria →
        (manifest.select stricter).map (·.name) ⊆ (manifest.select criteria).map (·.name) := by
  have selects := manifest.selects_select criteria
  refine ⟨selects, fun stricter more name shown => ?_⟩
  obtain ⟨places, -, firsts, selected⟩ := (manifest.selects_select stricter).inOrder
  rw [selected, List.map_map] at shown
  obtain ⟨place, isPlace, rfl⟩ := List.mem_map.mp shown
  apply selects.represented _ (List.getElem_mem _)
  exact more.met ((firsts place).mp isPlace).1

/-- A required text stands before a choice of the same name, and does not hide it from those who ask
for what may be left out. -/
theorem selected_at_first_match_of_namesake :
    ∃ manifest choice, Manifest.codec.read? repeatedName = some manifest ∧
      choice.label = "Owners" ∧ choice ∈ manifest.select { required := some false } ∧
        (manifest.select { required := some false, type := some .multiChoice }).map (·.name) ⊆
          (manifest.select { required := some false }).map (·.name) := by
  obtain ⟨manifest, reads⟩ : ∃ manifest, Manifest.codec.read? repeatedName = some manifest :=
    Option.isSome_iff_exists.mp (by decide +kernel)
  have declares : (Manifest.codec.read? repeatedName).map (fun manifest =>
      manifest.parameters.map fun parameter => (parameter.label, parameter.required)) =
        some [("Owner", true), ("Owners", false)] := by
    decide +kernel
  rw [reads, Option.map_some, Option.some.injEq, List.map_eq_cons_iff] at declares
  obtain ⟨text, others, split, isText, last⟩ := declares
  obtain ⟨choice, rfl, isChoice⟩ := List.map_eq_singleton_iff.mp last
  obtain ⟨selects, further⟩ := selected_at_first_match manifest { required := some false }
  refine ⟨manifest, choice, reads, (Prod.mk.inj isChoice).1, ?_, ?_⟩
  · apply selects.unhidden [text] choice [] split
    · exact ⟨by simp, by simp, by simp [(Prod.mk.inj isChoice).2], by simp, by simp, by simp⟩
    · intro other inside _ met
      rw [List.mem_singleton.mp inside] at met
      have optional := met.required false rfl
      rw [(Prod.mk.inj isText).2] at optional
      cases optional
  · apply further
    exact ⟨by simp, by simp, by simp, by simp, by simp, by simp⟩

end Manifest
end App
end ThreatIntel
