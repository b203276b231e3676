import Mathlib.Data.List.Induction
import Mathlib.Data.List.Nodup
import ThreatIntel.App.Layout
import ThreatIntel.App.Manifest

/-!
# Views on the parameters of an app

Several parameters of an app may be declared under one name. The search for a name and the selection
without criteria show the first of them; in a map the last one stands under the name. Main
statement: this is what the views show, and so they agree on a name exactly if its first and its
last declaration are the same, and all its declarations are required alike and configure a service
alike.
-/

namespace ThreatIntel

namespace Members

theorem ofList_concat (pairs : List (String × α)) (pair : String × α) :
    ofList (pairs ++ [pair]) = insert pair.1 pair.2 (ofList pairs) := by
  simp [ofList]

/-- In a map of items under their names, the last item of a name stands under it. -/
theorem get?_ofList_named
    (name : α → String)
    (items : List α)
    (key : String) :
    get? key (ofList (items.map fun item => (name item, item))) =
      (items.filter (name · == key)).getLast? := by
  induction items using List.reverseRecOn with
  | nil => rfl
  | append_singleton items item inductionHypothesis =>
      rw [List.map_append, List.map_singleton, ofList_concat, get?_insert, inductionHypothesis,
        List.filter_append]
      by_cases same : name item = key
      · simp [same]
      · have other : ¬key = name item := fun equal => same equal.symm
        simp [same, other]

/-- Of two maps just one has something under a name, and this is it. -/
def OneHas (key : String) (value : α) (first second : List (String × α)) : Prop :=
  (get? key first = some value ∧ get? key second = none) ∨
    (get? key first = none ∧ get? key second = some value)

/-- When items are dealt out to two maps, just one of them has something under a name if the items
of this name all go into the same map; and this is the last of them. -/
theorem oneHas_iff
    (name : α → String)
    (items : List α)
    (key : String)
    (goesFirst : α → Bool)
    (value : α) :
    OneHas key value
        (ofList ((items.filter goesFirst).map fun item => (name item, item)))
        (ofList ((items.filter (!goesFirst ·)).map fun item => (name item, item))) ↔
      (items.filter (name · == key)).getLast? = some value ∧
        ∀ other ∈ items.filter (name · == key), goesFirst other = goesFirst value := by
  have named : ∀ goes : α → Bool, (items.filter goes).filter (name · == key) =
      (items.filter (name · == key)).filter goes := by
    intro goes
    simp only [List.filter_filter, Bool.and_comm]
  unfold OneHas
  simp only [get?_ofList_named, named]
  generalize items.filter (name · == key) = declared
  constructor
  · rintro (⟨last, nothing⟩ | ⟨nothing, last⟩)
    · rw [List.getLast?_eq_none_iff, List.filter_eq_nil_iff] at nothing
      have all : ∀ other ∈ declared, goesFirst other = true := by simpa using nothing
      rw [List.filter_eq_self.mpr all] at last
      exact ⟨last, fun other member => by
        rw [all other member, all value (List.mem_of_getLast? last)]⟩
    · rw [List.getLast?_eq_none_iff, List.filter_eq_nil_iff] at nothing
      have none : ∀ other ∈ declared, goesFirst other = false := by simpa using nothing
      rw [List.filter_eq_self.mpr (by simpa using none)] at last
      exact ⟨last, fun other member => by
        rw [none other member, none value (List.mem_of_getLast? last)]⟩
  · rintro ⟨last, alike⟩
    cases goes : goesFirst value with
    | true =>
        rw [goes] at alike
        left
        rw [List.filter_eq_self.mpr alike, List.getLast?_eq_none_iff, List.filter_eq_nil_iff]
        exact ⟨last, by simpa using alike⟩
    | false =>
        rw [goes] at alike
        have others : declared.filter (!goesFirst ·) = declared :=
          List.filter_eq_self.mpr (by simpa using alike)
        right
        rw [others, List.getLast?_eq_none_iff, List.filter_eq_nil_iff]
        exact ⟨by simpa using alike, last⟩

end Members

namespace App

namespace Manifest

/-- The parameters that are declared under a name, in their order. -/
def declared (manifest : Manifest) (name : String) : List Parameter :=
  manifest.parameters.filter (·.name == name)

/-- The selection without criteria: every parameter is admitted. -/
theorem filter_admits_default (parameters : List Parameter) :
    parameters.filter ({} : Criteria).admits = parameters :=
  List.filter_eq_self.mpr fun _ _ => rfl

/-- Of each name that has not been seen, the first parameter is kept. -/
theorem filter_firstByName
    (seen : List String)
    (parameters : List Parameter)
    (name : String) :
    (firstByName seen parameters).filter (·.name == name) =
      if seen.contains name then [] else (parameters.find? (·.name == name)).toList := by
  induction parameters generalizing seen with
  | nil => simp [firstByName]
  | cons parameter rest inductionHypothesis =>
      rw [firstByName]
      by_cases same : parameter.name = name
      · subst same
        cases known : seen.contains parameter.name with
        | true => simp only [if_true, inductionHypothesis, known]
        | false => simp [inductionHypothesis]
      · have other : ¬name = parameter.name := fun equal => same equal.symm
        cases known : seen.contains parameter.name with
        | true => simp [inductionHypothesis, same]
        | false => simp [inductionHypothesis, same, other]

/-- What the views show under a name: the search and the selection the first parameter that is
declared, and each map the last of those that it takes. -/
structure Shows (manifest : Manifest) (name : String) : Prop where
  /-- The search. -/
  found : manifest.parameter? name = (manifest.declared name).head?
  /-- The selection without criteria. -/
  selected : (manifest.select {}).filter (·.name == name) =
    (manifest.declared name).head?.toList
  /-- The map of all parameters. -/
  mapped : Members.get? name manifest.parametersByName = (manifest.declared name).getLast?
  /-- The map of the required ones. -/
  required : Members.get? name manifest.requiredByName =
    ((manifest.declared name).filter (·.required)).getLast?
  /-- The map of the others. -/
  optional : Members.get? name manifest.optionalByName =
    ((manifest.declared name).filter (!·.required)).getLast?
  /-- The map of those that configure a service. -/
  serviceConfig : Members.get? name manifest.serviceConfigByName =
    ((manifest.declared name).filter (·.serviceConfig)).getLast?
  /-- The map of those that do not. -/
  servicePlaybook : Members.get? name manifest.servicePlaybookByName =
    ((manifest.declared name).filter (!·.serviceConfig)).getLast?

theorem shows (manifest : Manifest) (name : String) : manifest.Shows name := by
  have mapped : ∀ takes : Parameter → Bool,
      Members.get? name (byName (manifest.parameters.filter takes)) =
        ((manifest.declared name).filter takes).getLast? := by
    intro takes
    rw [byName, Members.get?_ofList_named, declared, List.filter_filter, List.filter_filter]
    simp only [Bool.and_comm]
  refine ⟨?_, ?_, ?_, mapped _, mapped _, mapped _, mapped _⟩
  · rw [parameter?, declared, List.head?_filter]
  · rw [select, filter_admits_default, filter_firstByName, declared, List.head?_filter]
    simp
  · exact Members.get?_ofList_named (·.name) manifest.parameters name

/-- All views show one parameter under a name, and of the maps that share out the parameters just
one has something under it. -/
structure Agree (manifest : Manifest) (name : String) (parameter : Parameter) : Prop where
  /-- The search finds it. -/
  found : manifest.parameter? name = some parameter
  /-- It stands in the map of all parameters. -/
  mapped : Members.get? name manifest.parametersByName = some parameter
  /-- It alone is selected without criteria. -/
  selected : (manifest.select {}).filter (·.name == name) = [parameter]
  /-- It is either required or not. -/
  required : Members.OneHas name parameter manifest.requiredByName manifest.optionalByName
  /-- It either configures a service or does not. -/
  service : Members.OneHas name parameter manifest.serviceConfigByName
    manifest.servicePlaybookByName

theorem agree_iff
    (manifest : Manifest)
    (name : String)
    (parameter : Parameter) :
    manifest.Agree name parameter ↔
      (manifest.declared name).head? = some parameter ∧
        (manifest.declared name).getLast? = some parameter ∧
          ∀ other ∈ manifest.declared name,
            other.required = parameter.required ∧
              other.serviceConfig = parameter.serviceConfig := by
  have views := manifest.shows name
  have required := Members.oneHas_iff (·.name) manifest.parameters name (·.required) parameter
  have service := Members.oneHas_iff (·.name) manifest.parameters name (·.serviceConfig) parameter
  constructor
  · intro agree
    obtain ⟨last, alike⟩ := required.mp agree.required
    obtain ⟨-, alikeForServices⟩ := service.mp agree.service
    exact ⟨views.found ▸ agree.found, last, fun other member =>
      ⟨alike other member, alikeForServices other member⟩⟩
  · rintro ⟨first, last, alike⟩
    refine ⟨?_, ?_, ?_, ?_, ?_⟩
    · rw [views.found, first]
    · rw [views.mapped, last]
    · rw [views.selected, first]
      rfl
    · exact required.mpr ⟨last, fun other member => (alike other member).1⟩
    · exact service.mpr ⟨last, fun other member => (alike other member).2⟩

/-- Where no name is declared twice, all views agree on every parameter. -/
theorem agree_of_nodup
    {manifest : Manifest}
    (distinct : manifest.parameterNames.Nodup)
    {parameter : Parameter}
    (member : parameter ∈ manifest.parameters) :
    manifest.Agree parameter.name parameter := by
  have alone : manifest.declared parameter.name = [parameter] := by
    obtain ⟨before, after, split⟩ := List.append_of_mem member
    rw [parameterNames, split, List.map_append, List.map_cons, List.nodup_middle,
      List.nodup_cons, List.mem_append, not_or] at distinct
    obtain ⟨⟨notBefore, notAfter⟩, -⟩ := distinct
    have none : ∀ {others : List Parameter}, parameter.name ∉ others.map (·.name) →
        others.filter (·.name == parameter.name) = [] := by
      intro others absent
      refine List.filter_eq_nil_iff.mpr fun other inside same => absent ?_
      exact List.mem_map.mpr ⟨other, inside, by simpa using same⟩
    rw [declared, split, List.filter_append, none notBefore, List.filter_cons_of_pos (by simp),
      none notAfter]
    rfl
  rw [agree_iff, alone]
  simp

end Manifest

namespace Layout

/-- The outputs that are declared under a name, in their order. -/
def declaredOutputs (layout : Layout) (name : String) : List LayoutItem :=
  layout.outputs.filter (·.name == name)

theorem output?_eq (layout : Layout) (name : String) :
    layout.output? name = (layout.declaredOutputs name).head? := by
  rw [output?, declaredOutputs, List.head?_filter]

theorem get?_outputsByName (layout : Layout) (name : String) :
    Members.get? name layout.outputsByName = (layout.declaredOutputs name).getLast? :=
  Members.get?_ofList_named LayoutItem.name layout.outputs name

end Layout

/-- What the views of the app files show under a name, whether it is repeated or not, and when they
agree on it: if the first and the last declaration of the name are the same, and if all declarations
of a parameter are required alike and configure a service alike. -/
theorem views_of_names
    (manifest : Manifest)
    (layout : Layout)
    (name : String) :
    (manifest.Shows name ∧
      ∀ parameter, manifest.Agree name parameter ↔
        (manifest.declared name).head? = some parameter ∧
          (manifest.declared name).getLast? = some parameter ∧
            ∀ other ∈ manifest.declared name,
              other.required = parameter.required ∧
                other.serviceConfig = parameter.serviceConfig) ∧
    layout.output? name = (layout.declaredOutputs name).head? ∧
      Members.get? name layout.outputsByName = (layout.declaredOutputs name).getLast? ∧
        (layout.output? name = Members.get? name layout.outputsByName ↔
          (layout.declaredOutputs name).head? = (layout.declaredOutputs name).getLast?) := by
  have found := layout.output?_eq name
  have mapped := layout.get?_outputsByName name
  exact ⟨⟨manifest.shows name, manifest.agree_iff name⟩, found, mapped, by rw [found, mapped]⟩

/-- A manifest that declares one name twice, once for a required text and once for a choice that may
be left out. -/
def repeatedName : Document :=
  .object [
    (some "displayName", .text "Feed"),
    (some "programLanguage", .text "PYTHON"),
    (some "programMain", .text "run"),
    (some "programVersion", .text "1.0.0"),
    (some "runtimeLevel", .text "Playbook"),
    (some "params", .array [
      .object [
        (some "name", .text "owner"),
        (some "label", .text "Owner"),
        (some "type", .text "String"),
        (some "required", .boolean true)],
      .object [
        (some "name", .text "owner"),
        (some "label", .text "Owners"),
        (some "type", .text "MultiChoice")]])]

/-- An app with a manifest that declares a name twice: the search finds the required text, the map
of all parameters has the choice, and the name stands among the required parameters and among the
others. The views of a layout do not agree on an output that is declared twice either. -/
theorem not_views_agree_of_repeated_name :
    (∃ manifest, Manifest.codec.read? repeatedName = some manifest ∧ manifest.check = .ok () ∧
      "owner" ∈ manifest.parameterNames ∧
      (manifest.parameter? "owner").map (·.label) = some "Owner" ∧
      (Members.get? "owner" manifest.parametersByName).map (·.label) = some "Owners" ∧
      "owner" ∈ manifest.requiredByName.map (·.1) ∧ "owner" ∈ manifest.optionalByName.map (·.1) ∧
      ¬∃ parameter, manifest.Agree "owner" parameter) ∧
    let layout : Layout := ⟨[], [⟨"result", some "first"⟩, ⟨"result", some "last"⟩]⟩
    layout.output? "result" ≠ Members.get? "result" layout.outputsByName := by
  have shown : ((Manifest.codec.read? repeatedName).all fun manifest =>
      manifest.unfairMembers = [] ∧ "owner" ∈ manifest.parameterNames ∧
      (manifest.parameter? "owner").map (·.label) = some "Owner" ∧
      (Members.get? "owner" manifest.parametersByName).map (·.label) = some "Owners" ∧
      "owner" ∈ manifest.requiredByName.map (·.1) ∧
      "owner" ∈ manifest.optionalByName.map (·.1)) = true := by
    decide +kernel
  obtain ⟨manifest, reads⟩ : ∃ manifest, Manifest.codec.read? repeatedName = some manifest :=
    Option.isSome_iff_exists.mp (by decide +kernel)
  rw [reads, Option.all_some, decide_eq_true_eq] at shown
  obtain ⟨fair, declared, found, mapped, required, optional⟩ := shown
  have valid : manifest.check = .ok () := by simp [Manifest.check, fair]
  refine ⟨⟨manifest, reads, valid, declared, found, mapped, required, optional, ?_⟩, by decide⟩
  rintro ⟨parameter, agree⟩
  rw [agree.found] at found
  rw [agree.mapped] at mapped
  exact absurd (found.symm.trans mapped) (by decide)

end App
end ThreatIntel
