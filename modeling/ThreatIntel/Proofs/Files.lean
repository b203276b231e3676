import ThreatIntel.Files

/-!
# Written files

Writing a text puts it at one place, and leaves all folders as they were; so every path leads where
it led before. Main statements: a text that has been written to a path is found there, and a second
text written to the path leaves nothing of the first.
-/

namespace ThreatIntel
namespace Files

/-- The files with a text at a place, in the stead of whatever stood there. -/
def put (files : Files) (place : List String) (content : String) : Files :=
  { files with
    nodes := (place, .file content) :: files.nodes.filter fun entry => entry.1 ≠ place }

variable
  {files : Files}
  {place : List String}

/-- A text at the place puts no folder away, and lies in a folder. -/
structure Accepts (files : Files) (place : List String) : Prop where
  notFolder : files.node? place ≠ some .folder
  inFolder : files.node? place.dropLast = some .folder

/-- A text can be written to the paths that lead to a place which accepts one. -/
theorem write?_eq_some_iff
    {path content : String}
    {written : Files} :
    files.write? path content = some written ↔
      ∃ place, files.locate? path = some place ∧ files.Accepts place ∧
        files.put place content = written := by
  unfold write?
  cases files.locate? path with
  | none => simp
  | some place =>
      simp only [Option.bind_eq_bind, Option.bind_some, Option.ite_none_left_eq_some, not_or,
        ne_eq, Classical.not_not, Option.some.injEq]
      constructor
      · rintro ⟨⟨notFolder, inFolder⟩, rfl⟩
        exact ⟨place, rfl, ⟨notFolder, inFolder⟩, rfl⟩
      · rintro ⟨_, rfl, ⟨notFolder, inFolder⟩, rfl⟩
        exact ⟨⟨notFolder, inFolder⟩, rfl⟩

/-! ## Folders -/

/-- Something lies at the place or behind it. -/
def IsPassed (files : Files) (place : List String) : Prop :=
  leadsTo place files.here = true ∨ ∃ entry ∈ files.nodes, leadsTo place entry.1 = true

theorem node?_eq_folder_iff :
    files.node? place = some .folder ↔
      files.nodes.lookup place = some .folder ∨
        files.nodes.lookup place = none ∧ files.IsPassed place := by
  unfold node? IsPassed
  cases found : files.nodes.lookup place with
  | some node => simp
  | none => cases inside : leadsTo place files.here <;> simp

theorem mem_of_lookup_eq_some
    {nodes : List (List String × Node)}
    {node : Node}
    (found : nodes.lookup place = some node) :
    (place, node) ∈ nodes := by
  obtain ⟨front, back, rfl, -⟩ := List.lookup_eq_some_iff.mp found
  simp

/-- Something lies at every folder or behind it. -/
theorem isPassed_of_folder (folder : files.node? place = some .folder) : files.IsPassed place := by
  rcases node?_eq_folder_iff.mp folder with found | ⟨-, passed⟩
  · exact .inr ⟨_, mem_of_lookup_eq_some found, List.isPrefixOf_iff_prefix.mpr (List.prefix_refl _)⟩
  · exact passed

theorem IsPassed.of_leadsTo
    {target : List String}
    (leads : leadsTo target place = true)
    (passed : files.IsPassed place) :
    files.IsPassed target := by
  have onward {behind : List String} (further : leadsTo place behind = true) :
      leadsTo target behind = true :=
    List.isPrefixOf_iff_prefix.mpr ((List.isPrefixOf_iff_prefix.mp leads).trans
      (List.isPrefixOf_iff_prefix.mp further))
  exact passed.imp onward fun ⟨entry, member, further⟩ => ⟨entry, member, onward further⟩

/-- What leads to a place and is not the place leads to the folder around it. -/
theorem leadsTo_dropLast
    {target : List String}
    (other : target ≠ place)
    (leads : leadsTo target place = true) :
    leadsTo target place.dropLast = true := by
  have front : target <+: place := List.isPrefixOf_iff_prefix.mp leads
  rcases place.eq_nil_or_concat with rfl | ⟨folder, name, rfl⟩
  · exact absurd (List.prefix_nil.mp front) other
  · rw [List.concat_eq_append] at front other ⊢
    rw [List.dropLast_concat]
    exact List.isPrefixOf_iff_prefix.mpr ((List.prefix_concat_iff.mp front).resolve_left other)

/-! ## Other places -/

theorem lookup_filter_ne
    {target : List String}
    (other : target ≠ place)
    (nodes : List (List String × Node)) :
    (nodes.filter fun entry => entry.1 ≠ place).lookup target = nodes.lookup target := by
  induction nodes with
  | nil => rfl
  | cons entry nodes inductionHypothesis =>
      obtain ⟨found, node⟩ := entry
      by_cases here : found = place
      · subst here
        have differs : (target == found) = false := beq_false_of_ne other
        rw [List.filter_cons_of_neg (by simp), List.lookup_cons, differs]
        exact inductionHypothesis
      · rw [List.filter_cons_of_pos (by simpa using here), List.lookup_cons, List.lookup_cons,
          inductionHypothesis]

theorem lookup_put_of_ne
    {target : List String}
    (other : target ≠ place)
    (content : String) :
    (files.put place content).nodes.lookup target = files.nodes.lookup target := by
  have differs : (target == place) = false := beq_false_of_ne other
  rw [put, List.lookup_cons, differs]
  exact lookup_filter_ne other files.nodes

theorem node?_put_self (content : String) :
    (files.put place content).node? place = some (.file content) := by
  simp [node?, put]

/-- A text leaves every folder as it was, and makes none. -/
theorem node?_put_eq_folder_iff
    (accepts : files.Accepts place)
    (content : String)
    (target : List String) :
    (files.put place content).node? target = some .folder ↔ files.node? target = some .folder := by
  by_cases here : target = place
  · subst here
    rw [node?_put_self]
    exact ⟨nofun, fun folder => absurd folder accepts.notFolder⟩
  · rw [node?_eq_folder_iff, node?_eq_folder_iff, lookup_put_of_ne here]
    refine or_congr Iff.rfl (and_congr Iff.rfl ⟨fun passed => ?_, fun passed => ?_⟩)
    · rcases passed with inside | ⟨entry, member, leads⟩
      · exact .inl inside
      · rcases List.mem_cons.mp member with rfl | old
        · exact (isPassed_of_folder accepts.inFolder).of_leadsTo (leadsTo_dropLast here leads)
        · exact .inr ⟨entry, (List.mem_filter.mp old).1, leads⟩
    · rcases passed with inside | ⟨entry, member, leads⟩
      · exact .inl inside
      · by_cases replaced : entry.1 = place
        · exact .inr ⟨_, List.mem_cons_self, replaced ▸ leads⟩
        · have kept : entry ∈ files.nodes.filter fun entry => entry.1 ≠ place :=
            List.mem_filter.mpr ⟨member, by simpa using replaced⟩
          exact .inr ⟨entry, List.mem_cons_of_mem _ kept, leads⟩

/-- Every path leads where it led before. -/
theorem locate?_put
    (accepts : files.Accepts place)
    (content path : String) :
    (files.put place content).locate? path = files.locate? path := by
  have steps : (files.put place content).step? = files.step? := by
    funext folder segment
    simp only [step?, node?_put_eq_folder_iff accepts content folder]
  rw [locate?, locate?, steps]
  rfl

/-! ## Written texts -/

section Write

variable
  {path content : String}
  {written : Files}

/-- A text that has been written to a path is found there. -/
theorem read?_of_write? (writes : files.write? path content = some written) :
    written.read? path = some content := by
  obtain ⟨place, leads, accepts, rfl⟩ := write?_eq_some_iff.mp writes
  rw [read?, locate?_put accepts, leads]
  simp [node?_put_self]

/-- A second text leaves nothing of the first. -/
theorem write?_of_write?
    (writes : files.write? path content = some written)
    (other : String) :
    written.write? path other = files.write? path other := by
  obtain ⟨place, leads, accepts, rfl⟩ := write?_eq_some_iff.mp writes
  have again : (files.put place content).Accepts place := by
    refine ⟨?_, (node?_put_eq_folder_iff accepts content _).mpr accepts.inFolder⟩
    rw [node?_put_self]
    nofun
  have replaced : (files.put place content).put place other = files.put place other := by
    simp [put]
  have leadsAgain : (files.put place content).locate? path = some place :=
    (locate?_put accepts content path).trans leads
  rw [write?_eq_some_iff.mpr ⟨place, leads, accepts, rfl⟩]
  exact write?_eq_some_iff.mpr ⟨place, leadsAgain, again, replaced⟩

end Write

end Files
end ThreatIntel
