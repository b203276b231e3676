import ThreatIntel.Command.Run
import ThreatIntel.Proofs.Command.Tasks
import ThreatIntel.Proofs.Staging.Folders

/-!
# Staging a folder

The command that stages a folder loads all of its stage files before it sends anything. Main
statement: it takes the items of all of them, in the order of their names, however the folder is
listed, or it fails without a request.
-/

namespace ThreatIntel
namespace Command

/-- Items that cannot be loaded end the command before it sends or prints anything. -/
theorem outcome_stage_of_refused
    {disk : Disk}
    {folder : String}
    {names : List String}
    {error : Error}
    (listed : disk.names? folder = some names)
    (refused : Staging.loadFolder disk folder = .error error)
    (surroundings : Surroundings)
    (settings : Except Error Settings)
    (format : OutputFormat)
    (owner : Option String)
    (progress : Progress) :
    ∃ error, (perform surroundings settings format (.stage folder owner) disk).outcome progress =
      (.error error, progress) := by
  rw [perform, Task.outcome_bind, Task.outcome_lift]
  cases connect surroundings.network settings with
  | error cause => exact ⟨cause, rfl⟩
  | ok connection =>
      refine ⟨error, ?_⟩
      simp only [stageRecords, listed, refused, Option.isSome_some, if_true, Task.outcome_bind,
        Task.outcome_lift]

/-- A folder is staged as a whole or not at all: the items of all its stage files are taken, file by
file in the order of their names, in whatever order the folder is listed; and if one of these files
states no items, nothing is sent. What a file states never depends on which of the two ways to read
it is tried first, although an item may be written as a list of its members. -/
theorem folder_staged_whole :
    (∀ (disk : Disk) (folder : String) (names : List String), disk.names? folder = some names →
      ∃ staged, Staging.Staged disk folder names staged ∧
        (∀ items, Staging.loadFolder disk folder = .ok items ↔ ∃ parts,
          List.Forall₂ (fun name part => Staging.Contains disk (Files.join folder name) part)
            staged parts ∧ parts.flatten = items) ∧
        ((∃ name ∈ staged, ∀ part, ¬Staging.Contains disk (Files.join folder name) part) →
          (∃ error, Staging.loadFolder disk folder = .error error ∧
            (error.kind = .io ∨ error.kind = .validation)) ∧
          ∀ surroundings settings format owner progress, ∃ error,
            (perform surroundings settings format (.stage folder owner) disk).outcome progress =
              (.error error, progress))) ∧
    (∀ (disk other : Disk) (folder : String) (names others : List String), names.Perm others →
      disk.names? folder = some names → other.names? folder = some others →
      other.isFile = disk.isFile → other.read? = disk.read? →
      Staging.loadFolder other folder = Staging.loadFolder disk folder) ∧
    (∀ name, Staging.isStageName name = true ↔
      ∃ middle, name = "tc_stage_" ++ middle ++ ".json") ∧
    (∀ document items item, (Codec.list Staging.Item.codec).read? document = some items →
      Staging.Item.codec.read? document ≠ some item) ∧
    (∀ document, Staging.ofDocument? document = do
      let _ ← document.toJson?
      (Staging.Item.codec.read? document).map ([·]) <|>
        (Codec.list Staging.Item.codec).read? document) ∧
    ∀ kind data binary,
      Staging.Item.codec.read? (.array [kind, data]) =
        Staging.Item.codec.read? (.object [(some "type", kind), (some "data", data)]) ∧
      Staging.Item.codec.read? (.array [kind, data, binary]) =
        Staging.Item.codec.read? (.object
          [(some "type", kind), (some "data", data), (some "binary", binary)]) := by
  refine ⟨?_, ?_, fun _ => Staging.isStageName_iff, ?_,
    Staging.ofDocument?_eq_in_other_order, fun kind data binary =>
      ⟨Staging.Item.read?_array_of_two kind data, Staging.Item.read?_array kind data binary⟩⟩
  · intro disk folder names listed
    obtain ⟨staged, inOrder, -⟩ := Staging.exists_staged disk folder names
    refine ⟨staged, inOrder, fun _ => Staging.loadFolder_eq_ok_iff listed inOrder, ?_⟩
    intro broken
    obtain ⟨error, refused, kind⟩ := Staging.exists_error_of_loadFolder listed inOrder broken
    exact ⟨⟨error, refused, kind⟩, outcome_stage_of_refused listed refused⟩
  · intro disk other folder names others same listed listedToo files texts
    exact Staging.loadFolder_eq_of_perm same listed listedToo files texts
  · intro document items item many single
    cases (Staging.Item.read?_eq_none_of_list many).symm.trans single

theorem folder_staged_whole_of_two :
    let texts : List (String × String) := [
      ("s/tc_stage_a.json", "[\x7b\"type\":\"indicator\",\"data\":1\x7d,[\"task\",2]]"),
      ("s/tc_stage_b.json", "[\"tags\",3]")]
    let disk (names : List String) : Disk :=
      ⟨fun path => if path = "s" then some names else none,
        fun path => (List.lookup path texts).isSome, fun path => List.lookup path texts,
        fun _ => none⟩
    let names := ["tc_stage_b.json", "other.json", "tc_stage_a.json"]
    Staging.loadFolder (disk names.reverse) "s" =
      .ok [⟨.indicator, .whole 1, []⟩, ⟨.task, .whole 2, []⟩, ⟨.tag, .whole 3, []⟩] := by
  intro texts disk names
  obtain ⟨whole, reordered, -⟩ := folder_staged_whole
  have same := reordered (disk names) (disk names.reverse) "s" names names.reverse
    (List.reverse_perm names).symm rfl rfl rfl rfl
  obtain ⟨staged, inOrder, loaded, -⟩ := whole (disk names) "s" names rfl
  have found : names.filter (fun name => Staging.isStageName name &&
      (disk names).isFile (Files.join "s" name)) = ["tc_stage_b.json", "tc_stage_a.json"] := by
    decide +kernel
  obtain rfl : staged = ["tc_stage_a.json", "tc_stage_b.json"] := by
    refine inOrder.unique (.refl names) ⟨?_, by decide +kernel⟩
    rw [found]
    exact .swap _ _ _
  have first : Staging.Contains (disk names) (Files.join "s" "tc_stage_a.json")
      [⟨.indicator, .whole 1, []⟩, ⟨.task, .whole 2, []⟩] := by
    have reads : (Document.ofText? "[\x7b\"type\":\"indicator\",\"data\":1\x7d,[\"task\",2]]").bind
        Staging.ofDocument? = some [⟨.indicator, .whole 1, []⟩, ⟨.task, .whole 2, []⟩] := by
      decide +kernel
    exact Staging.contains_iff.mpr ⟨_, by decide +kernel, reads⟩
  have second : Staging.Contains (disk names) (Files.join "s" "tc_stage_b.json")
      [⟨.tag, .whole 3, []⟩] :=
    Staging.contains_iff.mpr ⟨"[\"tags\",3]", by decide +kernel, by decide +kernel⟩
  rw [same, loaded]
  exact ⟨_, .cons first (.cons second .nil), rfl⟩

end Command
end ThreatIntel
