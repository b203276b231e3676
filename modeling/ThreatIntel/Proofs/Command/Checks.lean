import ThreatIntel.Command.Run
import ThreatIntel.Proofs.App.Sections
import ThreatIntel.Proofs.Command.Tasks

/-!
# The command that checks an app

The command complains about a package without a name and about every parameter that a section shows
and the app does not declare. Main statement: it prints one complaint for each of these, the
parameters section by section, and fails with their number unless there is none.
-/

namespace ThreatIntel
namespace Command

/-! ## Files of an app -/

/-- What is loaded from a file that an app may do without. -/
inductive Stands
    (load : Disk → String → Except Error α)
    (disk : Disk)
    (path : String) : Option α → Prop
  | absent
      (noFile : disk.isFile path = false) :
      Stands load disk path none
  | present
      {value : α}
      (file : disk.isFile path = true)
      (loaded : load disk path = .ok value) :
      Stands load disk path (some value)

/-- What the files of an app say. -/
structure AppFiles where
  /-- What the app declares. -/
  manifest : App.Manifest
  /-- How it is packed. -/
  package : Option App.Package
  /-- How its parameters are shown. -/
  layout : Option App.Layout

namespace AppFiles

/-- The files stand in a folder. -/
structure StandIn (files : AppFiles) (disk : Disk) (folder : String) : Prop where
  manifest : App.Manifest.load disk (Files.join folder "install.json") = .ok files.manifest
  package : Stands App.Package.load disk (Files.join folder "tcex.json") files.package
  layout : Stands App.Layout.load disk (Files.join folder "layout.json") files.layout

/-- If there is a package file, it names the package. -/
def NamesPackage (files : AppFiles) : Prop :=
  ∀ package, files.package = some package → package.packing.appName ≠ none

/-- The sections in which parameters are shown. -/
def sections (files : AppFiles) : List App.Section :=
  files.layout.elim [] (·.sections)

/-- Every parameter that is shown is declared. -/
def DeclaresShown (files : AppFiles) : Prop :=
  ∀ part ∈ files.sections, ∀ shown ∈ part.parameters,
    ∃ parameter ∈ files.manifest.parameters, parameter.name = shown.name

/-- The names of the parameters that are shown in sections, but not declared. -/
def undeclared (files : AppFiles) (sections : List App.Section) : List String :=
  (sections.flatMap fun part => part.parameters.map (·.name)).filter fun name =>
    name ∉ files.manifest.parameters.map (·.name)

/-- What is wrong with a package that has no name. -/
def namelessPackage (files : AppFiles) : List String :=
  if files.package.any (·.packing.appName.isNone) then
    ["The package.app_name field is required."]
  else []

/-- A parameter is not declared if the manifest has none of its name. -/
theorem filter_parameterNames
    (files : AppFiles)
    (layout : App.Layout) :
    (layout.parameterNames.filter fun name => (files.manifest.parameter? name).isNone) =
      files.undeclared layout.inSequence := by
  refine List.filter_congr fun name _ => ?_
  rw [App.Manifest.parameter?, ← Bool.coe_iff_coe, Option.isNone_iff_eq_none, List.find?_eq_none]
  simp

theorem namelessPackage_eq_nil_iff
    {files : AppFiles} :
    files.namelessPackage = [] ↔ files.NamesPackage := by
  unfold namelessPackage NamesPackage
  cases files.package with
  | none => simp
  | some package => cases package.packing.appName <;> simp

/-- Each parameter is missed as often as it is shown, in whatever order the sections are. -/
theorem undeclared_perm
    (files : AppFiles)
    {sections arranged : List App.Section}
    (same : arranged.Perm sections) :
    (files.undeclared arranged).Perm (files.undeclared sections) :=
  (same.flatMap_right _).filter _

/-- No parameter is undeclared exactly if all that are shown are declared. -/
theorem undeclared_eq_nil_iff
    {files : AppFiles}
    {arranged : List App.Section}
    (arranges : App.Arranged files.sections arranged) :
    files.undeclared arranged = [] ↔ files.DeclaresShown := by
  rw [← List.length_eq_zero_iff, (files.undeclared_perm arranges.perm).length_eq,
    List.length_eq_zero_iff]
  simp only [undeclared, DeclaresShown, List.filter_eq_nil_iff, List.mem_flatMap, List.mem_map,
    decide_eq_true_eq, not_not]
  constructor
  · intro declared part member shown inside
    exact declared shown.name ⟨part, member, shown, inside, rfl⟩
  · rintro declared _ ⟨part, member, shown, inside, rfl⟩
    exact declared part member shown inside

end AppFiles

/-- What is wrong according to a line. -/
def Line.complaint? : Line → Option String
  | .complaint text => some text
  | .result _ => none

/-- What is wrong with a parameter that is shown and not declared. -/
def undeclaredText (name : String) : String :=
  s!"layout.json input '{name}' is not a param in install.json"

/-- What a check of an app leaves behind. -/
structure Checked
    (files : AppFiles)
    (folder : String)
    (result : Except Error Unit)
    (lines : List Line) : Prop where
  /-- It ends well if nothing is wrong. -/
  succeeds : result = .ok () ↔ files.NamesPackage ∧ files.DeclaresShown
  /-- Otherwise it says how many complaints there are. -/
  fails : ∀ error, result = .error error → error = .validation
    s!"{(lines.filterMap Line.complaint?).length} problem(s) found in {folder}"
  /-- There is one for a package without a name, and one wherever an undeclared parameter is shown,
  section by section. -/
  complaints : ∃ arranged, App.Arranged files.sections arranged ∧
    lines.filterMap Line.complaint? =
      (files.namelessPackage ++ (files.undeclared arranged).map undeclaredText).map ("✗ " ++ ·)

/-! ## Parts of the check -/

/-- How a finding is printed. -/
def findingLine (finding : App.Finding) : Line :=
  match finding.severity with
  | .error => .complaint ("✗ " ++ finding.message)
  | .warning => .result ("⚠ " ++ finding.message)

/-- How a parameter that is not declared is printed. -/
def undeclaredLine (name : String) : Line :=
  .complaint ("✗ " ++ undeclaredText name)

section Parts

variable
  {files : AppFiles}
  {disk : Disk}
  {folder : String}
  (stand : files.StandIn disk folder)

include stand

/-- The check of the package prints its findings, and counts the errors among them. -/
theorem outcome_checkPackage (progress : Progress) :
    (checkPackage disk folder).outcome progress =
      let findings := files.package.elim [] App.Package.findings
      (.ok (findings.countP (·.severity = .error)),
        { progress with lines := progress.lines ++ findings.map findingLine }) := by
  unfold checkPackage
  have stands := stand.package
  generalize files.package = package at stands
  cases stands with
  | absent noFile => simp [noFile]
  | present file loaded =>
      simp only [file, if_true, Task.outcome_bind, Task.outcome_lift, loaded, Task.outcome_pure,
        Option.elim_some]
      rw [Task.outcome_forM_of_prints findingLine]
      intro finding
      unfold findingLine
      cases finding.severity <;> rfl

/-- The check of the layout prints the parameters that are not declared, and counts them. -/
theorem outcome_checkLayout :
    ∃ arranged, App.Arranged files.sections arranged ∧ ∀ progress,
      (checkLayout disk folder files.manifest).outcome progress =
        (.ok (files.undeclared arranged).length, { progress with
          lines := progress.lines ++ (files.undeclared arranged).map undeclaredLine }) := by
  unfold checkLayout
  have stands := stand.layout
  cases shown : files.layout with
  | none =>
      rw [shown] at stands
      cases stands with
      | absent noFile =>
          refine ⟨[], ?_, by simp [noFile, AppFiles.undeclared]⟩
          rw [AppFiles.sections, shown]
          exact ⟨.nil, .nil, fun _ => rfl⟩
  | some layout =>
      rw [shown] at stands
      cases stands with
      | present file loaded =>
          refine ⟨layout.inSequence, ?_, ?_⟩
          · rw [AppFiles.sections, shown]
            exact layout.arranged_inSequence
          · intro progress
            simp only [file, if_true, Task.outcome_bind, Task.outcome_lift, loaded,
              files.filter_parameterNames, Task.outcome_pure]
            rw [Task.outcome_forM_of_prints undeclaredLine]
            exact fun _ => rfl

/-- What the check prints, and how it ends. -/
theorem outcome_checkFolder :
    ∃ arranged, App.Arranged files.sections arranged ∧
      let findings := files.package.elim [] App.Package.findings
      let errors := findings.countP (·.severity = .error) + (files.undeclared arranged).length
      ∃ text, ∀ progress, (checkFolder disk folder).outcome progress =
        (if 0 < errors then .error (.validation s!"{errors} problem(s) found in {folder}")
          else .ok (),
          { progress with
            lines := progress.lines ++ (.result text :: (findings.map findingLine ++
              (files.undeclared arranged).map undeclaredLine)) }) := by
  obtain ⟨arranged, arranges, printed⟩ := outcome_checkLayout stand
  let count := files.manifest.parameters.length
  refine ⟨arranged, arranges, "✓ " ++
    s!"install.json is valid ({count} params, prefix '{files.manifest.packagePrefix}')", ?_⟩
  intro progress
  have announced (text : String) : (Task.success text).outcome progress =
      (.ok (), { progress with lines := progress.lines ++ [.result ("✓ " ++ text)] }) := rfl
  unfold checkFolder
  simp only [Task.outcome_bind, Task.outcome_lift, stand.manifest, announced,
    outcome_checkPackage stand, printed, List.append_assoc, List.singleton_append]
  split <;> rfl

end Parts

/-- The findings about a package that are errors say that it has no name. -/
theorem AppFiles.complaints_findings (files : AppFiles) :
    ((files.package.elim [] App.Package.findings).map findingLine).filterMap Line.complaint? =
      files.namelessPackage.map ("✗ " ++ ·) ∧
    (files.package.elim [] App.Package.findings).countP (·.severity = .error) =
      files.namelessPackage.length := by
  unfold namelessPackage
  cases files.package with
  | none => exact ⟨rfl, rfl⟩
  | some package =>
      obtain ⟨⟨appName, appVersion, excludes⟩, name, hash, type⟩ := package
      cases appName <;> cases appVersion <;> exact ⟨rfl, rfl⟩

/-- What the lines of a check complain about. -/
theorem AppFiles.complaints_lines
    (files : AppFiles)
    (arranged : List App.Section)
    (text : String) :
    (Line.result text :: ((files.package.elim [] App.Package.findings).map findingLine ++
      (files.undeclared arranged).map undeclaredLine)).filterMap Line.complaint? =
      (files.namelessPackage ++
        (files.undeclared arranged).map undeclaredText).map ("✗ " ++ ·) := by
  have undeclared (names : List String) : (names.map undeclaredLine).filterMap Line.complaint? =
      (names.map undeclaredText).map ("✗ " ++ ·) := by
    rw [List.filterMap_map, List.map_map, ← List.filterMap_eq_map]
    rfl
  rw [List.filterMap_cons_none rfl, List.filterMap_append, files.complaints_findings.1, undeclared,
    List.map_append]

/-- Whatever the settings, a check of an app ends well if nothing is wrong with its files; otherwise
it has printed one complaint for each thing that is wrong, and says how many these are. -/
theorem app_problems_counted
    {files : AppFiles}
    {disk : Disk}
    {folder : String}
    (stand : files.StandIn disk folder) :
    ∃ result lines, Checked files folder result lines ∧
      ∀ surroundings settings format progress,
        (perform surroundings settings format (.checkApp folder) disk).outcome progress =
          (result, { progress with lines := progress.lines ++ lines }) := by
  obtain ⟨arranged, arranges, text, ended⟩ := outcome_checkFolder stand
  have counted := files.complaints_findings.2
  refine ⟨_, _, ?_, fun _ _ _ progress => ended progress⟩
  refine ⟨?_, ?_, arranged, arranges, files.complaints_lines arranged text⟩
  · rw [← AppFiles.namelessPackage_eq_nil_iff, ← AppFiles.undeclared_eq_nil_iff arranges, counted,
      ← List.length_eq_zero_iff, ← List.length_eq_zero_iff]
    split
    · next some =>
        refine ⟨nofun, fun none => ?_⟩
        omega
    · next none =>
        refine ⟨fun _ => ?_, fun _ => rfl⟩
        omega
  · intro error failed
    rw [files.complaints_lines, List.length_map, List.length_append, List.length_map, ← counted]
    split at failed
    · cases failed
      rfl
    · cases failed

theorem app_problems_counted_of_strays :
    let install := "\x7b\"displayName\":\"App\",\"programLanguage\":\"\",\"programMain\":\"\"," ++
      "\"programVersion\":\"\",\"runtimeLevel\":\"\",\"params\":[[\"known\",\"\",\"String\"]]\x7d"
    let tcex := "\x7b\"package\":\x7b\"app_version\":\"1\"\x7d\x7d"
    let layout := "\x7b\"inputs\":[[2,\"\",[[\"stray\"]]],[1,\"\",[[\"known\"],[\"stray\"]]]]\x7d"
    let texts : List (String × String) :=
      [("a/install.json", install), ("a/tcex.json", tcex), ("a/layout.json", layout)]
    let disk : Disk := ⟨fun _ => none, fun path => (List.lookup path texts).isSome,
      fun path => List.lookup path texts, fun _ => none⟩
    let surroundings : Surroundings := {
      files := ⟨[], []⟩
      environment := []
      now := .epoch
      network := ⟨fun _ => 0, fun _ _ => .received 200 ""⟩ }
    ((perform surroundings (.ok {}) .table (.checkApp "a") disk).outcome {}).1 =
      .error (.validation "3 problem(s) found in a") := by
  intro install tcex layout texts disk surroundings
  have declared : ((Document.ofText? install).bind App.Manifest.codec.read?).map
      (fun manifest => (manifest.parameterNames, manifest.unfairMembers)) =
        some (["known"], []) := by
    decide +kernel
  obtain ⟨manifest, declares, facts⟩ := Option.map_eq_some_iff.mp declared
  have packed : (Document.ofText? tcex).bind App.Package.codec.read? =
      some { packing := { appVersion := some "1" } } := by
    decide +kernel
  have shown : (Document.ofText? layout).bind App.Layout.codec.read? =
      some ⟨[⟨2, "", [⟨"stray", none⟩]⟩, ⟨1, "", [⟨"known", none⟩, ⟨"stray", none⟩]⟩], []⟩ := by
    decide +kernel
  let files : AppFiles := ⟨manifest.identified "", some { packing := { appVersion := some "1" } },
    some ⟨[⟨2, "", [⟨"stray", none⟩]⟩, ⟨1, "", [⟨"known", none⟩, ⟨"stray", none⟩]⟩], []⟩⟩
  have joined : Files.join "a" "install.json" = "a/install.json" ∧
      Files.join "a" "tcex.json" = "a/tcex.json" ∧
      Files.join "a" "layout.json" = "a/layout.json" := by
    decide +kernel
  have readInstall : App.Manifest.codec.readFile disk "a/install.json" = .ok manifest := by
    rw [Codec.readFile, show disk.read? "a/install.json" = some install from rfl]
    simp only [declares]
  have stand : files.StandIn disk "a" := by
    refine ⟨?_, .present ?_ ?_, .present ?_ ?_⟩
    · obtain ⟨-, fair⟩ := Prod.mk.inj facts
      rw [joined.1, App.Manifest.load, readInstall]
      simp only [bind, Except.bind, App.Manifest.check, fair]
      rfl
    · rw [joined.2.1]
      rfl
    · rw [joined.2.1, App.Package.load, Codec.readFile,
        show disk.read? "a/tcex.json" = some tcex from rfl]
      simp only [packed]
    · rw [joined.2.2]
      rfl
    · rw [joined.2.2, App.Layout.load, Codec.readFile,
        show disk.read? "a/layout.json" = some layout from rfl]
      simp only [shown]
  obtain ⟨result, lines, checked, ended⟩ := app_problems_counted stand
  rw [ended]
  have nameless : ¬files.NamesPackage := fun names => names _ rfl rfl
  cases result with
  | ok => exact absurd (checked.succeeds.mp rfl).1 nameless
  | error error =>
      obtain ⟨arranged, arranges, complaints⟩ := checked.complaints
      have names : files.manifest.parameters.map (·.name) = ["known"] := by
        rw [← (Prod.mk.inj facts).1]
        simp only [files, App.Manifest.identified]
        cases manifest.appId <;> rfl
      have strays : (files.undeclared arranged).length = 2 := by
        rw [(files.undeclared_perm arranges.perm).length_eq, AppFiles.undeclared, names]
        rfl
      have named : files.namelessPackage.length = 1 := rfl
      rw [checked.fails error rfl, complaints, List.length_map, List.length_append,
        List.length_map, named, strays]
      rfl

end Command
end ThreatIntel
