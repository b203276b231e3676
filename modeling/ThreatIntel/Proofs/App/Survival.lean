import ThreatIntel.App.Layout
import ThreatIntel.App.Manifest
import ThreatIntel.App.Package
import ThreatIntel.Proofs.Json.Stable

/-!
# App files survive

Each structure of an app file has members under different names, and is made of just the members
that it is taken apart into; so its codec is stable. Main statement: a manifest, a package file or a
layout that has been read, from whatever document, is read again from its written form, and then
written as before.
-/

namespace ThreatIntel

namespace App

/-- A list that is left out where it is empty is restored. -/
instance (codec : Codec α) [stable : codec.Stable] : (listEntry codec).Stable where
  restores := by
    intro slot items reads
    have shown : (Entry.defaulted (.list codec) []).Restores items :=
      (inferInstance : (Entry.defaulted (.list codec) []).Stable).restores reads
    refine Entry.restores_hideIf shown fun empty => ?_
    rw [List.isEmpty_iff.mp empty]
    rfl

/-- A level is restored: a list of levels is not taken for one of them. -/
instance (level : RuntimeLevel) : RuntimeLevel.codec.Restores level := by
  refine ⟨?_⟩
  cases level with
  | one level => rfl
  | many levels =>
      have reads : (Codec.list .text).readJson? ((Codec.list .text).write levels) = some levels :=
        (Codec.restores_list fun _ _ => inferInstance).readJson?_write
      exact congrArg (Option.map RuntimeLevel.many) reads

instance : RuntimeLevel.codec.Stable where
  restores _ := inferInstance
  visible := by
    intro _ level _ _
    cases level <;> nofun

/-! ## Parameters and manifests -/

instance : ParameterType.codec.Stable :=
  inferInstanceAs (Codec.names ParameterType.all ParameterType.name).Stable

-- A form has parts once the definition that names it is opened, one member after the other.
instance : Parameter.form.Parts := by delta Parameter.form; infer_instance

instance : Parameter.codec.Stable := Form.stable_codec (by decide) fun _ => rfl

instance : OutputVariable.form.Parts := by delta OutputVariable.form; infer_instance

instance : OutputVariable.codec.Stable := Form.stable_codec (by decide) fun _ => rfl

instance : Retry.form.Parts := by delta Retry.form; infer_instance

instance : Retry.codec.Stable := Form.stable_codec (by decide) fun _ => rfl

instance : Playbook.form.Parts := by delta Playbook.form; infer_instance

instance : Playbook.codec.Stable := Form.stable_codec (by decide) fun _ => rfl

instance : Deprecation.form.Parts := by delta Deprecation.form; infer_instance

instance : Deprecation.codec.Stable := Form.stable_codec (by decide) fun _ => rfl

instance : Feed.form.Parts := by delta Feed.form; infer_instance

instance : Feed.codec.Stable := Form.stable_codec (by decide) fun _ => rfl

instance : Service.form.Parts := by delta Service.form; infer_instance

instance : Service.codec.Stable := Form.stable_codec (by decide) fun _ => rfl

instance : Manifest.form.Parts := by delta Manifest.form; infer_instance

instance : Manifest.codec.Stable := Form.stable_codec (by decide) fun _ => rfl

/-! ## Packages -/

instance : Packing.form.Parts := by delta Packing.form; infer_instance

instance : Packing.codec.Stable := Form.stable_codec (by decide) fun _ => rfl

/-- Whatever a packing section says is restored. -/
instance (packing : Packing) : Packing.codec.Restores packing := by
  have texts (value : Option String) : (Entry.omissible .text).Restores value :=
    Entry.restores_omissible (fun _ _ => nofun) fun _ _ => inferInstance
  have excludes : (Entry.defaulted (.list .text) []).Restores packing.excludes :=
    (Codec.restores_list fun _ _ => inferInstance).readJson?_write
  change Packing.form.codec.Restores packing
  refine Form.restores_codec (by decide) ?_ rfl
  exact ⟨⟨⟨trivial, texts _⟩, texts _⟩, excludes⟩

instance : Package.form.Parts := by delta Package.form; infer_instance

instance : Package.codec.Stable := Form.stable_codec (by decide) fun _ => rfl

/-- Whatever a package file says is restored. -/
instance (package : Package) : Package.codec.Restores package := by
  have texts (value : Option String) : (Entry.omissible .text).Restores value :=
    Entry.restores_omissible (fun _ _ => nofun) fun _ _ => inferInstance
  have packing : (Entry.defaulted Packing.codec {}).Restores package.packing :=
    (inferInstance : Packing.codec.Restores package.packing).readJson?_write
  change Package.form.codec.Restores package
  refine Form.restores_codec (by decide) ?_ rfl
  exact ⟨⟨⟨⟨trivial, packing⟩, texts _⟩, texts _⟩, texts _⟩

/-! ## Layouts -/

instance : LayoutItem.form.Parts := by delta LayoutItem.form; infer_instance

instance : LayoutItem.codec.Stable := Form.stable_codec (by decide) fun _ => rfl

instance : Section.form.Parts := by delta Section.form; infer_instance

instance : Section.codec.Stable := Form.stable_codec (by decide) fun _ => rfl

instance : Layout.form.Parts := by delta Layout.form; infer_instance

instance : Layout.codec.Stable := Form.stable_codec (by decide) fun _ => rfl

/-! ## All app files -/

/-- What is read from the document is read again from its written form, and then written as
before. -/
def Survives (codec : Codec α) (document : Document) : Prop :=
  ∀ value, codec.read? document = some value →
    ∃ again, codec.readJson? (codec.write value) = some again ∧
      again = value ∧ codec.write again = codec.write value

/-- What a stable codec reads survives. -/
theorem survives_of_stable (codec : Codec α) [stable : codec.Stable] (document : Document) :
    Survives codec document := by
  intro value reads
  exact ⟨value, (stable.restores reads).readJson?_write, rfl, rfl⟩

/-- Whatever document is read as a manifest, as a package file or as a layout: the model that is
read from it survives. -/
theorem read_models_survive (document : Document) :
    Survives Manifest.codec document ∧ Survives Package.codec document ∧
      Survives Layout.codec document :=
  ⟨survives_of_stable _ _, survives_of_stable _ _, survives_of_stable _ _⟩

/-- A file with the members of all three models, so that each finds unknown ones. Its levels are a
list, one member has no value, and the default of its parameter has its own members out of order. -/
def mixedFile : Document :=
  .object [
    (some "displayName", .text "Feed"),
    (some "displayPath", .null),
    (some "programLanguage", .text "Python"),
    (some "programMain", .text "run"),
    (some "programVersion", .text "1.0.0"),
    (some "runtimeLevel", .array [.text "Playbook", .text "Organization"]),
    (some "params", .array [.object [
      (some "name", .text "owner"),
      (some "label", .text "Owner"),
      (some "type", .text "Choice"),
      (some "default", .object [
        (some "second", .array [.null, .boolean true]),
        (some "first", .number (.whole (-1)))]),
      (some "sequence", .number (.whole 2))]]),
    (some "package", .object [(some "app_name", .text "feed")]),
    (some "inputs", .array [.object [
      (some "sequence", .number (.whole 1)),
      (some "title", .text "Action")]])]

theorem read_models_survive_mixedFile :
    (∃ manifest, Manifest.codec.read? mixedFile = some manifest ∧
      ∃ again, Manifest.codec.readJson? (Manifest.codec.write manifest) = some again ∧
        again = manifest ∧ Manifest.codec.write again = Manifest.codec.write manifest) ∧
    (∃ package, Package.codec.read? mixedFile = some package ∧
      ∃ again, Package.codec.readJson? (Package.codec.write package) = some again ∧
        again = package ∧ Package.codec.write again = Package.codec.write package) ∧
    (∃ layout, Layout.codec.read? mixedFile = some layout ∧
      ∃ again, Layout.codec.readJson? (Layout.codec.write layout) = some again ∧
        again = layout ∧ Layout.codec.write again = Layout.codec.write layout) := by
  obtain ⟨manifest, readManifest⟩ : ∃ manifest, Manifest.codec.read? mixedFile = some manifest :=
    Option.isSome_iff_exists.mp (by decide +kernel)
  obtain ⟨package, readPackage⟩ : ∃ package, Package.codec.read? mixedFile = some package :=
    Option.isSome_iff_exists.mp (by decide +kernel)
  obtain ⟨layout, readLayout⟩ : ∃ layout, Layout.codec.read? mixedFile = some layout :=
    Option.isSome_iff_exists.mp (by decide +kernel)
  obtain ⟨manifests, packages, layouts⟩ := read_models_survive mixedFile
  exact ⟨⟨manifest, readManifest, manifests manifest readManifest⟩,
    ⟨package, readPackage, packages package readPackage⟩,
    ⟨layout, readLayout, layouts layout readLayout⟩⟩

end App
end ThreatIntel
