import ThreatIntel.Proofs.App.Survival
import ThreatIntel.Proofs.Files
import ThreatIntel.Proofs.Json.Keys

/-!
# Saved packages

A package file holds texts alone, on three levels, so its text is read back whole. Main statement: a
package that has been saved is loaded as it was, and saved again to the same text, in which the keys
ascend.
-/

namespace ThreatIntel
namespace App

/-- The list of what is left out is the second level of a packing section. -/
theorem Packing.tidy_codec : Packing.codec.Tidy 2 := by
  have text : (Entry.omissible .text).Tidy 1 := (Codec.tidy_text 1).omissible
  have excludes : (Entry.defaulted (.list .text) []).Tidy 1 := (Codec.tidy_text 0).list.defaulted []
  have form : Packing.form.Tidy 1 := (((Form.tidy_build 1 _).field text).field text).field excludes
  exact form.codec (by decide) (by decide +kernel)

namespace Package

/-- The packing section lies inside the package. -/
theorem tidy_codec : Package.codec.Tidy 3 := by
  have text : (Entry.omissible .text).Tidy 2 := (Codec.tidy_text 2).omissible
  have packing : (Entry.defaulted Packing.codec {}).Tidy 2 := Packing.tidy_codec.defaulted {}
  have form : Package.form.Tidy 2 :=
    ((((Form.tidy_build 2 _).field packing).field text).field text).field text
  exact form.codec (by decide) (by decide +kernel)

/-- A package is written with its members in order, so that its text shows them as they stand. -/
theorem text_eq (package : Package) :
    package.text = (Package.codec.write package).pretty ++ "\n" := by
  rw [text, Json.inKeyOrder_of_ordered (tidy_codec package).ordered]

/-- The text of a package is read back as what is written of it. -/
theorem ofText?_text (package : Package) :
    Document.ofText? package.text = some (.ofJson (Package.codec.write package)) := by
  rw [text_eq]
  exact Document.ofText?_pretty (tidy_codec package).plain (by decide)

/-- A package is saved where its text can be written. -/
theorem save_eq_ok_iff
    {files written : Files}
    {path : String}
    {package : Package} :
    save files path package = .ok written ↔ files.write? path package.text = some written := by
  unfold save
  cases files.write? path package.text <;> simp

/-- The text of every package is read as a document whose keys ascend. Where it has been saved, this
text is found, the package is loaded as it was, and saving what has been loaded changes nothing. -/
theorem load_of_save (package : Package) :
    (∃ document, Document.ofText? package.text = some document ∧ document.KeysAscend) ∧
    ∀ (files : Files) (path : String) (written : Files), save files path package = .ok written →
      written.read? path = some package.text ∧
      ∃ again, load written path = .ok again ∧ again = package ∧ again.text = package.text ∧
        save written path again = .ok written := by
  refine ⟨⟨_, ofText?_text package, (tidy_codec package).ascend⟩, ?_⟩
  intro files path written saves
  have writes := save_eq_ok_iff.mp saves
  have found : written.read? path = some package.text := Files.read?_of_write? writes
  have restored : Package.codec.read? (.ofJson (Package.codec.write package)) = some package :=
    (inferInstance : Package.codec.Restores package).readJson?_write
  have loaded : load written path = .ok package := by
    simp only [load, Codec.readFile, found, ofText?_text, Option.bind_some, restored]
  have rewritten : written.write? path package.text = some written :=
    (Files.write?_of_write? writes package.text).trans writes
  exact ⟨found, package, loaded, rfl, rfl, save_eq_ok_iff.mpr rewritten⟩

/-- A package whose name has quotes, a backslash, and marks with and without a letter. -/
def marked : Package where
  packing := {
    appName := some "\"feed\"\\\n\t\x01\x1f\x7f",
    excludes := ["", "\u2028", "é"] }
  templateType := some ""

theorem load_of_save_marked :
    ∃ written, save ⟨["work"], []⟩ "p" marked = .ok written ∧
      written.read? "p" = some marked.text ∧
      ∃ again, load written "p" = .ok again ∧ again = marked ∧ again.text = marked.text ∧
        save written "p" again = .ok written := by
  let files : Files := ⟨["work"], []⟩
  have cut : "p".splitOn "/" = ["p"] := by
    rw [String.splitOn, if_neg (by decide), String.splitOnAux, if_neg (by decide)]
    dsimp only
    rw [if_neg (by decide), String.splitOnAux, if_pos (by decide)]
    decide
  have leads : files.locate? "p" = some ["work", "p"] := by
    unfold Files.locate? Files.segments
    rw [cut]
    decide +kernel
  have accepts : files.Accepts ["work", "p"] := ⟨by decide, by decide⟩
  have saves : save files "p" marked = .ok (files.put ["work", "p"] marked.text) :=
    save_eq_ok_iff.mpr (Files.write?_eq_some_iff.mpr ⟨_, leads, accepts, rfl⟩)
  exact ⟨_, saves, (load_of_save marked).2 _ _ _ saves⟩

end Package
end App
end ThreatIntel
