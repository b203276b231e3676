import ThreatIntel.Json.File
import ThreatIntel.Json.Printer

/-!
# Packages

How an app is packed, and from which template it was made. The file is written with its members in
order, one to a line.
-/

namespace ThreatIntel
namespace App

/-- How an app is packed. -/
structure Packing where
  /-- The name of the package. -/
  appName : Option String := none
  /-- The version of the package. -/
  appVersion : Option String := none
  /-- What is left out. -/
  excludes : List String := []
  deriving DecidableEq

namespace Packing

/-- The members of a packing section. -/
def form : Form Packing Packing :=
  Form.build Packing.mk
    |>.field "app_name" (·.appName) (.omissible .text)
    |>.field "app_version" (·.appVersion) (.omissible .text)
    |>.field "excludes" (·.excludes) (.defaulted (.list .text) [])

/-- How a packing section is written. -/
def codec : Codec Packing := form.codec

end Packing

/-- The package file of an app. -/
structure Package where
  /-- How the app is packed. -/
  packing : Packing := {}
  /-- The name of its template. -/
  templateName : Option String := none
  /-- The state of the template's sources. -/
  templateRepoHash : Option String := none
  /-- The type of the template. -/
  templateType : Option String := none
  deriving DecidableEq

/-- How bad a finding is. -/
inductive Severity where
  /-- The app cannot be used. -/
  | error
  /-- Something should be changed. -/
  | warning
  deriving DecidableEq, Repr

/-- The name of a severity. -/
def Severity.name : Severity → String
  | error => "Error"
  | warning => "Warning"

/-- What a check found. -/
structure Finding where
  /-- How bad it is. -/
  severity : Severity
  /-- What it is. -/
  message : String
  deriving DecidableEq, Repr

namespace Package

/-- The members of a package file. -/
def form : Form Package Package :=
  Form.build Package.mk
    |>.field "package" (·.packing) (.defaulted Packing.codec {})
    |>.field "template_name" (·.templateName) (.omissible .text)
    |>.field "template_repo_hash" (·.templateRepoHash) (.omissible .text)
    |>.field "template_type" (·.templateType) (.omissible .text)

/-- How a package file is written. -/
def codec : Codec Package := form.codec

/-- The package file at a path. -/
def load (disk : Disk) (path : String) : Except Error Package :=
  codec.readFile disk path

/-- What is wrong with a package file. -/
def findings (package : Package) : List Finding :=
  (if package.packing.appName.isNone then
    [⟨.error, "The package.app_name field is required."⟩] else []) ++
  (if package.packing.appVersion.isSome then
    [⟨.warning, "The package.app_version field is deprecated; " ++
      "use programVersion in install.json."⟩] else [])

/-- The text of a package file: its members in the order of their keys at every level. -/
def text (package : Package) : String :=
  (codec.write package).inKeyOrder.pretty ++ "\n"

/-- Write a package file to a path. -/
def save (files : Files) (path : String) (package : Package) : Except Error Files :=
  match files.write? path package.text with
  | some files => .ok files
  | none => .error (Error.io s!"Failed to write {path}").withCause

end Package
end App
end ThreatIntel
