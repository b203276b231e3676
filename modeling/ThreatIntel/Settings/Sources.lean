import ThreatIntel.Files
import ThreatIntel.Settings.Conversion
import ThreatIntel.Settings.Path
import ThreatIntel.Text.Mark
import ThreatIntel.Toml.Reader

/-!
# Sources of settings

Settings come from a file, which may be missing, and from the environment, which overrides the file
value by value. What neither states has its usual value.
-/

namespace ThreatIntel
namespace Settings

/-- Lay entries over a value one after the other. -/
def setAll (lower : Json) (entries : List (String × Json)) : Json :=
  entries.foldl (fun lower (key, value) => Path.set lower (Path.ofKey key) value) lower

/-- What comes before the name of a setting in the environment. -/
def variablePrefix : List Char := "tcex__".toList

/-- Two underscores stand for a dot. -/
def dotted : List Char → List Char
  | '_' :: '_' :: rest => '.' :: dotted rest
  | c :: rest => c :: dotted rest
  | [] => []

/-- The key of the setting that a variable states, if it states one. -/
def variableKey? (name : String) : Option String :=
  let name := Text.lower name.toList
  if variablePrefix.isPrefixOf name then
    some (String.ofList (dotted (name.drop variablePrefix.length)))
  else none

/-- The value of a variable: a truth value or a number if it reads as one, or else a text. -/
def variableValue (text : String) : Json :=
  if lowercase text = "true" then .boolean true
  else if lowercase text = "false" then .boolean false
  else
    match Text.readInt64? text.toList with
    | some n => .whole n.toInt
    | none =>
        match Binary64.ofChars? text.toList with
        | some x => .number (.real x)
        | none => .text text

/-- The entries that the environment states. -/
def ofEnvironment (environment : List (String × String)) : List (String × Json) :=
  environment.filterMap fun (name, text) =>
    (variableKey? name).map fun key => (key, variableValue text)

/-- A form in which settings files are written. -/
inductive FileFormat where
  /-- Lines of keys and values, under headers. -/
  | lines
  /-- JSON. -/
  | json
  deriving DecidableEq, Repr

namespace FileFormat

/-- Every form. -/
def all : List FileFormat := [lines, json]

/-- What the names of such files end in. -/
def extension : FileFormat → String
  | lines => "toml"
  | json => "json"

/-- The members that a file states, if it is well formed. -/
def read? (format : FileFormat) (content : String) : Option (List (String × Json)) :=
  let content := String.ofList (Text.unmarked content.toList)
  match format with
  | lines => (Toml.ofText? content).bind Json.members?
  | json => (Json.ofText? content).bind Json.members?

end FileFormat

/-- What follows the last dot in the last name of a path, if a name stands before it. -/
def extension? (path : String) : Option String :=
  let name := (path.splitOn "/").getLastD ""
  match (name.splitOn ".").reverse with
  | last :: before :: earlier => if earlier.isEmpty ∧ before = "" then none else some last
  | _ => none

/-- The settings file that a path names, with its form: the path itself, or the path with an
extension. -/
def file? (files : Files) (path : String) : Option (FileFormat × String) :=
  match files.read? path with
  | some content =>
      (FileFormat.all.find? fun format => extension? path == some format.extension).map (·, content)
  | none =>
      FileFormat.all.findSome? fun format =>
        (files.read? (path ++ "." ++ format.extension)).map (format, ·)

/-- The members that the settings file at a path states; without a file there are none. -/
def ofFile (files : Files) (path : String) : Except Error (List (String × Json)) :=
  match file? files path with
  | none => .ok []
  | some (format, content) =>
      match format.read? content with
      | some members => .ok members
      | none => .error (Error.configuration "Failed to build config")

/-- The settings from the file at a path and the environment. -/
def load (files : Files) (environment : List (String × String)) (path : String) :
    Except Error Settings := do
  let members ← ofFile files path
  let stated := setAll (setAll (.object []) members) (ofEnvironment environment)
  match (codecWith conversions).readJson? stated with
  | none => .error (Error.configuration "Failed to deserialize config")
  | some settings =>
      settings.validate
      pure settings

end Settings
end ThreatIntel
