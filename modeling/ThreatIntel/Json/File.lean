import ThreatIntel.Error
import ThreatIntel.Files
import ThreatIntel.Json.Codec
import ThreatIntel.Json.Reader

/-!
# JSON files

Values that are kept in files of their own.
-/

namespace ThreatIntel
namespace Codec

/-- The value that the file at a path states. -/
def readFile (codec : Codec α) (disk : Disk) (path : String) : Except Error α :=
  match disk.read? path with
  | none => .error (Error.io s!"Failed to read {path}").withCause
  | some content =>
      match (Document.ofText? content).bind codec.read? with
      | some value => .ok value
      | none => .error (Error.validation s!"Invalid JSON in {path}").withCause

end Codec
end ThreatIntel
