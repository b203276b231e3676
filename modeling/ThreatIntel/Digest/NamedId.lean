import ThreatIntel.Digest.Sha1
import ThreatIntel.Text.Hexadecimal

/-!
# Named identifiers

Identifiers of sixteen bytes that follow from a name, and so are the same wherever they are made.
-/

namespace ThreatIntel
namespace Digest

/-- The space of names that the identifiers belong to. -/
def namespaceBytes : List UInt8 :=
  [0x6B, 0xA7, 0xB8, 0x14, 0x9D, 0xAD, 0x11, 0xD1, 0x80, 0xB4, 0x00, 0xC0, 0x4F, 0xD4, 0x30, 0xC8]

/-- The identifier of a name: the front of a digest, marked as made in this way. -/
def namedBytes (name : String) : List UInt8 :=
  let front := (Sha1.digest (namespaceBytes ++ bytes name)).take 16
  let front := front.modify 6 fun byte => (byte &&& 0x0F) ||| 0x50
  front.modify 8 fun byte => (byte &&& 0x3F) ||| 0x80

/-- The identifier of a name as text, in five groups. -/
def namedId (name : String) : String :=
  let digits := (namedBytes name).map Text.hexByte
  let group (start count : Nat) := ((digits.drop start).take count).flatten
  String.ofList (group 0 4 ++ '-' :: group 4 2 ++ '-' :: group 6 2 ++ '-' :: group 8 2 ++
    '-' :: group 10 6)

end Digest
end ThreatIntel
