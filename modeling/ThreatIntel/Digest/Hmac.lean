import ThreatIntel.Digest.Sha256
import ThreatIntel.Text.Base64

/-!
# Keyed digests

A digest that only the holder of a key can make: the message is digested under one mask of the key,
and the result under another.
-/

namespace ThreatIntel
namespace Digest

/-- The key filled up to a block; a longer key is digested first. -/
def blockKey (key : List UInt8) : List UInt8 :=
  let short := if 64 < key.length then Sha256.digest key else key
  short ++ List.replicate (64 - short.length) 0

/-- The keyed digest of a message. -/
def hmac (key message : List UInt8) : List UInt8 :=
  let key := blockKey key
  let inner := Sha256.digest (key.map (· ^^^ 0x36) ++ message)
  Sha256.digest (key.map (· ^^^ 0x5C) ++ inner)

/-- The signature of a text under a key, in base 64. -/
def signature (key message : String) : String :=
  String.ofList (Text.Base64.encode (hmac (bytes key) (bytes message)))

end Digest
end ThreatIntel
