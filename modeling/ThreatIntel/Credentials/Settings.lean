import ThreatIntel.Credentials.Mode

/-!
# Stored credentials

What a client may be given to prove who it is. The secrets among it are read but never written.
-/

namespace ThreatIntel
namespace Credentials

/-- What credentials are stored, and which of them are used. -/
structure Settings where
  /-- The way of authentication. -/
  mode : Mode := .hmac
  /-- The name under which the secret key is known. -/
  accessId : Option String := none
  /-- The key of signatures. -/
  secretKey : Option String := none
  /-- The token. -/
  token : Option String := none
  deriving DecidableEq, Repr

namespace Settings

/-- The members of the settings, given how modes and texts are read. -/
def form (mode : Codec Mode) (text : Codec String) : Form Settings Settings :=
  Form.build Settings.mk
    |>.field "mode" (·.mode) (.defaulted mode .hmac)
    |>.field "access_id" (·.accessId) (.nullable text)
    |>.field "secret_key" (·.secretKey) (Entry.nullable text).secret
    |>.field "token" (·.token) (Entry.nullable text).secret

/-- How the settings are written. -/
def codec : Codec Settings := (form Mode.codec .text).codec

end Settings
end Credentials
end ThreatIntel
