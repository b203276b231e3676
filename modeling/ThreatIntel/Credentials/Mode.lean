import ThreatIntel.Json.Codec

/-!
# Modes of authentication

The ways in which a client proves who it is.
-/

namespace ThreatIntel
namespace Credentials

/-- A way to prove who sends a request. -/
inductive Mode where
  /-- A signature made with a secret key. -/
  | hmac
  /-- A token. -/
  | token
  /-- No proof. -/
  | none
  deriving DecidableEq, Repr

namespace Mode

/-- Every mode. -/
def all : List Mode := [hmac, token, none]

/-- The name under which a mode is stored. -/
def name : Mode → String
  | hmac => "hmac"
  | token => "token"
  | none => "none"

/-- The name of a mode in messages. -/
def title : Mode → String
  | hmac => "Hmac"
  | token => "Token"
  | none => "None"

/-- How a mode is written. -/
def codec : Codec Mode := .names all name

end Mode
end Credentials
end ThreatIntel
