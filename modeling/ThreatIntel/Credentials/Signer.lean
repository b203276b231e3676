import ThreatIntel.Credentials.Settings
import ThreatIntel.Digest.Hmac
import ThreatIntel.Error
import ThreatIntel.Exchange.Basic
import ThreatIntel.Text.Decimal
import ThreatIntel.Text.Literal

/-!
# Signers

What is added to a request so that the server knows who sends it. A signature covers the method, the
target and the time of the request.
-/

namespace ThreatIntel
namespace Credentials

/-- What a client has in hand to prove who it is. -/
inductive Signer where
  /-- Nothing. -/
  | none
  /-- A token. -/
  | token (value : String)
  /-- A key and the name it is known by. -/
  | hmac (accessId secretKey : String)
  deriving DecidableEq, Repr

namespace Signer

/-- The signer that settings ask for. -/
def ofSettings (settings : Settings) : Except Error Signer :=
  match settings.mode with
  | .none => .ok .none
  | .token =>
      match settings.token with
      | some value => .ok (.token value)
      | Option.none => .error (.authentication "auth.token is not set")
  | .hmac =>
      match settings.accessId, settings.secretKey with
      | some accessId, some secretKey => .ok (.hmac accessId secretKey)
      | _, _ => .error (.authentication
          "auth.access_id and auth.secret_key are required for hmac auth")

/-- The text that is signed. -/
def message (target : String) (method : Method) (time : Int64) : String :=
  target ++ ":" ++ method.token ++ ":" ++ String.ofList (Text.intDigits time.toInt)

/-- The headers of a request for a target at a time. -/
def headers (signer : Signer) (target : String) (method : Method) (time : Int64) :
    List (String × String) :=
  match signer with
  | .none => []
  | .token value => [("Authorization", "TC-Token " ++ value)]
  | .hmac accessId secretKey =>
      [("Authorization",
          "TC " ++ accessId ++ ":" ++ Digest.signature secretKey (message target method time)),
        ("Timestamp", String.ofList (Text.intDigits time.toInt))]

/-- The signer in words, without its secrets. -/
def describe : Signer → String
  | .none => "None"
  | .token _ => "Token(<redacted>)"
  | .hmac accessId _ =>
      "Hmac \x7b access_id: " ++ Text.literal accessId ++ ", secret_key: " ++
        Text.literal "<redacted>" ++ " \x7d"

end Signer
end Credentials
end ThreatIntel
